import RevitPy.QuotedStrings
import RevitPy.ValueTexts

/-!
# What was written is read

The texts of a value in a dialect, with blanks between its parts, some of which the writer
writes. Each is read as the value.
-/

namespace RevitPy.Json

/-- What a part of a text stands for. -/
inductive Part
  | value (v : Json)
  | member (m : String × Json)
  | items (vs : List Json)
  | members (ms : List (String × Json))

def Blank (text : List Char) : Prop := ∀ c ∈ text, isSpace c = true

/-- The texts of a part. -/
inductive Spells (d : Dialect) : Part → List Char → Prop
  | word {word : List Char} {v : Json} (member : (word, v) ∈ d.words) : Spells d (.value v) word
  | number {literal : String} (whole : numeral literal.toList = true) : Spells d (.value (.number literal)) literal.toList
  | str (value : String) : Spells d (.value (.str value)) (d.quote value)
  | empty : Spells d (.value (.arr [])) ['[', ']']
  | arr {vs : List Json} {a t b : List Char} (before : Blank a) (items : Spells d (.items vs) t) (after : Blank b) :
      Spells d (.value (.arr vs)) ('[' :: (a ++ t ++ b ++ [']']))
  | emptyObj : Spells d (.value (.obj [])) ['\x7b', '\x7d']
  | obj {ms : List (String × Json)} {a t b : List Char} (before : Blank a) (members : Spells d (.members ms) t) (after : Blank b) :
      Spells d (.value (.obj ms)) ('\x7b' :: (a ++ t ++ b ++ ['\x7d']))
  | member (key : String) {v : Json} {t a : List Char} (before : Blank a) (value : Spells d (.value v) t) :
      Spells d (.member (key, v)) (d.quote key ++ ':' :: (a ++ t))
  | item {v : Json} {t : List Char} (value : Spells d (.value v) t) : Spells d (.items [v]) t
  | moreItems {v : Json} {vs : List Json} {t a u : List Char} (value : Spells d (.value v) t) (between : Blank a) (more : Spells d (.items vs) u) :
      Spells d (.items (v :: vs)) (t ++ ',' :: (a ++ u))
  | lastMember {m : String × Json} {t : List Char} (only : Spells d (.member m) t) : Spells d (.members [m]) t
  | moreMembers {m : String × Json} {ms : List (String × Json)} {t a u : List Char} (first : Spells d (.member m) t) (between : Blank a)
      (more : Spells d (.members ms) u) : Spells d (.members (m :: ms)) (t ++ ',' :: (a ++ u))

variable {d : Dialect}

/-! ## Writing -/

theorem blank_newline (indent : Option Nat) (level : Nat) : Blank (newline indent level) := by
  cases indent with
  | none => exact fun c member => absurd member List.not_mem_nil
  | some n =>
    intro c member
    rcases List.mem_cons.mp member with rfl | more
    · rfl
    · rw [List.eq_of_mem_replicate more]
      rfl

theorem separator_blank (indent : Option Nat) (level : Nat) : ∃ blank, separator indent level = ',' :: blank ∧ Blank blank := by
  cases indent with
  | none => exact ⟨[' '], rfl, fun c member => by rw [List.mem_singleton.mp member]; rfl⟩
  | some n => exact ⟨_, rfl, blank_newline (some n) level⟩

theorem spells_number {literal : String} (number : d.isNumber literal = true) : Spells d (.value (.number literal)) literal.toList := by
  simp only [Dialect.isNumber, Bool.or_eq_true, decide_eq_true_eq] at number
  rcases number with whole | word
  · exact .number whole
  · refine .word ?_
    simp only [Dialect.words, List.mem_cons, List.mem_map]
    exact Or.inr (Or.inr (Or.inr ⟨literal, word, rfl⟩))

mutual

/-- A value is written as a text of it. -/
theorem spells_write (d : Dialect) (indent : Option Nat) (level : Nat) : (v : Json) → d.proper v = true → Spells d (.value v) (write d indent level v)
  | .null, _ => .word List.mem_cons_self
  | .bool true, _ => .word (List.mem_cons_of_mem _ List.mem_cons_self)
  | .bool false, _ => .word (List.mem_cons_of_mem _ (List.mem_cons_of_mem _ List.mem_cons_self))
  | .number _, numbers => spells_number numbers
  | .str value, _ => .str value
  | .arr [], _ => .empty
  | .arr (v :: vs), numbers => by
    obtain ⟨first, more⟩ := (Bool.and_eq_true ..).mp numbers
    exact .arr (blank_newline indent (level + 1)) (spells_items d indent (level + 1) vs more (spells_write d indent (level + 1) v first))
      (blank_newline indent level)
  | .obj [], _ => .emptyObj
  | .obj ((key, v) :: ms), numbers => by
    obtain ⟨first, more⟩ := (Bool.and_eq_true ..).mp numbers
    have member := Spells.member key (a := [' ']) (by simp [Blank, isSpace]) (spells_write d indent (level + 1) v first)
    exact .obj (blank_newline indent (level + 1)) (spells_members d indent (level + 1) ms more member) (blank_newline indent level)

theorem spells_items (d : Dialect) (indent : Option Nat) (level : Nat) : (vs : List Json) → d.properItems vs = true → {v : Json} → {t : List Char} →
    Spells d (.value v) t → Spells d (.items (v :: vs)) (t ++ writeItems d indent level vs)
  | [], _, _, t, value => by
    rw [writeItems, List.append_nil]
    exact .item value
  | w :: vs, numbers, _, _, value => by
    obtain ⟨first, rest⟩ := (Bool.and_eq_true ..).mp numbers
    obtain ⟨blank, shape, is_blank⟩ := separator_blank indent level
    have more := spells_items d indent level vs rest (spells_write d indent level w first)
    rw [writeItems, shape]
    exact .moreItems value is_blank more

theorem spells_members (d : Dialect) (indent : Option Nat) (level : Nat) : (ms : List (String × Json)) → d.properMembers ms = true → {m : String × Json} →
    {t : List Char} → Spells d (.member m) t → Spells d (.members (m :: ms)) (t ++ writeMembers d indent level ms)
  | [], _, _, t, member => by
    rw [writeMembers, List.append_nil]
    exact .lastMember member
  | (key, v) :: ms, numbers, _, _, member => by
    obtain ⟨first, rest⟩ := (Bool.and_eq_true ..).mp numbers
    obtain ⟨blank, shape, is_blank⟩ := separator_blank indent level
    have next := Spells.member key (a := [' ']) (by simp [Blank, isSpace]) (spells_write d indent level v first)
    have more := spells_members d indent level ms rest next
    rw [writeMembers, shape]
    exact .moreMembers member is_blank more

end

/-- Two lists of items with a comma between. -/
theorem Spells.append {vs us : List Json} {t u : List Char} (left : Spells d (.items vs) t) (right : Spells d (.items us) u) :
    Spells d (.items (vs ++ us)) (t ++ ',' :: u) := by
  generalize whole : Part.items vs = part at left
  induction left generalizing vs with
  | item value =>
    obtain rfl := Part.items.inj whole
    exact .moreItems (a := []) value (by simp [Blank]) right
  | moreItems value between _ _ ih =>
    obtain rfl := Part.items.inj whole
    have more := ih rfl
    simpa using Spells.moreItems value between more
  | _ => cases whole

/-- The text of an object begins with its brace. -/
theorem Spells.brace {ms : List (String × Json)} {text : List Char} (spells : Spells d (.value (.obj ms)) text) :
    ∃ more, text = '\x7b' :: more := by
  cases spells with
  | word member => simp [Dialect.words] at member
  | emptyObj => exact ⟨_, rfl⟩
  | obj _ _ _ => exact ⟨_, rfl⟩

/-! ## Numbers -/

/-- A number does not go on here. -/
def Stops (text : List Char) : Prop := ∀ c, text.head? = some c → isNumberChar c = false

/-- Characters of numbers were taken off a text. -/
def Takes (text rest : List Char) : Prop := ∃ taken, text = taken ++ rest ∧ ∀ c ∈ taken, isNumberChar c = true

theorem Takes.refl (text : List Char) : Takes text text := ⟨[], rfl, by simp⟩

theorem Takes.cons {c : Char} {text rest : List Char} (number : isNumberChar c = true) (takes : Takes text rest) : Takes (c :: text) rest := by
  obtain ⟨taken, rfl, all⟩ := takes
  refine ⟨c :: taken, rfl, fun d member => ?_⟩
  rcases List.mem_cons.mp member with rfl | more
  · exact number
  · exact all d more

theorem Takes.trans {text middle rest : List Char} (left : Takes text middle) (right : Takes middle rest) : Takes text rest := by
  obtain ⟨taken, rfl, all⟩ := left
  obtain ⟨more, rfl, all_more⟩ := right
  refine ⟨taken ++ more, by simp, fun c member => ?_⟩
  rcases List.mem_append.mp member with before | after
  · exact all c before
  · exact all_more c after

theorem isNumberChar_of_isDigit {c : Char} (digit : c.isDigit = true) : isNumberChar c = true := by simp [isNumberChar, digit]

theorem takes_dropWhile (text : List Char) : Takes text (text.dropWhile Char.isDigit) :=
  ⟨text.takeWhile Char.isDigit, (List.takeWhile_append_dropWhile ..).symm, fun _ member =>
    isNumberChar_of_isDigit (List.mem_takeWhile_imp member)⟩

theorem takes_digits {text rest : List Char} (read : digits text = some rest) : Takes text rest := by
  cases text with
  | nil => cases read
  | cons c text =>
    by_cases digit : c.isDigit = true
    · obtain rfl := Option.some.inj ((if_pos digit).symm.trans read)
      exact .cons (isNumberChar_of_isDigit digit) (takes_dropWhile text)
    · simp [digits, digit] at read

theorem takes_integerPart {text rest : List Char} (read : integerPart text = some rest) : Takes text rest := by
  cases text with
  | nil => cases read
  | cons c text =>
    by_cases zero : c = '0'
    · obtain rfl := Option.some.inj ((if_pos zero).symm.trans read)
      exact .cons (by simp [zero, isNumberChar]) (.refl _)
    · exact takes_digits ((if_neg zero).symm.trans read)

theorem takes_fraction {text rest : List Char} (read : fraction text = some rest) : Takes text rest := by
  cases text with
  | nil =>
    obtain rfl := Option.some.inj read
    exact .refl _
  | cons c text =>
    by_cases point : c = '.'
    · exact .cons (by simp [point, isNumberChar]) (takes_digits ((if_pos point).symm.trans read))
    · obtain rfl := Option.some.inj ((if_neg point).symm.trans read)
      exact .refl _

theorem takes_sign (text : List Char) : Takes text (sign text) := by
  cases text with
  | nil => exact .refl _
  | cons c text =>
    by_cases signed : c = '+' ∨ c = '-'
    · rw [sign, if_pos signed]
      exact .cons (by rcases signed with rfl | rfl <;> rfl) (.refl _)
    · rw [sign, if_neg signed]
      exact .refl _

theorem takes_exponent {text rest : List Char} (read : exponent text = some rest) : Takes text rest := by
  cases text with
  | nil =>
    obtain rfl := Option.some.inj read
    exact .refl _
  | cons c text =>
    by_cases mark : c = 'e' ∨ c = 'E'
    · have number : isNumberChar c = true := by rcases mark with rfl | rfl <;> rfl
      exact .cons number ((takes_sign text).trans (takes_digits ((if_pos mark).symm.trans read)))
    · obtain rfl := Option.some.inj ((if_neg mark).symm.trans read)
      exact .refl _

theorem takes_minus (text : List Char) : Takes text (minus text) := by
  cases text with
  | nil => exact .refl _
  | cons c text =>
    by_cases negative : c = '-'
    · rw [minus, if_pos negative]
      exact .cons (by simp [negative, isNumberChar]) (.refl _)
    · rw [minus, if_neg negative]
      exact .refl _

/-- A number has only characters of numbers. -/
theorem isNumberChar_of_numeral {text : List Char} (whole : numeral text = true) : ∀ c ∈ text, isNumberChar c = true := by
  simp only [numeral, decide_eq_true_eq, Option.bind_eq_bind, Option.bind_eq_some_iff] at whole
  obtain ⟨a, ⟨b, integer, frac⟩, exp⟩ := whole
  obtain ⟨taken, shape, all⟩ := (takes_minus text).trans ((takes_integerPart integer).trans ((takes_fraction frac).trans (takes_exponent exp)))
  rw [shape, List.append_nil]
  exact all

theorem takeWhile_of_stops {text rest : List Char} (all : ∀ c ∈ text, isNumberChar c = true) (stops : Stops rest) :
    (text ++ rest).takeWhile isNumberChar = text ∧ (text ++ rest).dropWhile isNumberChar = rest := by
  rw [List.takeWhile_append_of_pos all, List.dropWhile_append_of_pos all]
  cases rest with
  | nil => simp
  | cons c rest => simp [stops c rfl]

theorem readNumber_numeral {literal : String} {rest : List Char} (whole : numeral literal.toList = true) (stops : Stops rest) :
    readNumber (literal.toList ++ rest) = some (.number literal, rest) := by
  obtain ⟨taken, left⟩ := takeWhile_of_stops (isNumberChar_of_numeral whole) stops
  simp [readNumber, taken, left, whole]

theorem toDigits_positive (n : Nat) : ∃ c ds, Nat.toDigits 10 (n + 1) = c :: ds ∧ c.isDigit = true ∧ c ≠ '0' ∧ ∀ d ∈ ds, d.isDigit = true := by
  induction n using Nat.strong_induction_on with
  | _ n ih =>
    by_cases small : n + 1 < 10
    · have each : ∀ d : Fin 10, d.val ≠ 0 → (Nat.digitChar d).isDigit = true ∧ Nat.digitChar d ≠ '0' := by decide
      obtain ⟨digit, no_zero⟩ := each ⟨n + 1, small⟩ (Nat.succ_ne_zero n)
      exact ⟨_, [], Nat.toDigits_of_lt_base small, digit, no_zero, fun d member => absurd member List.not_mem_nil⟩
    · obtain ⟨m, before⟩ := Nat.exists_eq_succ_of_ne_zero (n := (n + 1) / 10) (by omega)
      obtain ⟨c, ds, shape, digit, no_zero, all⟩ := ih m (by omega)
      rw [Nat.toDigits_of_base_le (by decide) (by omega), before, shape]
      refine ⟨c, ds ++ [((n + 1) % 10).digitChar], rfl, digit, no_zero, fun d member => ?_⟩
      rcases List.mem_append.mp member with first | last
      · exact all d first
      · rw [List.mem_singleton.mp last]
        have each : ∀ d : Fin 10, (Nat.digitChar d).isDigit = true := by decide
        exact each ⟨(n + 1) % 10, Nat.mod_lt _ (by decide)⟩

theorem numeral_toDigits (n : Nat) : numeral (Nat.toDigits 10 n) = true := by
  cases n with
  | zero => rfl
  | succ n =>
    obtain ⟨c, ds, shape, digit, no_zero, all⟩ := toDigits_positive n
    have no_minus : c ≠ '-' := by
      rintro rfl
      cases digit
    have none_left : ds.dropWhile Char.isDigit = [] := List.dropWhile_eq_nil_iff.mpr all
    simp [numeral, shape, minus, no_minus, integerPart, no_zero, digit, none_left, fraction, exponent]

/-- A natural number is written as one. -/
theorem isNumber_repr (d : Dialect) (n : Nat) : d.isNumber n.repr = true := by simp [Dialect.isNumber, numeral_toDigits]

/-! ## Reading -/

theorem stops_cons {c : Char} (other : isNumberChar c = false) (rest : List Char) : Stops (c :: rest) := by
  intro d head
  obtain rfl := Option.some.inj head
  exact other

theorem isNumberChar_of_isSpace {c : Char} (space : isSpace c = true) : isNumberChar c = false := by
  simp only [isSpace, Bool.or_eq_true, decide_eq_true_eq] at space
  rcases space with ((rfl | rfl) | rfl) | rfl <;> rfl

theorem stops_blank {blank : List Char} (is_blank : Blank blank) {c : Char} (other : isNumberChar c = false) (rest : List Char) :
    Stops (blank ++ c :: rest) := by
  cases blank with
  | nil => exact stops_cons other rest
  | cons d blank => exact stops_cons (isNumberChar_of_isSpace (is_blank d List.mem_cons_self)) (blank ++ c :: rest)

theorem skip_blank {blank : List Char} (is_blank : Blank blank) {c : Char} (other : isSpace c = false) (rest : List Char) :
    skip (blank ++ c :: rest) = c :: rest := by
  rw [skip, List.dropWhile_append_of_pos is_blank]
  simp [other]

/-- What a part of a text begins with. -/
structure Opens (c : Char) : Prop where
  visible : isSpace c = false
  no_bracket : c ≠ ']'
  no_brace : c ≠ '\x7d'

theorem opens_of_isNumberChar {c : Char} (number : isNumberChar c = true) : Opens c := by
  refine ⟨?_, ?_, ?_⟩
  · by_contra space
    simp [isNumberChar_of_isSpace (by simpa using space)] at number
  · rintro rfl
    cases number
  · rintro rfl
    cases number

/-- What a dialect's words and strings have to do with each other. -/
structure Dialect.Lawful (d : Dialect) : Prop where
  word : ∀ word v, (word, v) ∈ d.words → ∃ c more, word = c :: more ∧ Opens c ∧ d.isMark c = false ∧ c ≠ '[' ∧ c ≠ '\x7b' ∧
    ∀ rest, (readNumber (word ++ rest)).or (readWord d.words (word ++ rest)) = some (v, rest)
  mark : ∀ c, d.isMark c = true → Opens c ∧ isNumberChar c = false
  bracket : d.isMark '[' = false
  brace : d.isMark '\x7b' = false
  quote : ∀ value, ∃ c more, d.quote value = c :: more ∧ d.isMark c = true
  readString_quote : ∀ value fuel rest, (d.quote value).length ≤ fuel → d.readString fuel (d.quote value ++ rest) = some (value, rest)

section
variable (lawful : d.Lawful)
include lawful

theorem Spells.opens {part : Part} {text : List Char} (spells : Spells d part text) : ∃ c rest, text = c :: rest ∧ Opens c := by
  have quote_opens (value : String) : ∃ c rest, d.quote value = c :: rest ∧ Opens c := by
    obtain ⟨c, more, shape, mark⟩ := lawful.quote value
    exact ⟨c, more, shape, (lawful.mark c mark).1⟩
  induction spells with
  | word member =>
    obtain ⟨c, more, shape, opens, _⟩ := lawful.word _ _ member
    exact ⟨c, more, shape, opens⟩
  | @number literal whole =>
    cases shape : literal.toList with
    | nil =>
      rw [shape] at whole
      cases whole
    | cons c rest => exact ⟨c, rest, rfl, opens_of_isNumberChar (isNumberChar_of_numeral whole c (by simp [shape]))⟩
  | str value => exact quote_opens value
  | empty | arr | emptyObj | obj => exact ⟨_, _, rfl, by decide, by decide, by decide⟩
  | member key =>
    obtain ⟨c, rest, shape, opens⟩ := quote_opens key
    exact ⟨c, _, by rw [shape, List.cons_append], opens⟩
  | item _ ih => exact ih
  | lastMember _ ih => exact ih
  | moreItems _ _ _ first =>
    obtain ⟨c, rest, rfl, opens⟩ := first
    exact ⟨c, _, rfl, opens⟩
  | moreMembers _ _ _ first =>
    obtain ⟨c, rest, rfl, opens⟩ := first
    exact ⟨c, _, rfl, opens⟩

end

/-- A text of a part is read as the part, wherever it stands. -/
def Reads (d : Dialect) (text : List Char) : Part → Prop
  | .value v => ∀ fuel rest, text.length < fuel → Stops rest → readValue d fuel (text ++ rest) = some (v, rest)
  | .member m => ∀ fuel rest, text.length < fuel → Stops rest →
      readPair (d.readString fuel) ':' (readValue d fuel) (text ++ rest) = some (m, rest)
  | .items vs => ∀ fuel n blank rest, text.length < fuel → text.length < n → Blank blank →
      readList (readValue d fuel) ']' n (text ++ (blank ++ ']' :: rest)) = some (vs, rest)
  | .members ms => ∀ fuel n blank rest, text.length < fuel → text.length < n → Blank blank →
      readList (readPair (d.readString fuel) ':' (readValue d fuel)) '\x7d' n (text ++ (blank ++ '\x7d' :: rest)) = some (ms, rest)

theorem closing_bracket {close : Char} (closes : close = ']' ∨ close = '\x7d') :
    isNumberChar close = false ∧ isSpace close = false ∧ close ≠ ',' := by
  rcases closes with rfl | rfl <;> exact ⟨rfl, rfl, by decide⟩

section
variable {α : Type} {read : List Char → Option (α × List Char)} {close : Char} {a : α} {as : List α} {text blank rest : List Char}

/-- The content of brackets. -/
theorem readContent_of_reads {fuel : Nat} {before : List Char} (is_blank : Blank before) (opens : ∃ c more, text = c :: more ∧ Opens c)
    (closes : close = ']' ∨ close = '\x7d') (reads : readList read close fuel (text ++ (blank ++ close :: rest)) = some (as, rest)) :
    readContent read close fuel (before ++ text ++ blank ++ [close] ++ rest) = some (as, rest) := by
  obtain ⟨c, more, rfl, opens⟩ := opens
  have apart : c ≠ close := by
    rcases closes with rfl | rfl
    · exact opens.no_bracket
    · exact opens.no_brace
  have skipped := skip_blank is_blank opens.visible (more ++ (blank ++ close :: rest))
  simp only [List.append_assoc, List.cons_append, List.nil_append, readContent] at skipped reads ⊢
  rw [skipped]
  simpa [apart] using reads

/-- The last element of a list. -/
theorem readList_last (first : ∀ left, Stops left → read (text ++ left) = some (a, left)) (is_blank : Blank blank)
    (closes : close = ']' ∨ close = '\x7d') (n : Nat) : readList read close (n + 1) (text ++ (blank ++ close :: rest)) = some ([a], rest) := by
  obtain ⟨no_number, visible, _⟩ := closing_bracket closes
  rw [readList, first _ (stops_blank is_blank no_number rest)]
  simp [skip_blank is_blank visible]

/-- One more element, and a comma. -/
theorem readList_more (first : ∀ left, Stops left → read (text ++ left) = some (a, left)) (is_blank : Blank blank) {more : List Char}
    (opens : ∃ c left, more = c :: left ∧ Opens c) (closes : close = ']' ∨ close = '\x7d') {n : Nat} {tail : List Char}
    (others : readList read close n (more ++ tail) = some (as, rest)) :
    readList read close (n + 1) (text ++ ',' :: (blank ++ more) ++ tail) = some (a :: as, rest) := by
  obtain ⟨c, left, rfl, visible⟩ := opens
  have comma : ',' ≠ close := Ne.symm (closing_bracket closes).2.2
  have skipped := skip_blank is_blank visible.visible (left ++ tail)
  rw [List.append_assoc, List.cons_append, readList, first _ (stops_cons rfl _)]
  have here : skip (',' :: (blank ++ c :: left ++ tail)) = ',' :: (blank ++ c :: left ++ tail) := rfl
  simp only [Option.bind_eq_bind, Option.bind_some, here, if_neg comma, if_true]
  simp only [List.append_assoc, List.cons_append] at skipped others ⊢
  rw [skipped, others]
  rfl

end

/-- A pair is read where its parts are. -/
theorem readPair_of_reads {readKey : List Char → Option (String × List Char)} {mark : Char} {read : List Char → Option (Json × List Char)}
    {key : String} {v : Json} {quoted blank text rest : List Char} (key_read : ∀ left, readKey (quoted ++ left) = some (key, left))
    (visible : isSpace mark = false) (is_blank : Blank blank) (opens : ∃ c more, text = c :: more ∧ Opens c)
    (value_read : read (text ++ rest) = some (v, rest)) :
    readPair readKey mark read (quoted ++ mark :: (blank ++ text) ++ rest) = some ((key, v), rest) := by
  obtain ⟨c, more, rfl, opens⟩ := opens
  have skipped := skip_blank is_blank opens.visible (more ++ rest)
  have no_blank : Blank [] := fun _ member => absurd member List.not_mem_nil
  have here : skip (mark :: (blank ++ (c :: more) ++ rest)) = mark :: (blank ++ (c :: more) ++ rest) := skip_blank no_blank visible _
  rw [List.append_assoc, List.cons_append, readPair, key_read]
  simp only [Option.bind_eq_bind, Option.bind_some, here, if_true]
  simp only [List.append_assoc, List.cons_append] at skipped value_read ⊢
  rw [skipped, value_read]
  rfl

section
variable (lawful : d.Lawful)
include lawful

theorem readValue_word {word : List Char} {v : Json} (member : (word, v) ∈ d.words) (fuel : Nat) (rest : List Char) :
    readValue d (fuel + 1) (word ++ rest) = some (v, rest) := by
  obtain ⟨c, more, rfl, _, no_mark, no_list, no_brace, read⟩ := lawful.word _ _ member
  have word_read := read rest
  simp only [List.cons_append] at word_read ⊢
  rw [readValue, no_mark, if_neg no_list, if_neg no_brace, word_read]
  rfl

theorem readValue_numeral {literal : String} (whole : numeral literal.toList = true) (fuel : Nat) {rest : List Char} (stops : Stops rest) :
    readValue d (fuel + 1) (literal.toList ++ rest) = some (.number literal, rest) := by
  have read := readNumber_numeral whole stops
  cases shape : literal.toList with
  | nil =>
    rw [shape] at whole
    cases whole
  | cons c more =>
    have number := isNumberChar_of_numeral whole c (by simp [shape])
    have no_mark : d.isMark c = false := by
      by_contra mark
      have other := (lawful.mark c (by simpa using mark)).2
      simp [number] at other
    have others : c ≠ '[' ∧ c ≠ '\x7b' := by
      constructor <;>
      · rintro rfl
        cases number
    rw [shape] at read
    simp only [List.cons_append] at read ⊢
    rw [readValue, no_mark, if_neg others.1, if_neg others.2, read]
    rfl

theorem readValue_quote (value : String) {fuel : Nat} (enough : (d.quote value).length ≤ fuel) (rest : List Char) :
    readValue d (fuel + 1) (d.quote value ++ rest) = some (.str value, rest) := by
  have read := lawful.readString_quote value fuel rest enough
  obtain ⟨c, more, shape, mark⟩ := lawful.quote value
  rw [shape, List.cons_append] at read ⊢
  rw [readValue, if_pos mark, read]
  rfl

theorem reads_of_spells {part : Part} {text : List Char} (spells : Spells d part text) : Reads d text part := by
  induction spells with
  | word member =>
    intro fuel rest enough _
    obtain ⟨fuel, rfl⟩ := Nat.exists_eq_succ_of_ne_zero (Nat.ne_of_gt (Nat.zero_lt_of_lt enough))
    exact readValue_word lawful member fuel rest
  | number whole =>
    intro fuel rest enough stops
    obtain ⟨fuel, rfl⟩ := Nat.exists_eq_succ_of_ne_zero (Nat.ne_of_gt (Nat.zero_lt_of_lt enough))
    exact readValue_numeral lawful whole fuel stops
  | str value =>
    intro fuel rest enough _
    obtain ⟨fuel, rfl⟩ := Nat.exists_eq_succ_of_ne_zero (Nat.ne_of_gt (Nat.zero_lt_of_lt enough))
    exact readValue_quote lawful value (Nat.le_of_lt_succ enough) rest
  | empty =>
    intro fuel rest enough _
    obtain ⟨fuel, rfl⟩ := Nat.exists_eq_succ_of_ne_zero (Nat.ne_of_gt (Nat.zero_lt_of_lt enough))
    rw [List.cons_append, readValue, lawful.bracket]
    rfl
  | arr before items after ih =>
    intro fuel rest enough _
    obtain ⟨fuel, rfl⟩ := Nat.exists_eq_succ_of_ne_zero (Nat.ne_of_gt (Nat.zero_lt_of_lt enough))
    simp only [List.length_cons, List.length_append, List.length_nil] at enough
    have read := readContent_of_reads before (items.opens lawful) (Or.inl rfl) (ih fuel fuel _ rest (by omega) (by omega) after)
    rw [List.cons_append, readValue, lawful.bracket, read]
    rfl
  | emptyObj =>
    intro fuel rest enough _
    obtain ⟨fuel, rfl⟩ := Nat.exists_eq_succ_of_ne_zero (Nat.ne_of_gt (Nat.zero_lt_of_lt enough))
    rw [List.cons_append, readValue, lawful.brace]
    rfl
  | obj before members after ih =>
    intro fuel rest enough _
    obtain ⟨fuel, rfl⟩ := Nat.exists_eq_succ_of_ne_zero (Nat.ne_of_gt (Nat.zero_lt_of_lt enough))
    simp only [List.length_cons, List.length_append, List.length_nil] at enough
    have read := readContent_of_reads before (members.opens lawful) (Or.inr rfl) (ih fuel fuel _ rest (by omega) (by omega) after)
    rw [List.cons_append, readValue, lawful.brace, read]
    rfl
  | member key before value ih =>
    intro fuel rest enough stops
    simp only [List.length_cons, List.length_append] at enough
    refine readPair_of_reads (fun left => lawful.readString_quote key fuel left (by omega)) rfl before (value.opens lawful) ?_
    exact ih fuel rest (by omega) stops
  | item value ih =>
    intro fuel n blank rest enough enough_items is_blank
    obtain ⟨n, rfl⟩ := Nat.exists_eq_succ_of_ne_zero (Nat.ne_of_gt (Nat.zero_lt_of_lt enough_items))
    exact readList_last (fun left stops => ih fuel left enough stops) is_blank (Or.inl rfl) n
  | moreItems value between more first others =>
    intro fuel n blank rest enough enough_items is_blank
    obtain ⟨n, rfl⟩ := Nat.exists_eq_succ_of_ne_zero (Nat.ne_of_gt (Nat.zero_lt_of_lt enough_items))
    simp only [List.length_cons, List.length_append] at enough enough_items
    exact readList_more (fun left stops => first fuel left (by omega) stops) between (more.opens lawful) (Or.inl rfl)
      (others fuel n blank rest (by omega) (by omega) is_blank)
  | lastMember only ih =>
    intro fuel n blank rest enough enough_items is_blank
    obtain ⟨n, rfl⟩ := Nat.exists_eq_succ_of_ne_zero (Nat.ne_of_gt (Nat.zero_lt_of_lt enough_items))
    exact readList_last (fun left stops => ih fuel left enough stops) is_blank (Or.inr rfl) n
  | moreMembers first between more ih others =>
    intro fuel n blank rest enough enough_items is_blank
    obtain ⟨n, rfl⟩ := Nat.exists_eq_succ_of_ne_zero (Nat.ne_of_gt (Nat.zero_lt_of_lt enough_items))
    simp only [List.length_cons, List.length_append] at enough enough_items
    exact readList_more (fun left stops => ih fuel left (by omega) stops) between (more.opens lawful) (Or.inr rfl)
      (others fuel n blank rest (by omega) (by omega) is_blank)

/-- What a text spells is read. -/
theorem load_of_spells {v : Json} {text : List Char} (spells : Spells d (.value v) text) : load d text = some v := by
  obtain ⟨c, more, rfl, opens⟩ := spells.opens lawful
  have no_blank : Blank [] := fun _ member => absurd member List.not_mem_nil
  have here : skip (c :: more) = c :: more := skip_blank no_blank opens.visible more
  have read := reads_of_spells lawful spells ((c :: more).length + 1) [] (Nat.lt_succ_self _) (by simp [Stops])
  rw [List.append_nil] at read
  rw [load, here, read]
  rfl

theorem load_write (indent : Option Nat) {v : Json} (numbers : d.proper v = true) : load d (write d indent 0 v) = some v :=
  load_of_spells lawful (spells_write d indent 0 v numbers)

end
end RevitPy.Json
