import RevitPy.ValueRoundTrip

/-!
# Python's literals

How `repr` writes a value, and how such a text is read. Which characters outside ASCII are
printable is left to the version of Unicode.
-/

namespace RevitPy.Python
open Json

section
variable (printable : Char → Bool)

def backslash : Char := Char.ofNat 92
def singleMark : Char := Char.ofNat 39
def doubleMark : Char := Char.ofNat 34

/-- The mark that `repr` puts around a string. -/
def markOf (value : List Char) : Char := if singleMark ∈ value ∧ doubleMark ∉ value then doubleMark else singleMark

/-- The escapes of two characters besides those of the mark and of the backslash. -/
def shortEscapes : List (Char × Char) := [('\t', 't'), ('\n', 'n'), ('\r', 'r')]

def escape (mark : Char) (c : Char) : List Char :=
  if c = mark ∨ c = backslash then [backslash, c]
  else match shortEscapes.lookup c with
    | some short => [backslash, short]
    | none =>
      if 32 ≤ c.toNat ∧ c.toNat < 127 ∨ 127 < c.toNat ∧ printable c = true then [c]
      else if c.toNat < 0x100 then backslash :: 'x' :: Quoted.hexDigits 2 c.toNat
      else if c.toNat < 0x10000 then backslash :: 'u' :: Quoted.hexDigits 4 c.toNat
      else backslash :: 'U' :: Quoted.hexDigits 8 c.toNat

/-- How many digits follow a letter. -/
def digitsOf (letter : Char) : Option Nat := [('x', 2), ('u', 4), ('U', 8)].lookup letter

/-- What follows a backslash. -/
def readEscape : List Char → Option (Char × List Char)
  | [] => none
  | e :: rest => match digitsOf e with
    | some k => (Quoted.readHex k rest).map fun (n, rest) => (Char.ofNat n, rest)
    | none => match shortEscapes.find? fun escape => escape.2 = e with
      | some short => some (short.1, rest)
      | none => if e = singleMark ∨ e = doubleMark ∨ e = backslash then some (e, rest) else none

def readChar : List Char → Option (Char × List Char)
  | [] => none
  | c :: rest => if c = backslash then readEscape rest else some (c, rest)

def quote (value : String) : List Char :=
  let mark := markOf value.toList
  mark :: value.toList.flatMap (escape printable mark) ++ [mark]

def readString (fuel : Nat) : List Char → Option (String × List Char)
  | [] => none
  | mark :: rest => (Quoted.readUntil mark readChar fuel rest).map fun (value, rest) => (String.ofList value, rest)

/-- Python's literals. What is no finite number is none. -/
def python : Dialect where
  null := "None".toList
  yes := "True".toList
  no := "False".toList
  numberWords := []
  isMark c := c = singleMark || c = doubleMark
  quote := quote printable
  readString := readString

/-- `repr(value)` -/
def repr (value : Json) : List Char := write (python printable) none 0 value

/-- `repr(item)`, for a pair. -/
def reprPair (item : String × Json) : List Char := '(' :: (quote printable item.1 ++ ',' :: ([' '] ++ repr printable item.2) ++ [')'])

/-- `str(items)`, for a list of pairs. -/
def strItems (items : List (String × Json)) : List Char := '[' :: (List.intercalate [',', ' '] (items.map (reprPair printable)) ++ [']'])

example : String.ofList (strItems (fun _ => true) [("a", .obj [("it's", .arr [.bool true, .null])]), ("b", .number "1.0")]) =
    "[('a', \x7b\"it's\": [True, None]\x7d), ('b', 1.0)]" := by decide

/-! ## Reading strings -/

variable {printable} {mark : Char}

theorem readChar_escape (is_mark : mark = singleMark ∨ mark = doubleMark) (c : Char) (rest : List Char) :
    readChar (escape printable mark c ++ rest) = some (c, rest) := by
  unfold escape
  split
  · next special =>
    have each : c = singleMark ∨ c = doubleMark ∨ c = backslash := by
      rcases special with rfl | rfl
      · rcases is_mark with rfl | rfl
        · exact Or.inl rfl
        · exact Or.inr (Or.inl rfl)
      · exact Or.inr (Or.inr rfl)
    rcases each with rfl | rfl | rfl <;> rfl
  · next plain =>
    have no_backslash : c ≠ backslash := fun same => plain (Or.inr same)
    split
    · next short found =>
      have each : ∀ entry ∈ shortEscapes, digitsOf entry.2 = none ∧ (shortEscapes.find? fun escape => escape.2 = entry.2) = some entry := by
        decide
      obtain ⟨before, after, shape, _⟩ := List.lookup_eq_some_iff.mp found
      obtain ⟨no_digits, read⟩ := each (c, short) (by simp [shape])
      simp only [List.cons_append, readChar, if_true, readEscape, no_digits, read, List.nil_append]
    · split
      · simp [readChar, no_backslash]
      · split
        · next small =>
          have digits : digitsOf 'x' = some 2 := rfl
          have read := Quoted.readHex_of_lt (k := 2) small rest
          simp [readChar, readEscape, digits, read]
        · split
          · next small =>
            have digits : digitsOf 'u' = some 4 := rfl
            have read := Quoted.readHex_of_lt (k := 4) small rest
            simp [readChar, readEscape, digits, read]
          · have small : c.toNat < 16 ^ 8 := by
              have valid : c.toNat < 0xD800 ∨ 0xDFFF < c.toNat ∧ c.toNat < 0x110000 := c.valid
              omega
            have digits : digitsOf 'U' = some 8 := rfl
            have read := Quoted.readHex_of_lt small rest
            simp [readChar, readEscape, digits, read]

/-- Nothing within the marks begins with one. -/
theorem escape_head (is_mark : mark = singleMark ∨ mark = doubleMark) (c : Char) :
    ∃ first more, escape printable mark c = first :: more ∧ first ≠ mark := by
  have no_mark : backslash ≠ mark := by rcases is_mark with rfl | rfl <;> decide
  unfold escape
  split
  · exact ⟨backslash, _, rfl, no_mark⟩
  · next plain =>
    split
    · exact ⟨backslash, _, rfl, no_mark⟩
    · split
      · exact ⟨c, [], rfl, fun same => plain (Or.inl same)⟩
      · split
        · exact ⟨backslash, _, rfl, no_mark⟩
        · split
          · exact ⟨backslash, _, rfl, no_mark⟩
          · exact ⟨backslash, _, rfl, no_mark⟩

theorem markOf_cases (value : List Char) : markOf value = singleMark ∨ markOf value = doubleMark := by
  unfold markOf
  split
  · exact Or.inr rfl
  · exact Or.inl rfl

theorem readString_quote (value : String) (fuel : Nat) (rest : List Char) (enough : (quote printable value).length ≤ fuel) :
    readString fuel (quote printable value ++ rest) = some (value, rest) := by
  have is_mark := markOf_cases value.toList
  have longer := Quoted.length_le_flatMap (@escape_head printable _ is_mark) value.toList
  have short : value.toList.length < fuel := by
    simp only [quote, List.cons_append, List.length_cons, List.length_append] at enough
    omega
  have read := Quoted.readUntil_flatMap (@escape_head printable _ is_mark) (readChar_escape is_mark) value.toList rest short
  simp [quote, readString, read]

theorem python_lawful (printable : Char → Bool) : (python printable).Lawful where
  word word v member := by
    simp only [python, Dialect.words, List.map_nil, List.mem_cons, Prod.mk.injEq, List.not_mem_nil, or_false] at member
    rcases member with ⟨rfl, rfl⟩ | ⟨rfl, rfl⟩ | ⟨rfl, rfl⟩ <;>
    exact ⟨_, _, rfl, ⟨by decide, by decide, by decide⟩, rfl, by decide, by decide, fun _ => rfl⟩
  mark c mark := by
    simp only [python, Bool.or_eq_true, decide_eq_true_eq] at mark
    rcases mark with rfl | rfl <;> exact ⟨⟨by decide, by decide, by decide⟩, by decide⟩
  bracket := rfl
  brace := rfl
  quote value := by
    refine ⟨_, _, rfl, ?_⟩
    simpa [python] using markOf_cases value.toList
  readString_quote := readString_quote

/-! ## Lists of pairs -/

/-- A pair in parentheses. -/
def readItem (printable : Char → Bool) (fuel : Nat) : List Char → Option ((String × Json) × List Char)
  | [] => none
  | c :: rest =>
    if c = '(' then do
      let (item, rest) ← readPair (readString fuel) ',' (readValue (python printable) fuel) rest
      match rest with
      | [] => none
      | c :: rest => if c = ')' then some (item, rest) else none
    else none

def readItems (printable : Char → Bool) (text : List Char) : Option (List (String × Json) × List Char) :=
  readContent (readItem printable text.length) ']' text.length text.tail

theorem readItem_reprPair {item : String × Json} (numbers : (python printable).proper item.2 = true) {fuel : Nat}
    (enough : (reprPair printable item).length ≤ fuel) (rest : List Char) :
    readItem printable fuel (reprPair printable item ++ rest) = some (item, rest) := by
  have spells := spells_write (python printable) none 0 item.2 numbers
  have lengths := enough
  simp only [reprPair, List.length_cons, List.length_append, List.length_nil] at lengths
  have value_read := reads_of_spells (python_lawful printable) spells fuel (')' :: rest) (by simp only [repr] at lengths; omega)
    (stops_cons (by decide) rest)
  have key_read (left : List Char) : readString fuel (quote printable item.1 ++ left) = some (item.1, left) :=
    readString_quote item.1 fuel left (by omega)
  have blank : Blank [' '] := by simp [Blank, isSpace]
  have read := readPair_of_reads key_read (by decide : isSpace ',' = false) blank (spells.opens (python_lawful printable)) value_read
  have shape : reprPair printable item ++ rest =
      '(' :: (quote printable item.1 ++ ',' :: ([' '] ++ repr printable item.2) ++ ')' :: rest) := by simp [reprPair]
  rw [shape, readItem, if_pos rfl]
  unfold repr
  rw [read]
  rfl

theorem intercalate_more (first second : String × Json) (more : List (String × Json)) :
    List.intercalate [',', ' '] ((first :: second :: more).map (reprPair printable)) =
      reprPair printable first ++ ',' :: ([' '] ++ List.intercalate [',', ' '] ((second :: more).map (reprPair printable))) := by
  simp [List.intercalate]

theorem intercalate_opens (first : String × Json) (more : List (String × Json)) :
    ∃ c rest, List.intercalate [',', ' '] ((first :: more).map (reprPair printable)) = c :: rest ∧ Opens c := by
  cases more with
  | nil => exact ⟨'(', _, by simp [List.intercalate, reprPair]; rfl, by decide, by decide, by decide⟩
  | cons second more => exact ⟨'(', _, by rw [intercalate_more]; rfl, by decide, by decide, by decide⟩

theorem readList_intercalate (first : String × Json) (more : List (String × Json)) {fuel n : Nat} {rest : List Char}
    (numbers : ∀ item ∈ first :: more, (python printable).proper item.2 = true)
    (enough : (List.intercalate [',', ' '] ((first :: more).map (reprPair printable))).length ≤ fuel) (steps : more.length < n) :
    readList (readItem printable fuel) ']' n (List.intercalate [',', ' '] ((first :: more).map (reprPair printable)) ++ ']' :: rest) =
      some (first :: more, rest) := by
  obtain ⟨n, rfl⟩ := Nat.exists_eq_succ_of_ne_zero (Nat.ne_of_gt (Nat.zero_lt_of_lt steps))
  have first_numbers := numbers first List.mem_cons_self
  induction more generalizing first n with
  | nil =>
    have single : List.intercalate [',', ' '] ([first].map (reprPair printable)) = reprPair printable first := by simp [List.intercalate]
    rw [single] at enough ⊢
    have no_blank : Blank [] := fun _ member => absurd member List.not_mem_nil
    exact readList_last (fun left _ => readItem_reprPair first_numbers enough left) no_blank (Or.inl rfl) n
  | cons second more ih =>
    rw [intercalate_more, List.length_append, List.length_cons, List.length_append] at enough
    rw [List.length_cons] at steps
    obtain ⟨n, rfl⟩ := Nat.exists_eq_succ_of_ne_zero (by omega : n ≠ 0)
    have blank : Blank [' '] := by simp [Blank, isSpace]
    have others := ih second (fun item member => numbers item (List.mem_cons_of_mem _ member)) (by omega) n (by omega)
      (numbers second (List.mem_cons_of_mem _ List.mem_cons_self))
    rw [intercalate_more]
    exact readList_more (fun left _ => readItem_reprPair first_numbers (by omega) left) blank (intercalate_opens second more) (Or.inl rfl) others

theorem length_le_intercalate (first : String × Json) (more : List (String × Json)) :
    more.length < (List.intercalate [',', ' '] ((first :: more).map (reprPair printable))).length := by
  induction more generalizing first with
  | nil => simp [List.intercalate, reprPair]
  | cons second more ih =>
    have shorter := ih second
    simp only [intercalate_more, List.length_append, List.length_cons]
    omega

/-- A list of pairs is read from its text. -/
theorem readItems_strItems {items : List (String × Json)} (numbers : ∀ item ∈ items, (python printable).proper item.2 = true) :
    readItems printable (strItems printable items) = some (items, []) := by
  cases items with
  | nil => rfl
  | cons first more =>
    have no_blank : Blank [] := fun _ member => absurd member List.not_mem_nil
    have longer := @length_le_intercalate printable first more
    have length : (strItems printable (first :: more)).length = (List.intercalate [',', ' '] ((first :: more).map (reprPair printable))).length + 2 := by
      simp [strItems]
    have list : readList (readItem printable (strItems printable (first :: more)).length) ']' (strItems printable (first :: more)).length
        (List.intercalate [',', ' '] ((first :: more).map (reprPair printable)) ++ ([] ++ ']' :: [])) = some (first :: more, []) :=
      readList_intercalate first more numbers (by omega) (by omega)
    have read := readContent_of_reads no_blank (intercalate_opens first more) (Or.inl rfl) list
    rw [List.nil_append, List.append_nil, List.append_nil] at read
    exact read

/-- Lists of pairs with the same text are the same. -/
theorem strItems_injective {items others : List (String × Json)} (numbers : ∀ item ∈ items, (python printable).proper item.2 = true)
    (others_numbers : ∀ item ∈ others, (python printable).proper item.2 = true) (same : strItems printable items = strItems printable others) :
    items = others := by
  have read := readItems_strItems numbers
  rw [same, readItems_strItems others_numbers] at read
  exact (Prod.mk.inj (Option.some.inj read)).1.symm

end
end RevitPy.Python
