import Mathlib.Algebra.Order.Ring.Int
import Mathlib.Data.List.Basic
import Mathlib.Data.List.DropRight

/-!
# The texts of enum values

A value is written as the names of members that make it up, or as a number, and a text is
read ignoring the case of names. Where two names differ in case only, the first one wins.
-/

namespace RevitPy.Enums

/-- `char.IsWhiteSpace` -/
def isWhiteSpace (c : Char) : Bool :=
  let n := c.toNat
  (9 ≤ n && n ≤ 13) || n = 32 || n = 0x85 || n = 0xA0 || n = 0x1680 || (0x2000 ≤ n && n ≤ 0x200A) || n = 0x2028 || n = 0x2029 ||
    n = 0x202F || n = 0x205F || n = 0x3000

/-- A text that begins so is read as a number first. -/
def isNumeric (c : Char) : Bool := c.isDigit || c = '-' || c = '+'

def isIdentifier (name : List Char) : Bool :=
  name.head?.any (fun c => !isNumeric c) && name.all fun c => c ≠ ',' && !isWhiteSpace c

/-- An enum type. A value is kept in 64 bits, with its sign extended. -/
structure EnumType where
  signed : Bool
  bits : Nat
  flags : Bool
  /-- The names with their values, by the value as an unsigned number. -/
  members : List (String × BitVec 64)
  /-- The name that a value is written with. Where it has several, any of them may be the one. -/
  nameOf : BitVec 64 → Option String
  named : ∀ v name, nameOf v = some name → (name, v) ∈ members
  identifiers : ∀ member ∈ members, isIdentifier member.1.toList = true

inductive ParseError
  | empty
  | overflow
  | notFound
  deriving DecidableEq

namespace EnumType

variable (e : EnumType)

def number (v : BitVec 64) : Int := if e.signed then v.toInt else v.toNat

def inRange (n : Int) : Bool :=
  if e.signed then -2 ^ (e.bits - 1) ≤ n && n < 2 ^ (e.bits - 1) else 0 ≤ n && n < 2 ^ e.bits

/-- The members that make up a value, from the one of the greatest value on: each is taken that is contained in
    what is left. A zero that comes first does not count. -/
def compose : List (String × BitVec 64) → BitVec 64 → Option (List String)
  | [], v => if v = 0 then some [] else none
  | (name, m) :: smaller, v =>
    if smaller = [] ∧ m = 0 then if v = 0 then some [] else none
    else if v &&& m = m then (compose smaller (v - m)).map (· ++ [name])
    else compose smaller v

/-- The names that a value is written with, if it is not written as a number. -/
def names (v : BitVec 64) : Option (List String) := match e.nameOf v with
  | some name => some [name]
  | none => if e.flags ∧ v ≠ 0 then compose e.members.reverse v else none

/-- `ToString` -/
def toText (v : BitVec 64) : String := match e.names v with
  | some names => ", ".intercalate names
  | none => toString (e.number v)

end EnumType

def trim (text : List Char) : List Char := (text.dropWhile isWhiteSpace).rdropWhile isWhiteSpace

def readNat (text : List Char) : Option Nat := if text ≠ [] ∧ text.all Char.isDigit then some (Nat.ofDigitChars 10 text 0) else none

def readInt : List Char → Option Int
  | '-' :: text => (readNat text).map fun n => -n
  | '+' :: text => (readNat text).map Int.ofNat
  | text => (readNat text).map Int.ofNat

namespace EnumType

variable (upper : Char → Char) (e : EnumType)

/-- The value of the first member of a name, ignoring case. -/
def lookup (name : List Char) : Option (BitVec 64) :=
  (e.members.find? fun member => member.1.toList.map upper = name.map upper).map Prod.snd

def combine (values : List (BitVec 64)) : BitVec 64 := values.foldl (· ||| ·) 0

def parseByName (text : List Char) : Except ParseError (BitVec 64) :=
  match (text.splitOn ',').mapM fun part => e.lookup upper (trim part) with
  | some values => .ok (combine values)
  | none => .error .notFound

/-- `Enum.Parse(type, text, ignoreCase: true)` -/
def parse (text : String) : Except ParseError (BitVec 64) :=
  match text.toList.dropWhile isWhiteSpace with
  | [] => .error .empty
  | c :: rest =>
    if isNumeric c then
      match readInt ((c :: rest).rdropWhile isWhiteSpace) with
      | some n => if e.inRange n then .ok (BitVec.ofInt 64 n) else .error .overflow
      | none => e.parseByName upper (c :: rest)
    else e.parseByName upper (c :: rest)

/-- The first members that have the names of a value, ignoring case, make it up. -/
def ReadsBack (v : BitVec 64) : Prop :=
  ∀ names, e.names v = some names → (names.mapM fun name => e.lookup upper name.toList).map combine = some v

/-! ## Numbers -/

theorem not_white_of_isDigit {c : Char} (digit : c.isDigit = true) : isWhiteSpace c = false := by
  have bounds : 48 ≤ c.toNat ∧ c.toNat ≤ 57 := by simpa [Char.isDigit, Char.le_def, UInt32.le_iff_toNat_le] using digit
  simp only [isWhiteSpace, Bool.or_eq_false_iff, Bool.and_eq_false_imp, decide_eq_false_iff_not, decide_eq_true_eq]
  omega

theorem readNat_repr (n : Nat) : readNat n.repr.toList = some n := by
  rw [readNat, if_pos, Nat.toList_repr, Nat.ofDigitChars_ten_toDigits]
  rw [Nat.toList_repr]
  exact ⟨Nat.toDigits_ne_nil, List.all_eq_true.mpr fun c member => Nat.isDigit_of_mem_toDigits (by decide) (by decide) member⟩

/-- A number is written as digits, after a sign if it is negative. -/
theorem toString_cases (n : Int) :
    (∃ k : Nat, n = k ∧ (toString n).toList = k.repr.toList) ∨ ∃ k : Nat, n = -k ∧ (toString n).toList = '-' :: k.repr.toList := by
  cases n with
  | ofNat k => exact .inl ⟨k, rfl, rfl⟩
  | negSucc k =>
    refine .inr ⟨k + 1, rfl, ?_⟩
    have text : toString (Int.negSucc k) = "-" ++ (k + 1).repr := rfl
    rw [text, String.toList_append]
    rfl

theorem repr_shape (n : Nat) : (∃ c rest, n.repr.toList = c :: rest) ∧ ∀ c ∈ n.repr.toList, c.isDigit = true := by
  rw [Nat.toList_repr]
  exact ⟨List.exists_cons_of_ne_nil Nat.toDigits_ne_nil, fun c member => Nat.isDigit_of_mem_toDigits (by decide) (by decide) member⟩

theorem readInt_toString (n : Int) : readInt (toString n).toList = some n := by
  rcases toString_cases n with ⟨k, rfl, text⟩ | ⟨k, rfl, text⟩
  · obtain ⟨⟨c, rest, shape⟩, digits⟩ := repr_shape k
    have digit := digits c (shape ▸ List.mem_cons_self)
    have read := readNat_repr k
    rw [text]
    rw [shape] at read ⊢
    unfold readInt
    split
    · next same => simp_all [show ('-' : Char).isDigit = false from rfl]
    · next same => simp_all [show ('+' : Char).isDigit = false from rfl]
    · simp [read]
  · rw [text, readInt, readNat_repr]
    rfl

theorem dropWhile_of_head {c : Char} {rest : List Char} (black : isWhiteSpace c = false) :
    (c :: rest).dropWhile isWhiteSpace = c :: rest := by simp [black]

theorem rdropWhile_of_all {text : List Char} (black : ∀ c ∈ text, isWhiteSpace c = false) : text.rdropWhile isWhiteSpace = text := by
  rcases List.eq_nil_or_concat text with rfl | ⟨before, last, rfl⟩
  · rfl
  · rw [List.concat_eq_append, List.rdropWhile_concat_neg]
    simp [black last (by simp)]

theorem trim_of_all {text : List Char} (black : ∀ c ∈ text, isWhiteSpace c = false) : trim text = text := by
  have start : text.dropWhile isWhiteSpace = text := by
    cases text with
    | nil => rfl
    | cons c rest => exact dropWhile_of_head (black c List.mem_cons_self)
  rw [trim, start, rdropWhile_of_all black]

theorem trim_space {text : List Char} (black : ∀ c ∈ text, isWhiteSpace c = false) : trim (' ' :: text) = text := by
  have skipped : trim (' ' :: text) = trim text := by simp [trim, show isWhiteSpace ' ' = true from rfl]
  rw [skipped, trim_of_all black]

variable {upper e}

theorem toString_head (n : Int) : ∃ c rest, (toString n).toList = c :: rest ∧ isNumeric c = true ∧
    ∀ d ∈ (toString n).toList, isWhiteSpace d = false := by
  rcases toString_cases n with ⟨k, -, text⟩ | ⟨k, -, text⟩
  · obtain ⟨⟨c, rest, shape⟩, digits⟩ := repr_shape k
    rw [text]
    have digit := digits c (shape ▸ List.mem_cons_self)
    exact ⟨c, rest, shape, by simp [isNumeric, digit], fun d member => not_white_of_isDigit (digits d member)⟩
  · rw [text]
    refine ⟨'-', _, rfl, rfl, fun d member => ?_⟩
    rcases List.mem_cons.mp member with rfl | member
    · rfl
    · exact not_white_of_isDigit ((repr_shape k).2 d member)

theorem parse_number (upper : Char → Char) {n : Int} (fits : e.inRange n = true) : e.parse upper (toString n) = .ok (BitVec.ofInt 64 n) := by
  obtain ⟨c, rest, shape, numeric, black⟩ := toString_head n
  have read := readInt_toString n
  unfold parse
  rw [shape] at read black ⊢
  rw [dropWhile_of_head (black c List.mem_cons_self)]
  simp only [numeric, if_true, rdropWhile_of_all black, read, fits]

theorem ofInt_number (v : BitVec 64) : BitVec.ofInt 64 (e.number v) = v := by
  unfold number
  split
  · exact BitVec.ofInt_toInt
  · exact BitVec.ofInt_natCast .. ▸ BitVec.ofNat_toNat ..

/-! ## Names -/

theorem isIdentifier_iff (name : List Char) : isIdentifier name = true ↔
    (∃ c rest, name = c :: rest ∧ isNumeric c = false) ∧ ∀ c ∈ name, c ≠ ',' ∧ isWhiteSpace c = false := by
  cases name with
  | nil => simp [isIdentifier]
  | cons c rest => simp [isIdentifier]

theorem not_white {name : List Char} (identifier : isIdentifier name = true) : ∀ c ∈ name, isWhiteSpace c = false :=
  fun c member => (((isIdentifier_iff name).mp identifier).2 c member).2

theorem no_comma {name : List Char} (identifier : isIdentifier name = true) : ',' ∉ name :=
  fun member => (((isIdentifier_iff name).mp identifier).2 ',' member).1 rfl

theorem compose_mem {members : List (String × BitVec 64)} {v : BitVec 64} {names : List String} (composed : compose members v = some names) :
    ∀ name ∈ names, ∃ m, (name, m) ∈ members := by
  induction members generalizing v names with
  | nil =>
    unfold compose at composed
    split at composed
    · cases composed
      simp
    · cases composed
  | cons member smaller ih =>
    obtain ⟨name, m⟩ := member
    unfold compose at composed
    split at composed
    · split at composed
      · cases composed
        simp
      · cases composed
    · split at composed
      · obtain ⟨more, found, rfl⟩ := Option.map_eq_some_iff.mp composed
        intro other member
        rcases List.mem_append.mp member with earlier | last
        · obtain ⟨k, inside⟩ := ih found other earlier
          exact ⟨k, .tail _ inside⟩
        · exact ⟨m, List.mem_singleton.mp last ▸ .head _⟩
      · intro other member
        obtain ⟨k, inside⟩ := ih composed other member
        exact ⟨k, .tail _ inside⟩

theorem compose_ne_nil {members : List (String × BitVec 64)} {v : BitVec 64} (other : v ≠ 0) : compose members v ≠ some [] := by
  induction members with
  | nil => simpa [compose] using other
  | cons member smaller ih =>
    unfold compose
    split
    · simp
    · split
      · simp
      · exact ih

/-- The names of a value are names of members, and there is one. -/
theorem names_spec {v : BitVec 64} {names : List String} (shown : e.names v = some names) :
    names ≠ [] ∧ ∀ name ∈ names, isIdentifier name.toList = true := by
  unfold EnumType.names at shown
  split at shown
  · next name own =>
    cases shown
    refine ⟨List.cons_ne_nil _ _, fun other member => ?_⟩
    rw [List.mem_singleton.mp member]
    exact e.identifiers _ (e.named v name own)
  · split at shown
    · next several =>
      refine ⟨fun none => compose_ne_nil several.2 (none ▸ shown), fun name member => ?_⟩
      obtain ⟨m, inside⟩ := compose_mem shown name member
      exact e.identifiers (name, m) (List.mem_reverse.mp inside)
    · cases shown

theorem intercalate_cons {α : Type} (separator first : List α) (more : List (List α)) :
    separator.intercalate (first :: more) = first ++ more.flatMap (separator ++ ·) := by
  induction more generalizing first with
  | nil => simp
  | cons next more ih =>
    have step : separator.intercalate (first :: next :: more) = first ++ (separator ++ separator.intercalate (next :: more)) := by
      simp [List.intercalate]
    rw [step, ih, List.flatMap_cons, List.append_assoc]

/-- The text of some names begins with the first one. -/
theorem toList_names (name : String) (more : List String) :
    (", ".intercalate (name :: more)).toList = name.toList ++ more.flatMap fun n => ',' :: ' ' :: n.toList := by
  have text : (", ".intercalate (name :: more)).toList = [',', ' '].intercalate (name.toList :: more.map String.toList) :=
    String.toList_intercalate
  rw [text, intercalate_cons, List.flatMap_map]
  rfl

/-- The commas of a text of names part them, and a blank stands before all but the first. -/
theorem splitOn_names {name : String} {more : List String} (identifiers : ∀ n ∈ name :: more, isIdentifier n.toList = true) :
    (", ".intercalate (name :: more)).toList.splitOn ',' = name.toList :: more.map fun n => ' ' :: n.toList := by
  have text : (", ".intercalate (name :: more)).toList = [','].intercalate (name.toList :: more.map fun n => ' ' :: n.toList) := by
    rw [toList_names, intercalate_cons, List.flatMap_map]
    rfl
  rw [text]
  refine List.splitOn_intercalate ',' (fun part member => ?_) (by simp)
  rcases List.mem_cons.mp member with rfl | member
  · exact no_comma (identifiers name (.head _))
  · obtain ⟨n, inside, rfl⟩ := List.mem_map.mp member
    intro comma
    rcases List.mem_cons.mp comma with blank | comma
    · cases blank
    · exact no_comma (identifiers n (.tail _ inside)) comma

theorem lookup_trimmed {names : List String} (identifiers : ∀ n ∈ names, isIdentifier n.toList = true) :
    ((names.map fun n => ' ' :: n.toList).mapM fun part => e.lookup upper (trim part)) = names.mapM fun n => e.lookup upper n.toList := by
  induction names with
  | nil => rfl
  | cons name more ih =>
    have trimmed : trim (' ' :: name.toList) = name.toList := trim_space (not_white (identifiers name (.head _)))
    rw [List.map_cons, List.mapM_cons, List.mapM_cons, trimmed, ih fun n member => identifiers n (.tail _ member)]

theorem parseByName_names {name : String} {more : List String} (identifiers : ∀ n ∈ name :: more, isIdentifier n.toList = true) :
    e.parseByName upper (", ".intercalate (name :: more)).toList =
      match (name :: more).mapM fun n => e.lookup upper n.toList with
      | some values => .ok (combine values)
      | none => .error .notFound := by
  have trimmed : trim name.toList = name.toList := trim_of_all (not_white (identifiers name (.head _)))
  have parts : ((name.toList :: more.map fun n => ' ' :: n.toList).mapM fun part => e.lookup upper (trim part)) =
      (name :: more).mapM fun n => e.lookup upper n.toList := by
    rw [List.mapM_cons, List.mapM_cons, trimmed, lookup_trimmed fun n member => identifiers n (.tail _ member)]
  rw [parseByName, splitOn_names identifiers, parts]

theorem parse_names {names : List String} (nonempty : names ≠ []) (identifiers : ∀ name ∈ names, isIdentifier name.toList = true) :
    e.parse upper (", ".intercalate names) = match names.mapM fun name => e.lookup upper name.toList with
      | some values => .ok (combine values)
      | none => .error .notFound := by
  obtain ⟨name, more, rfl⟩ := List.exists_cons_of_ne_nil nonempty
  obtain ⟨⟨c, rest, shape, plain⟩, black⟩ := (isIdentifier_iff _).mp (identifiers name (.head _))
  have text : (", ".intercalate (name :: more)).toList = c :: (rest ++ more.flatMap fun n => ',' :: ' ' :: n.toList) := by
    rw [toList_names, shape, List.cons_append]
  have white := (black c (shape ▸ .head _)).2
  rw [parse, text, dropWhile_of_head white]
  simp only [plain, Bool.false_eq_true, if_false]
  rw [← text, parseByName_names identifiers]

/-! ## Reading back -/

theorem parse_toText_iff {v : BitVec 64} (fits : e.inRange (e.number v) = true) :
    e.parse upper (e.toText v) = .ok v ↔ e.ReadsBack upper v := by
  unfold toText ReadsBack
  cases shown : e.names v with
  | none =>
    have read := parse_number upper fits
    rw [ofInt_number] at read
    exact ⟨fun _ names named => (by cases named), fun _ => read⟩
  | some names =>
    obtain ⟨nonempty, identifiers⟩ := names_spec shown
    simp only [parse_names nonempty identifiers, Option.some.injEq, forall_eq']
    cases names.mapM fun name => e.lookup upper name.toList with
    | none => simp
    | some values => simp

theorem lookup_of_distinct (distinct : ∀ first ∈ e.members, ∀ second ∈ e.members,
      first.1.toList.map upper = second.1.toList.map upper → first.2 = second.2) {name : String} {v : BitVec 64} (member : (name, v) ∈ e.members) :
    e.lookup upper name.toList = some v := by
  unfold lookup
  cases found : e.members.find? fun member => member.1.toList.map upper = name.toList.map upper with
  | none =>
    have other := List.find?_eq_none.mp found (name, v) member
    simp at other
  | some first =>
    have same := List.find?_some found
    rw [Option.map_some, distinct first (List.mem_of_find?_eq_some found) (name, v) member (by simpa using same)]

/-- What is left of a value without a part, and the part, make it up. -/
theorem sub_or {v m : BitVec 64} (part : v &&& m = m) : (v - m) ||| m = v := by
  have bits (i : Nat) (inside : m.getLsbD i = true) : v.getLsbD i = true := by
    have here := congrArg (·.getLsbD i) part
    simp only [BitVec.getLsbD_and, inside, Bool.and_true] at here
    exact here
  have apart : (v &&& ~~~m) &&& m = 0 := by
    ext i bound
    simp
  have whole : (v &&& ~~~m) ||| m = v := by
    ext i bound
    have here := bits i
    simp only [BitVec.getLsbD_eq_getElem bound] at here
    cases low : m[i] <;> simp_all
  have left : v - m = v &&& ~~~m := by
    rw [← BitVec.add_eq_or_of_and_eq_zero _ _ apart] at whole
    exact (BitVec.eq_sub_iff_add_eq.mpr whole).symm
  rw [left, whole]

theorem combine_concat (values : List (BitVec 64)) (m : BitVec 64) : combine (values ++ [m]) = combine values ||| m := by simp [combine]

theorem compose_reads_back {find : String → Option (BitVec 64)} {members : List (String × BitVec 64)} (known : ∀ member ∈ members, find member.1 = some member.2)
    {v : BitVec 64} {names : List String} (composed : compose members v = some names) : (names.mapM find).map combine = some v := by
  induction members generalizing v names with
  | nil =>
    unfold compose at composed
    split at composed
    · next zero =>
      cases composed
      rw [zero]
      rfl
    · cases composed
  | cons member smaller ih =>
    obtain ⟨name, m⟩ := member
    replace ih := @ih fun member inside => known member (.tail _ inside)
    unfold compose at composed
    split at composed
    · split at composed
      · next zero =>
        cases composed
        rw [zero]
        rfl
      · cases composed
    · split at composed
      · next part =>
        obtain ⟨more, found, rfl⟩ := Option.map_eq_some_iff.mp composed
        obtain ⟨values, read, rest⟩ := Option.map_eq_some_iff.mp (ih found)
        have own : find name = some m := known (name, m) (.head _)
        simp [List.mapM_append, read, own, combine_concat, rest, sub_or part]
      · exact ih composed

/-- Where names that differ in case only have one value, every value is read back. -/
theorem readsBack_of_distinct (distinct : ∀ first ∈ e.members, ∀ second ∈ e.members,
      first.1.toList.map upper = second.1.toList.map upper → first.2 = second.2) (v : BitVec 64) : e.ReadsBack upper v := by
  intro names shown
  unfold EnumType.names at shown
  split at shown
  · next name own =>
    cases shown
    simp [lookup_of_distinct distinct (e.named v name own), combine]
  · split at shown
    · exact compose_reads_back (fun member inside => lookup_of_distinct distinct (List.mem_reverse.mp inside)) shown
    · cases shown

end EnumType
end RevitPy.Enums
