import RevitPy.TypeConverter

/-!
# A value that goes to Python and back

The way out loses the upper half of a long, and reads a string as a boolean where the
dictionary enumerates that converter first. An enum value comes back by its names.
-/

namespace RevitPy.Bridge
open Enums

variable {E : Type}

/-- A type that is built from booleans, integers, strings, enums and arrays. -/
def Ty.Built : Ty E → Prop
  | .double | .object => False
  | .array elementType => elementType.Built
  | _ => True

section
variable (enums : E → EnumType)

mutual

/-- A value has a type. References may be `null`. -/
def HasType : Obj E → Ty E → Prop
  | .null, t => t.isReference = true
  | .bool _, .bool | .int _, .int | .long _, .long | .string _, .string => True
  | .enum e value, .enum e' => e = e' ∧ (enums e).inRange ((enums e).number value) = true
  | .array elementType items, .array t => elementType = t ∧ HaveType items t
  | _, _ => False

def HaveType : List (Obj E) → Ty E → Prop
  | [], _ => True
  | item :: items, t => HasType item t ∧ HaveType items t

end

variable (upper : Char → Char) (keys : List (Ty E × Ty E))

/-- The dictionary enumerates the converter from strings to booleans before the one that leaves them as they are. -/
def ParsesStrings : Prop := [(.string, .bool), (.string, .object)].Sublist keys

mutual

/-- No long is beyond 32 bits, strings that are parsed are those of booleans, and enum values are read back by their names. -/
def Exact : Obj E → Prop
  | .long l => -2 ^ 31 ≤ l.toInt ∧ l.toInt < 2 ^ 31
  | .string s => ParsesStrings keys → s = "true" ∨ s = "false"
  | .enum e value => (enums e).ReadsBack upper value
  | .array _ items => AllExact items
  | _ => True

def AllExact : List (Obj E) → Prop
  | [] => True
  | item :: items => Exact item ∧ AllExact items

end

variable [DecidableEq E] (changeOther : Obj E → Ty E → Except (ConversionException E) (Obj E))

/-- A value comes back from Python as it was, and neither conversion throws. -/
def RoundTrips (x : Obj E) (t : Ty E) : Prop :=
  ∃ p, convertToPython enums keys x = .ok p ∧ convertFromPython enums upper keys changeOther p t = .ok x

end

/-! ## The keys of the converters -/

theorem perm_pair {α : Type} {l : List α} {a b : α} (two : l.Perm [a, b]) : l = [a, b] ∨ l = [b, a] := by
  obtain ⟨x, y, rfl⟩ := List.length_eq_two.mp two.length_eq
  rcases List.mem_pair.mp (two.mem_iff.mp (.head _)) with rfl | rfl
  · exact .inl (by rw [List.perm_singleton.mp two.cons_inv])
  · exact .inr (by rw [List.perm_singleton.mp (two.trans (.swap ..)).cons_inv])

section
variable [DecidableEq E] {keys : List (Ty E × Ty E)} (order : keys.Perm registeredKeys)
include order

theorem find_source (key : Ty E × Ty E) (member : key ∈ registeredKeys) (only : ∀ k ∈ registeredKeys, k.1 = key.1 → k = key) :
    (keys.find? fun k => some k.1 = some key.1) = some key := by
  cases found : keys.find? fun k => some k.1 = some key.1 with
  | none =>
    have other := List.find?_eq_none.mp found key (order.mem_iff.mpr member)
    simp at other
  | some k =>
    have same := List.find?_some found
    rw [only k (order.mem_iff.mp (List.mem_of_find?_eq_some found)) (by simpa using same)]

theorem find_source_none {t : Ty E} (absent : ∀ k ∈ registeredKeys, k.1 ≠ t) : (keys.find? fun k => some k.1 = some t) = none := by
  refine List.find?_eq_none.mpr fun k member => ?_
  simpa using absent k (order.mem_iff.mp member)

theorem find_pair (source target : Ty E) (member : (source, target) ∈ registeredKeys) :
    (keys.find? fun k => some k.1 = some source ∧ k.2 = target) = some (source, target) := by
  cases found : keys.find? fun k => some k.1 = some source ∧ k.2 = target with
  | none =>
    have other := List.find?_eq_none.mp found (source, target) (order.mem_iff.mpr member)
    simp at other
  | some k =>
    have same := List.find?_some found
    rw [decide_eq_true_eq, Option.some.injEq] at same
    rw [← same.1, ← same.2]

theorem find_pair_none (source target : Ty E) (absent : (source, target) ∉ registeredKeys) :
    (keys.find? fun k => some k.1 = some source ∧ k.2 = target) = none := by
  refine List.find?_eq_none.mpr fun k member => ?_
  rw [decide_eq_true_eq, Option.some.injEq]
  rintro ⟨rfl, rfl⟩
  exact absent (order.mem_iff.mp member)

/-- The converters from strings come in one of two orders. -/
theorem find_string : ParsesStrings keys ∧ (keys.find? fun k => some k.1 = some .string) = some (.string, .bool) ∨
    ¬ParsesStrings keys ∧ (keys.find? fun k => some k.1 = some .string) = some (.string, .object) := by
  have two : (keys.filter fun k => some k.1 = some .string).Perm [(.string, .object), (.string, .bool)] := order.filter _
  rw [← List.head?_filter]
  have parses : ParsesStrings keys ↔ [(.string, .bool), (.string, .object)].Sublist (keys.filter fun k => some k.1 = some .string) := by
    constructor
    · intro part
      simpa using part.filter fun k => some k.1 = some .string
    · intro part
      exact part.trans List.filter_sublist
  rw [parses]
  rcases perm_pair two with first | first
  · rw [first]
    refine .inr ⟨fun part => ?_, rfl⟩
    have same := part.eq_of_length rfl
    simp at same
  · rw [first]
    exact .inl ⟨List.Sublist.refl _, rfl⟩

end

/-! ## There and back -/

theorem roundHalfEven_intCast (n : Int) : roundHalfEven n = n := by
  have exact : (n : Rat) - ((n : Rat).floor : Rat) < 1 / 2 := by
    rw [Rat.floor_intCast, Rat.sub_self]
    decide +kernel
  rw [roundHalfEven]
  simp only [Rat.floor_intCast] at exact ⊢
  rw [if_pos exact]

theorem toInt32_intCast (i : Int32) : toInt32 (E := E) i.toInt = .ok (.int i) := by
  have low := i.le_toInt
  have high := i.toInt_lt
  rw [toInt32, roundHalfEven_intCast, if_pos ⟨by simpa using low, by simpa using high⟩, Int32.ofInt_toInt]

/-- A long that is narrowed and widened is as it was exactly where it has 32 bits. -/
theorem widen_narrow_iff (l : Int64) : l.toInt32.toInt64 = l ↔ -2 ^ 31 ≤ l.toInt ∧ l.toInt < 2 ^ 31 := by
  rw [← Int64.toInt_inj, Int32.toInt_toInt64, Int64.toInt_toInt32]
  constructor
  · intro same
    have low := Int.le_bmod (x := l.toInt) (m := 2 ^ 32) (by decide)
    have high := Int.bmod_lt (x := l.toInt) (m := 2 ^ 32) (by decide)
    omega
  · rintro ⟨low, high⟩
    exact Int.bmod_eq_of_le (by omega) (by omega)

theorem parseBool_text (b : Bool) : parseBool (if b then "true" else "false") = some b := by cases b <;> decide

theorem parseBool_literals : parseBool "true" = some true ∧ parseBool "false" = some false := by decide

/-- A reference that is `null`, or an object of a type. -/
def Fits (t : Ty E) (y : Obj E) : Prop := (y = .null ∧ t.isReference = true) ∨ y.getType = some t

/-- A result is of the kind it should be, and it is a value under a condition, or there is none and the condition fails. -/
def Answers {ε α : Type} (kind : α → Prop) (x : α) (exact : Prop) : Except ε α → Prop
  | .ok y => kind y ∧ (y = x ↔ exact)
  | .error _ => ¬exact

section
variable {enums : E → EnumType} {upper : Char → Char} {keys : List (Ty E × Ty E)} [DecidableEq E]
  {changeOther : Obj E → Ty E → Except (ConversionException E) (Obj E)}

theorem isAssignableFrom_self (t : Ty E) : t.isAssignableFrom t = true := by cases t <;> simp [Ty.isAssignableFrom]

theorem setValue_of_fits {t : Ty E} {y : Obj E} (fits : Fits t y) : setValue t y = .ok y := by
  rcases fits with ⟨rfl, reference⟩ | own
  · cases t <;> first | rfl | cases reference
  · cases y with
    | null => cases own
    | _ => simp [setValue, own, isAssignableFrom_self]

theorem cast_of_fits {t : Ty E} {y : Obj E} (fits : Fits t y) : cast t y = .ok y := by
  rcases fits with ⟨rfl, reference⟩ | own
  · simp [cast, reference]
  · cases y with
    | null => cases own
    | _ => simp [cast, own, isAssignableFrom_self]

/-- An array of objects is not taken for an array of what it was made from. -/
theorem not_assignable {t : Ty E} (built : t.Built) : (Ty.array t).isAssignableFrom (.array .object) = false := by
  cases t <;> first | (cases built; done) | simp [Ty.isAssignableFrom, Ty.isReference]

/-! ## The branches -/

theorem out_converter {x : Obj E} {t : Ty E} {key : Ty E × Ty E} (own : x.getType = some t)
    (found : (keys.find? fun k => some k.1 = some t) = some key) : convertToPythonInternal enums keys x = customConverter key x := by
  cases x with
  | null => cases own
  | _ =>
    unfold convertToPythonInternal
    simp only [own, found]

theorem back_direct {p : Obj E} {t : Ty E} (own : p.getType = some t) :
    convertFromPythonInternal enums upper keys changeOther p t = .ok p := by
  cases p with
  | null => cases own
  | _ =>
    unfold convertFromPythonInternal
    simp only [own, Option.any_some, isAssignableFrom_self, if_true]

theorem back_converter {p : Obj E} {s t : Ty E} {key : Ty E × Ty E} (own : p.getType = some s) (apart : t.isAssignableFrom s = false)
    (found : (keys.find? fun k => some k.1 = some s ∧ k.2 = t) = some key) :
    convertFromPythonInternal enums upper keys changeOther p t = customConverter key p := by
  cases p with
  | null => cases own
  | _ =>
    unfold convertFromPythonInternal
    simp only [own, Option.any_some, apart, Bool.false_eq_true, if_false, found]

variable (order : keys.Perm registeredKeys)
include order

theorem out_bool (b : Bool) : convertToPythonInternal enums keys (.bool b) = .ok (.string (if b then "true" else "false")) :=
  out_converter rfl (find_source order (.bool, .string) (by simp [registeredKeys]) (by simp [registeredKeys]))

theorem back_bool (s : String) : convertFromPythonInternal enums upper keys changeOther (.string s) .bool = stringToBool (.string s) :=
  back_converter rfl rfl (find_pair order .string .bool (by simp [registeredKeys]))

theorem back_string (b : Bool) : convertFromPythonInternal enums upper keys changeOther (.bool b) .string =
    .ok (.string (if b then "true" else "false")) :=
  back_converter rfl rfl (find_pair order .bool .string (by simp [registeredKeys]))

theorem out_int (i : Int32) : convertToPythonInternal enums keys (.int i) = .ok (.double i.toInt) :=
  out_converter rfl (find_source order (.int, .double) (by simp [registeredKeys]) (by simp [registeredKeys]))

theorem back_int (i : Int32) : convertFromPythonInternal enums upper keys changeOther (.double i.toInt) .int = .ok (.int i) := by
  unfold convertFromPythonInternal
  have own : (Obj.double i.toInt : Obj E).getType = some .double := rfl
  have absent := find_pair_none order .double .int (by simp [registeredKeys])
  simp only [own, absent, Option.any_some]
  exact toInt32_intCast i

theorem out_long (l : Int64) : convertToPythonInternal enums keys (.long l) = .ok (.int l.toInt32) :=
  out_converter rfl (find_source order (.long, .int) (by simp [registeredKeys]) (by simp [registeredKeys]))

theorem back_long (i : Int32) : convertFromPythonInternal enums upper keys changeOther (.int i) .long = .ok (.long i.toInt64) := by
  unfold convertFromPythonInternal
  have own : (Obj.int i : Obj E).getType = some .int := rfl
  have absent := find_pair_none order .int .long (by simp [registeredKeys])
  simp only [own, absent, Option.any_some]
  rfl

theorem out_enum (e : E) (value : BitVec 64) : convertToPythonInternal enums keys (.enum e value) = .ok (.string ((enums e).toText value)) := by
  unfold convertToPythonInternal
  have own : (Obj.enum e value).getType = some (.enum e) := rfl
  have absent := find_source_none order (t := .enum e) (by simp [registeredKeys])
  simp only [own, absent]

theorem back_enum (e : E) (text : String) : convertFromPythonInternal enums upper keys changeOther (.string text) (.enum e) =
    match (enums e).parse upper text with
    | .ok value => .ok (.enum e value)
    | .error error => .error (.parse error) := by
  unfold convertFromPythonInternal
  have own : (Obj.string text : Obj E).getType = some .string := rfl
  have absent := find_pair_none order .string (.enum e) (by simp [registeredKeys])
  simp only [own, absent, Option.any_some]
  rfl

theorem out_array (t : Ty E) (items : List (Obj E)) : convertToPythonInternal enums keys (.array t items) =
    (do return .array .object (← convertArrayToPython enums keys items)) := by
  rw [convertToPythonInternal]
  have own : (Obj.array t items).getType = some (.array t) := rfl
  have absent := find_source_none order (t := .array t) (by simp [registeredKeys])
  simp only [own, absent]

theorem back_array {t : Ty E} (built : t.Built) (ps : List (Obj E)) :
    convertFromPythonInternal enums upper keys changeOther (.array .object ps) (.array t) =
      (do return .array t (← convertElements enums upper keys changeOther ps t)) := by
  rw [convertFromPythonInternal]
  have own : (Obj.array .object ps : Obj E).getType = some (.array .object) := rfl
  have absent := find_pair_none order (.array .object) (.array t) (by simp [registeredKeys])
  simp only [own, absent, Option.any_some, not_assignable built, Bool.false_eq_true, if_false]

/-! ## All values -/

theorem answers_string (s : String) : Answers (Fits .string) (.string s) (Exact enums upper keys (.string s))
    (convertToPythonInternal enums keys (.string s) >>= fun p => convertFromPythonInternal enums upper keys changeOther p .string) := by
  rcases find_string order with ⟨parses, found⟩ | ⟨passes, found⟩
  · have out : convertToPythonInternal enums keys (.string s) = stringToBool (.string s) := out_converter rfl found
    rw [out, stringToBool]
    cases read : parseBool s with
    | none =>
      intro exact
      rcases exact parses with rfl | rfl
      · rw [parseBool_literals.1] at read
        cases read
      · rw [parseBool_literals.2] at read
        cases read
    | some b =>
      simp only [bind, Except.bind, back_string order]
      refine ⟨.inr rfl, ?_⟩
      simp only [Obj.string.injEq, Exact, parses, true_imp_iff]
      constructor
      · intro same
        cases b
        · exact .inr same.symm
        · exact .inl same.symm
      · rintro (rfl | rfl)
        · rw [parseBool_literals.1] at read
          cases read
          rfl
        · rw [parseBool_literals.2] at read
          cases read
          rfl
  · have out : convertToPythonInternal enums keys (.string s) = .ok (.string s) := out_converter rfl found
    simp only [out, bind, Except.bind, back_direct (p := .string s) (t := .string) rfl]
    exact ⟨.inr rfl, by simp [Exact, passes]⟩

theorem answers_enum {e : E} {value : BitVec 64} (fits : (enums e).inRange ((enums e).number value) = true) :
    Answers (Fits (.enum e)) (.enum e value) (Exact enums upper keys (.enum e value))
      (convertToPythonInternal enums keys (.enum e value) >>= fun p => convertFromPythonInternal enums upper keys changeOther p (.enum e)) := by
  have reads : (enums e).parse upper ((enums e).toText value) = .ok value ↔ (enums e).ReadsBack upper value := EnumType.parse_toText_iff fits
  simp only [out_enum order, bind, Except.bind, back_enum order]
  rw [Exact]
  cases read : (enums e).parse upper ((enums e).toText value) with
  | error => simpa [read, Answers] using reads
  | ok other => simpa [read, Answers, Fits, Obj.getType] using reads

omit order in
/-- An answer for each item of a list is one for the list. -/
theorem answers_cons {t : Ty E} {item : Obj E} {items : List (Obj E)}
    (first : Answers (Fits t) item (Exact enums upper keys item)
      (convertToPythonInternal enums keys item >>= fun p => convertFromPythonInternal enums upper keys changeOther p t))
    (rest : Answers (fun _ => True) items (AllExact enums upper keys items)
      (convertArrayToPython enums keys items >>= fun ps => convertElements enums upper keys changeOther ps t)) :
    Answers (fun _ => True) (item :: items) (AllExact enums upper keys (item :: items))
      (convertArrayToPython enums keys (item :: items) >>= fun ps => convertElements enums upper keys changeOther ps t) := by
  rw [convertArrayToPython, AllExact]
  cases out : convertToPythonInternal enums keys item with
  | error inner =>
    rw [out] at first
    exact fun exact => first exact.1
  | ok p =>
    cases outs : convertArrayToPython enums keys items with
    | error inner =>
      rw [outs] at rest
      exact fun exact => rest exact.2
    | ok ps =>
      rw [out] at first
      rw [outs] at rest
      simp only [Except.mapError, bind, Except.bind, pure, Except.pure] at first rest ⊢
      rw [convertElements]
      cases back : convertFromPythonInternal enums upper keys changeOther p t with
      | error inner =>
        rw [back] at first
        exact fun exact => first exact.1
      | ok y =>
        rw [back] at first
        simp only [bind, Except.bind, pure, Except.pure, setValue_of_fits first.1]
        cases backs : convertElements enums upper keys changeOther ps t with
        | error inner =>
          rw [backs] at rest
          exact fun exact => rest exact.2
        | ok ys =>
          rw [backs] at rest
          refine ⟨trivial, ?_⟩
          rw [List.cons.injEq, first.2, rest.2]

theorem answers_array {t : Ty E} (built : t.Built) {items : List (Obj E)}
    (inside : Answers (fun _ => True) items (AllExact enums upper keys items)
      (convertArrayToPython enums keys items >>= fun ps => convertElements enums upper keys changeOther ps t)) :
    Answers (Fits (.array t)) (.array t items) (Exact enums upper keys (.array t items))
      (convertToPythonInternal enums keys (.array t items) >>= fun p => convertFromPythonInternal enums upper keys changeOther p (.array t)) := by
  rw [out_array order, Exact]
  cases outs : convertArrayToPython enums keys items with
  | error inner =>
    rw [outs] at inside
    exact inside
  | ok ps =>
    rw [outs] at inside
    simp only [bind, Except.bind, pure, Except.pure, back_array order built] at inside ⊢
    cases backs : convertElements enums upper keys changeOther ps t with
    | error inner =>
      rw [backs] at inside
      exact inside
    | ok ys =>
      rw [backs] at inside
      refine ⟨.inr rfl, ?_⟩
      simpa using inside.2

end

section
variable {enums : E → EnumType} (upper : Char → Char) {keys : List (Ty E × Ty E)} [DecidableEq E]
  (changeOther : Obj E → Ty E → Except (ConversionException E) (Obj E))

mutual

/-- Out and back inside, a value of a built type is as it was exactly where it is exact. -/
theorem answers_value (order : keys.Perm registeredKeys) : ∀ {x : Obj E} {t : Ty E}, t.Built → HasType enums x t →
    Answers (Fits t) x (Exact enums upper keys x)
      (convertToPythonInternal enums keys x >>= fun p => convertFromPythonInternal enums upper keys changeOther p t)
  | .null, t, _, typed => ⟨.inl ⟨rfl, typed⟩, by simp [Exact]⟩
  | .bool b, .bool, _, _ => by
    simp only [out_bool order, bind, Except.bind, back_bool order, stringToBool, parseBool_text]
    exact ⟨.inr rfl, by simp [Exact]⟩
  | .int i, .int, _, _ => by
    simp only [out_int order, bind, Except.bind, back_int order]
    exact ⟨.inr rfl, by simp [Exact]⟩
  | .long l, .long, _, _ => by
    simp only [out_long order, bind, Except.bind, back_long order]
    exact ⟨.inr rfl, by simpa [Exact] using widen_narrow_iff l⟩
  | .string s, .string, _, _ => answers_string order s
  | .enum _ _, .enum _, _, ⟨rfl, fits⟩ => answers_enum order fits
  | .array t _, .array _, built, ⟨rfl, typed⟩ => answers_array (t := t) order built (answers_items order (t := t) built typed)

theorem answers_items (order : keys.Perm registeredKeys) {t : Ty E} (built : t.Built) : ∀ {items : List (Obj E)}, HaveType enums items t →
    Answers (fun _ => True) items (AllExact enums upper keys items)
      (convertArrayToPython enums keys items >>= fun ps => convertElements enums upper keys changeOther ps t)
  | [], _ => ⟨trivial, by simp [AllExact]⟩
  | _ :: _, ⟨first, rest⟩ => answers_cons (answers_value order built first) (answers_items order built rest)

end

end

/-- An enum of two members. -/
def wallSide : EnumType where
  signed := true
  bits := 32
  flags := false
  members := [("Exterior", 0), ("Interior", 1)]
  nameOf v := if v = 0 then some "Exterior" else if v = 1 then some "Interior" else none
  named v name shown := by
    split at shown
    · next zero =>
      cases shown
      simp [zero]
    · split at shown
      · next one =>
        cases shown
        simp [one]
      · cases shown
  identifiers := by decide

end RevitPy.Bridge
