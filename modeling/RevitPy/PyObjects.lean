import RevitPy.Dict

/-!
# Objects in the members of an element

`None`, integers and texts are what ids are made of. What other objects do is up to them.
-/

namespace RevitPy

inductive PyObject (ω : Type)
  | None
  | int (n : Int)
  | str (s : String)
  | other (o : ω)
  deriving DecidableEq

/-- What other objects do in a condition, as a text and in a comparison. -/
structure ObjectMethods (ω : Type) where
  __bool__ : ω → Bool
  __str__ : ω → String
  __eq__ : ω → PyObject ω → Bool

namespace PyObject
variable {ω : Type} (py : ObjectMethods ω)

/-- `bool(value)` -/
def truthy : PyObject ω → Bool
  | .None => false
  | .int n => n ≠ 0
  | .str s => s ≠ ""
  | .other o => py.__bool__ o

/-- `str(value)` -/
def text : PyObject ω → String
  | .None => "None"
  | .int n => toString n
  | .str s => s
  | .other o => py.__str__ o

/-- `a == b` -/
def eq : PyObject ω → PyObject ω → Bool
  | .None, .None => true
  | .int a, .int b => a = b
  | .str a, .str b => a = b
  | .other a, b => py.__eq__ a b
  | a, .other b => py.__eq__ b a
  | _, _ => false

/-- `a or b` -/
def either (a b : PyObject ω) : PyObject ω := if a.truthy py then a else b

end PyObject

/-- A dictionary of members. -/
abbrev Members (ω : Type) := Dict String (PyObject ω)

namespace Members
variable {ω : Type} (members : Members ω)

/-- `members.get(key)` -/
def get (key : String) : PyObject ω := members.getD key .None

/-- The id that a dictionary carries: an integer or a text, under the first of some keys that has a
    value other than `None` and the empty text. -/
def own_id : List String → Option String
  | [] => none
  | key :: later => match get members key with
    | .None => own_id later
    | .int n => some (toString n)
    | .str s => if s = "" then own_id later else some s
    | .other _ => none

variable (py : ObjectMethods ω)

/-- What the first key holds that has a value which counts as true. -/
def first_truthy (default : PyObject ω) : List String → PyObject ω
  | [] => default
  | key :: later => (get members key).either py (first_truthy default later)

variable {members}

theorem toString_ne_empty (n : Int) : toString n ≠ "" := by
  rw [Int.toString_eq_repr, Int.repr_eq_if]
  split
  · exact Nat.repr_ne_empty
  · simp

theorem own_id_ne_empty {keys : List String} {id : String} (carried : members.own_id keys = some id) : id ≠ "" := by
  induction keys with
  | nil => cases carried
  | cons key later ih =>
    rw [own_id] at carried
    cases value : members.get key with
    | None => exact ih (by simpa [value] using carried)
    | int n =>
      simp only [value, Option.some.injEq] at carried
      exact carried ▸ toString_ne_empty n
    | str s =>
      simp only [value] at carried
      by_cases empty : s = ""
      · exact ih (by simpa [empty] using carried)
      · rw [if_neg empty, Option.some.injEq] at carried
        exact carried ▸ empty
    | other o => simp [value] at carried

/-- The first value that counts as true is the id, unless the id is the integer 0. -/
theorem text_first_truthy {keys : List String} {id : String} (carried : members.own_id keys = some id) (default : PyObject ω) :
    (members.first_truthy py default keys).text py = id ∨ id = "0" := by
  induction keys with
  | nil => cases carried
  | cons key later ih =>
    rw [own_id] at carried
    rw [first_truthy]
    cases value : members.get key with
    | None =>
      simp only [value] at carried
      simpa [PyObject.either, PyObject.truthy] using ih carried
    | int n =>
      simp only [value, Option.some.injEq] at carried
      by_cases zero : n = 0
      · exact .inr (by rw [← carried, zero]; rfl)
      · exact .inl (by simp [PyObject.either, PyObject.truthy, zero, PyObject.text, carried])
    | str s =>
      simp only [value] at carried
      by_cases empty : s = ""
      · rw [if_pos empty] at carried
        simpa [PyObject.either, PyObject.truthy, empty] using ih carried
      · rw [if_neg empty, Option.some.injEq] at carried
        subst carried
        exact .inl (by simp [PyObject.either, PyObject.truthy, empty, PyObject.text])
    | other o => simp [value] at carried

theorem get_of_not_mem {key : String} (missing : key ∉ members.keys) : members.get key = .None := by
  rw [Members.get, Dict.getD, (members.get?_none_iff key).mpr missing]
  rfl

theorem first_truthy_of_truthy {a b : Members ω} {keys : List String} (same : ∀ key ∈ keys, b.get key = a.get key)
    (some_truthy : ∃ key ∈ keys, (a.get key).truthy py = true) (d e : PyObject ω) : b.first_truthy py d keys = a.first_truthy py e keys := by
  induction keys with
  | nil => simp at some_truthy
  | cons key later ih =>
    rw [Members.first_truthy, Members.first_truthy, same key List.mem_cons_self, PyObject.either, PyObject.either]
    split
    · rfl
    · rename_i falsy
      refine ih (fun other member => same other (List.mem_cons_of_mem _ member)) ?_
      obtain ⟨other, member, truthy⟩ := some_truthy
      rcases List.mem_cons.mp member with rfl | member
      · exact absurd truthy falsy
      · exact ⟨other, member, truthy⟩

theorem first_truthy_of_falsy {members : Members ω} {keys : List String} (falsy : ∀ key ∈ keys, (members.get key).truthy py = false) (d : PyObject ω) :
    members.first_truthy py d keys = d := by
  induction keys with
  | nil => rfl
  | cons key later ih =>
    rw [Members.first_truthy, PyObject.either, if_neg (by simp [falsy key List.mem_cons_self])]
    exact ih fun other member => falsy other (List.mem_cons_of_mem _ member)

end Members
end RevitPy
