import Mathlib.Order.Lattice
import RevitPy.Outcome

/-!
# Chains on element sets

A set defers its operations and replays them over its own elements. The set that an
operation makes gets the operations, but not the elements of the set it is made from.
-/

namespace RevitPy.Api

/-- A deferred operation. Its function may raise, and the keys of an `order_by` are of one
    ordered type. -/
inductive SetOperation (ν ε : Type) : Type 1
  | «where» (predicate : ν → Except ε Bool)
  | select (selector : ν → Except ε ν)
  | order_by {κ : Type} [LinearOrder κ] (key_selector : ν → Except ε κ)

inductive ElementSetException (ε : Type)
  | ElementNotFoundError (element_id : String)
  | raised (e : ε)

/-- Collection of elements with LINQ-style operations and lazy evaluation. -/
structure ElementSet (ν ε : Type) where
  _elements : List ν
  _is_evaluated : Bool
  _query_operations : List (SetOperation ν ε) := []

variable {ν ε : Type}

/-- `sorted(xs, key=key_selector)`, which asks for every key first. -/
def sorted_by {κ : Type} [LinearOrder κ] (key_selector : ν → Except ε κ) (xs : List ν) : Except ε (List ν) :=
  (xs.mapM fun x => (key_selector x).map fun key => (key, x)).map fun keyed =>
    (keyed.mergeSort fun a b => a.1 ≤ b.1).map Prod.snd

/-- What an operation makes of a list. -/
def SetOperation.apply : SetOperation ν ε → List ν → Except ε (List ν)
  | .where predicate, xs => xs.filterM predicate
  | .select selector, xs => xs.mapM selector
  | @order_by _ _ _ _ key_selector, xs => sorted_by key_selector xs

/-- Operations applied to a list, one after the other. -/
def apply_all : List (SetOperation ν ε) → List ν → Except ε (List ν)
  | [], xs => .ok xs
  | operation :: rest, xs => (operation.apply xs).bind (apply_all rest)

namespace ElementSet

/-- `ElementSet(elements)`. -/
def init (elements : List ν) : ElementSet ν ε := { _elements := elements, _is_evaluated := !elements.isEmpty }

/-- What `where`, `select` and `order_by` do: a new set with one more operation. -/
def deferred (s : ElementSet ν ε) (operation : SetOperation ν ε) : ElementSet ν ε :=
  { (init [] : ElementSet ν ε) with
    _query_operations := s._query_operations ++ [operation]
    _is_evaluated := false }

/-- Filter elements using a predicate. -/
def «where» (s : ElementSet ν ε) (predicate : ν → Except ε Bool) : ElementSet ν ε := s.deferred (.where predicate)

/-- Transform elements using a selector. -/
def select (s : ElementSet ν ε) (selector : ν → Except ε ν) : ElementSet ν ε := s.deferred (.select selector)

/-- Order elements by key selector. -/
def order_by {κ : Type} [LinearOrder κ] (s : ElementSet ν ε) (key_selector : ν → Except ε κ) : ElementSet ν ε :=
  s.deferred (.order_by key_selector)

/-- Ensure the query is evaluated. -/
def _ensure_evaluated (s : ElementSet ν ε) : Except ε (ElementSet ν ε) :=
  if s._is_evaluated then .ok s
  else (apply_all s._query_operations s._elements).map fun result =>
    { s with
      _elements := result
      _is_evaluated := true }

/-- What a terminal method reads from the evaluated set. -/
def evaluated {α : Type} (s : ElementSet ν ε) (answer : List ν → Except (ElementSetException ε) α) :
    Except (ElementSetException ε) α × ElementSet ν ε :=
  match s._ensure_evaluated with
  | .error e => (.error (.raised e), s)
  | .ok s => (answer s._elements, s)

/-- Convert to list. -/
def to_list (s : ElementSet ν ε) := s.evaluated .ok

/-- Get the number of elements in the collection. -/
def count (s : ElementSet ν ε) := s.evaluated fun elements => .ok elements.length

/-- The elements that iteration goes through. -/
def iter (s : ElementSet ν ε) := s.evaluated .ok

/-- `self._elements[0]`. -/
def head : List ν → Except (ElementSetException ε) ν
  | [] => .error (.ElementNotFoundError "No elements in set")
  | x :: _ => .ok x

/-- Get the first element matching the predicate. -/
def first (s : ElementSet ν ε) : Option (ν → Except ε Bool) → Except (ElementSetException ε) ν × ElementSet ν ε
  | some predicate => (((s.where predicate).evaluated head).1, s)
  | none => s.evaluated head

/-- Check if any elements match the predicate. -/
def any (s : ElementSet ν ε) : Option (ν → Except ε Bool) → Except (ElementSetException ε) Bool × ElementSet ν ε
  | some predicate => (((s.where predicate).evaluated fun elements => .ok (decide (0 < elements.length))).1, s)
  | none => s.evaluated fun elements => .ok (decide (0 < elements.length))

/-- A chain of operations on a set. -/
def chain (s : ElementSet ν ε) : List (SetOperation ν ε) → ElementSet ν ε := List.foldl deferred s

/-- What a terminal method should answer where the operations make a list of the elements. -/
def meant {α : Type} (operations : List (SetOperation ν ε)) (xs : List ν) (answer : List ν → Except (ElementSetException ε) α) :
    Except (ElementSetException ε) α :=
  match apply_all operations xs with
  | .error e => .error (.raised e)
  | .ok result => answer result

/-- Every way to evaluate a chain answers for the list that the operations make of the
    elements, one after the other. -/
structure MeansList (xs : List ν) (operations : List (SetOperation ν ε)) : Prop where
  to_list : ((init xs).chain operations).to_list.1 = meant operations xs .ok
  iter : ((init xs).chain operations).iter.1 = meant operations xs .ok
  count : ((init xs).chain operations).count.1 = meant operations xs fun result => .ok result.length
  first : (((init xs).chain operations).first none).1 = meant operations xs head
  any : (((init xs).chain operations).any none).1 = meant operations xs fun result => .ok (decide (0 < result.length))

/-! ## What a chain does -/

/-- No operation makes anything of no elements. -/
theorem apply_all_nil (operations : List (SetOperation ν ε)) : apply_all operations [] = .ok [] := by
  induction operations with
  | nil => rfl
  | cons operation rest ih =>
    have nothing : operation.apply [] = .ok [] := by
      cases operation with
      | «where» predicate => rfl
      | select selector => rfl
      | order_by key_selector => simp [SetOperation.apply, sorted_by, pure, Except.pure, Except.map]
    rw [apply_all, nothing]
    exact ih

theorem chain_deferred (operations rest : List (SetOperation ν ε)) :
    chain ⟨[], false, operations⟩ rest = ⟨[], false, operations ++ rest⟩ := by
  induction rest generalizing operations with
  | nil => rw [List.append_nil, chain, List.foldl_nil]
  | cons operation rest ih =>
    rw [List.append_cons, ← ih]
    rfl

/-- The elements of the first set are in none of the sets made from it. -/
theorem evaluated_chain {α : Type} (xs : List ν) (operation : SetOperation ν ε) (rest : List (SetOperation ν ε))
    (answer : List ν → Except (ElementSetException ε) α) : (((init xs).chain (operation :: rest)).evaluated answer).1 = answer [] := by
  have derived : (init xs).chain (operation :: rest) = ⟨[], false, operation :: rest⟩ := chain_deferred [operation] rest
  rw [derived, evaluated, _ensure_evaluated, if_neg (by simp), apply_all_nil]
  rfl

theorem evaluated_init {α : Type} (xs : List ν) (answer : List ν → Except (ElementSetException ε) α) :
    ((init xs).evaluated answer).1 = answer xs := by
  cases xs <;> rfl

/-- A predicate makes one more operation. -/
theorem first_predicate (s : ElementSet ν ε) (predicate : ν → Except ε Bool) :
    (s.first (some predicate)).1 = ((s.where predicate).first none).1 := rfl

theorem any_predicate (s : ElementSet ν ε) (predicate : ν → Except ε Bool) :
    (s.any (some predicate)).1 = ((s.where predicate).any none).1 := rfl

/-- A chain means what its operations do to the list where there are none, or where they
    leave nothing. -/
theorem means_list_iff (xs : List ν) (operations : List (SetOperation ν ε)) :
    MeansList xs operations ↔ operations = [] ∨ apply_all operations xs = .ok [] := by
  constructor
  · intro means
    cases operations with
    | nil => exact Or.inl rfl
    | cons operation rest =>
      have answer := means.to_list
      rw [to_list, evaluated_chain xs operation rest, meant] at answer
      split at answer
      · cases answer
      · next result same => exact Or.inr (by rw [same, ← Except.ok.inj answer])
  · intro harmless
    have evaluates {α : Type} (answer : List ν → Except (ElementSetException ε) α) :
        (((init xs).chain operations).evaluated answer).1 = meant operations xs answer := by
      cases operations with
      | nil => exact evaluated_init xs answer
      | cons operation rest => rw [evaluated_chain xs operation rest, meant, harmless.resolve_left (List.cons_ne_nil _ _)]
    exact ⟨evaluates _, evaluates _, evaluates _, evaluates _, evaluates _⟩

/-- The numbers of a list that are at least two are not found. -/
theorem filtered_away : ¬MeansList [1, 2, 3] [(.where fun n => .ok (decide (2 ≤ n)) : SetOperation Nat String)] := by
  intro means
  have answer := congrArg Except.toOption means.to_list
  revert answer
  decide +kernel

end ElementSet
end RevitPy.Api
