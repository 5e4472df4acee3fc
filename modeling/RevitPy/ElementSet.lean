import RevitPy.QueryBuilder

/-!
# Element sets

A set holds a list of elements, or a builder whose query is executed when the
elements are needed. A builder is taken for true where its query has results, so
every operation on a set with a builder executes the query first, and works on
the empty list where there are none.
-/

namespace RevitPy

variable {α κ : Type}

/-- Enhanced collection of Revit elements. -/
structure ElementSet (α : Type) where
  elements : List α := []
  is_materialized : Bool
  query_builder : Option Nat := none

/-- The index that a slice bound stands for. -/
def slice_index (length : Nat) (bound : Int) : Nat := if bound < 0 then (length + bound).toNat else bound.toNat

namespace ElementSet

/-- Create element set from query builder. -/
def from_query (query_builder : Nat) : ElementSet α := { is_materialized := false, query_builder := some query_builder }

/-- `ElementSet(elements, lazy=False)`. -/
def materialized (elements : List α) : ElementSet α := { elements := elements, is_materialized := true }

variable [DecidableEq α] [LinearOrder κ] (provider : Provider α) (query_hash : List (String × String) → String)

/-- The builder, if `if self._query_builder` is taken. -/
def backed (s : ElementSet α) (h : Heap α κ) : Except QueryException (Option Nat) × Heap α κ := match s.query_builder with
  | none => (.ok none, h)
  | some b =>
    let (count, h) := h.count provider query_hash b
    (count.map fun count => if 0 < count then some b else none, h)

/-- Ensure the collection is materialized (evaluated). -/
def ensure_materialized (s : ElementSet α) (h : Heap α κ) : Except QueryException (ElementSet α) × Heap α κ :=
  if s.is_materialized then (.ok s, h)
  else match s.backed provider query_hash h with
    | (.error e, h) => (.error e, h)
    | (.ok none, h) => (.ok { s with is_materialized := true }, h)
    | (.ok (some b), h) =>
      let (results, h) := h.to_list provider query_hash b
      (results.bind fun results => results.value.elements.map fun elements =>
        { s with elements := elements, is_materialized := true }, h)

/-- What all fluent methods do: call the method of the builder, or make the new
    list at once. -/
def fluent (s : ElementSet α) (h : Heap α κ) (deferred : Heap α κ → Nat → Except QueryException (Nat × Heap α κ))
    (eager : List α → List α) : Except QueryException (ElementSet α) × Heap α κ :=
  match s.backed provider query_hash h with
  | (.error e, h) => (.error e, h)
  | (.ok (some b), h) => match deferred h b with
    | .error e => (.error e, h)
    | .ok (new_builder, h) => (.ok (from_query new_builder), h)
  | (.ok none, h) =>
    let (s, h) := s.ensure_materialized provider query_hash h
    (s.map fun s => materialized (eager s.elements), h)

/-- Filter elements using a predicate. -/
def «where» (s : ElementSet α) (h : Heap α κ) (predicate : Callback α Bool) :=
  s.fluent provider query_hash h (fun h b => .ok (h.where b predicate)) fun elements => elements.filter predicate.call

/-- Project elements using a selector. -/
def select (s : ElementSet α) (h : Heap α κ) (selector : Callback α α) :=
  s.fluent provider query_hash h (fun h b => .ok (h.select b selector)) fun elements => elements.map selector.call

/-- Sort elements in ascending order. -/
def order_by (s : ElementSet α) (h : Heap α κ) (key_selector : Callback α κ) :=
  s.fluent provider query_hash h (fun h b => .ok (h.order_by b key_selector)) (sorted key_selector.call false)

/-- Sort elements in descending order. -/
def order_by_descending (s : ElementSet α) (h : Heap α κ) (key_selector : Callback α κ) :=
  s.fluent provider query_hash h (fun h b => .ok (h.order_by_descending b key_selector)) (sorted key_selector.call true)

/-- Skip the specified number of elements. -/
def skip (s : ElementSet α) (h : Heap α κ) (count : Int) :=
  s.fluent provider query_hash h (fun h b => h.skip b count) fun elements => elements.drop (slice_index elements.length count)

/-- Take only the specified number of elements. -/
def take (s : ElementSet α) (h : Heap α κ) (count : Int) :=
  s.fluent provider query_hash h (fun h b => h.take b count) fun elements => elements.take (slice_index elements.length count)

/-- Get distinct elements. -/
def distinct (s : ElementSet α) (h : Heap α κ) (key_selector : Option (Callback α κ)) :=
  s.fluent provider query_hash h (fun h b => .ok (h.distinct b key_selector)) fun elements => match key_selector with
    | none => distinct_generator id [] elements
    | some key_selector => distinct_generator key_selector.call [] elements

/-- Convert to list. -/
def to_list (s : ElementSet α) (h : Heap α κ) : Except QueryException (List α) × Heap α κ :=
  let (s, h) := s.ensure_materialized provider query_hash h
  (s.map ElementSet.elements, h)

/-- A call of a fluent method on a set. -/
def call (s : ElementSet α) (h : Heap α κ) : FluentCall α κ → Except QueryException (ElementSet α) × Heap α κ
  | .where predicate => s.where provider query_hash h predicate
  | .select selector => s.select provider query_hash h selector
  | .order_by key_selector => s.order_by provider query_hash h key_selector
  | .order_by_descending key_selector => s.order_by_descending provider query_hash h key_selector
  | .skip count => s.skip provider query_hash h count
  | .take count => s.take provider query_hash h count
  | .distinct key_selector => s.distinct provider query_hash h key_selector

/-- A chain of fluent calls, then `to_list`. An exception ends it. -/
def evaluate (s : ElementSet α) (h : Heap α κ) : List (FluentCall α κ) → Except QueryException (List α) × Heap α κ
  | [] => s.to_list provider query_hash h
  | c :: rest => match s.call provider query_hash h c with
    | (.error e, h) => (.error e, h)
    | (.ok s, h) => s.evaluate h rest

end ElementSet

end RevitPy
