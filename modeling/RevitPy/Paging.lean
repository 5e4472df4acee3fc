import RevitPy.TerminalCalls

/-!
# Pages of a query

A query gives the part of its elements from a skip count on, as many as its take count
says, but a take count of zero does not count: it gives all that is left. The pages of
one size, put end to end, are the elements.
-/

namespace RevitPy.Api

variable {α ν : Type} (py : Objects ν) (source : ElementSource α ν)

theorem bound_natCast (length index : Nat) : bound length index = min index length := by
  have nonneg : ¬(index : Int) < 0 := by omega
  rw [bound, if_neg nonneg, Int.toNat_natCast]

/-- Dropping no more than there is, or all. -/
theorem drop_bound (elements : List α) (index : Nat) : elements.drop (bound elements.length index) = elements.drop index := by
  rw [bound_natCast]
  rcases Nat.le_total index elements.length with within | beyond
  · rw [Nat.min_eq_left within]
  · rw [Nat.min_eq_right beyond, List.drop_length, List.drop_of_length_le beyond]

/-- A slice between two counts. -/
theorem slice_natCast (elements : List α) (start_index count : Nat) :
    slice elements start_index (some ((start_index + count : Nat) : Int)) = (elements.drop start_index).take count := by
  calc slice elements start_index (some ((start_index + count : Nat) : Int))
      = (elements.take (bound elements.length (start_index + count : Nat))).drop (bound elements.length start_index) := rfl
    _ = (elements.drop (bound elements.length start_index)).take
          (bound elements.length (start_index + count : Nat) - bound elements.length start_index) := List.drop_take ..
    _ = (elements.drop start_index).take count := by
        rw [drop_bound, bound_natCast, bound_natCast, List.take_eq_take_iff, List.length_drop]
        omega

/-- What stands in the first pages of a list. -/
theorem flatten_pages (elements : List α) (size count : Nat) :
    ((List.range count).map fun i => (elements.drop (i * size)).take size).flatten = elements.take (count * size) := by
  induction count with
  | zero => simp
  | succ count ih =>
    rw [List.range_succ, List.map_append, List.flatten_append, ih, Nat.succ_mul, List.take_add]
    simp

namespace QueryBuilder

/-- The elements that are left after a skip count, and of them as many as a take count says. -/
def Cuts (q : QueryBuilder ν) (skip_count take_count : Nat) : Prop :=
  ((q.skip skip_count).take take_count).execute py source =
    (q.prepared py source).map fun elements => (elements.drop skip_count).take take_count

/-- The pages before a number, put end to end. -/
def pages (q : QueryBuilder ν) (size count : Nat) : Except String (List α) :=
  ((List.range count).mapM fun i => ((q.skip (i * size : Nat)).take size).execute py source).map List.flatten

/-- As soon as there are pages enough they are the elements, with none lost and none twice. -/
def Gathers (q : QueryBuilder ν) (size : Nat) : Prop :=
  ∀ elements, q.prepared py source = .ok elements →
    ∀ count, elements.length ≤ count * size → q.pages py source size count = .ok elements

variable {py source}

/-- A take count that is not zero cuts as it says. -/
theorem execute_skip_take (q : QueryBuilder ν) (skip_count : Nat) {take_count : Nat} (counts : take_count ≠ 0) :
    q.Cuts py source skip_count take_count := by
  have same : ((q.skip skip_count).take take_count).prepared py source = q.prepared py source := rfl
  rw [Cuts, execute, same]
  cases q.prepared py source with
  | error e => rfl
  | ok elements =>
    have ends : ((q.skip skip_count).take take_count).end_index = some ((skip_count + take_count : Nat) : Int) := by
      simp [end_index, skip, take, counts]
    show Except.ok (slice elements skip_count _) = _
    rw [ends, slice_natCast]
    rfl

/-- A take count of zero cuts nothing. -/
theorem execute_skip_take_zero (q : QueryBuilder ν) (skip_count : Nat) :
    ((q.skip skip_count).take 0).execute py source = (q.prepared py source).map fun elements => elements.drop skip_count := by
  have same : ((q.skip skip_count).take 0).prepared py source = q.prepared py source := rfl
  rw [execute, same]
  cases q.prepared py source with
  | error e => rfl
  | ok elements => exact congrArg Except.ok (drop_bound elements skip_count)

theorem gathers (q : QueryBuilder ν) {size : Nat} (counts : size ≠ 0) : q.Gathers py source size := by
  intro elements found count enough
  have page (i : Nat) : ((q.skip (i * size : Nat)).take size).execute py source = .ok ((elements.drop (i * size)).take size) := by
    have cuts : q.Cuts py source (i * size) size := q.execute_skip_take (i * size) counts
    rw [Cuts, found] at cuts
    exact cuts
  have all : (List.range count).mapM (fun i => ((q.skip (i * size : Nat)).take size).execute py source) =
      .ok ((List.range count).map fun i => (elements.drop (i * size)).take size) := by
    simp only [page]
    exact List.mapM_pure
  rw [pages, all]
  show Except.ok _ = _
  rw [flatten_pages, List.take_of_length_le enough]

/-- A query pages right exactly when its take count is not zero, or nothing is left to take. -/
theorem pages_right_iff (q : QueryBuilder ν) (skip_count take_count : Nat) :
    q.Cuts py source skip_count take_count ∧ (1 ≤ take_count → q.Gathers py source take_count) ↔
      take_count ≠ 0 ∨ ∀ elements, q.prepared py source = .ok elements → elements.length ≤ skip_count := by
  by_cases zero : take_count = 0
  · subst zero
    have executed : ((q.skip skip_count).take 0).execute py source = (q.prepared py source).map fun elements => elements.drop skip_count :=
      q.execute_skip_take_zero skip_count
    have cuts_iff : q.Cuts py source skip_count 0 ↔ ∀ elements, q.prepared py source = .ok elements → elements.length ≤ skip_count := by
      rw [Cuts, show ((0 : Nat) : Int) = 0 from rfl, executed]
      cases q.prepared py source with
      | error e => exact ⟨fun _ _ found => (by cases found), fun _ => rfl⟩
      | ok elements => simp [Except.map]
    simp [cuts_iff]
  · exact ⟨fun _ => .inl zero, fun _ => ⟨q.execute_skip_take skip_count zero, fun _ => q.gathers zero⟩⟩

/-- A query that takes no elements gives both. -/
theorem takes_none :
    (((({} : QueryBuilder Nat).skip 0).take 0).execute whole_numbers two_elements = .ok [1, 2]) ∧
      ¬({} : QueryBuilder Nat).Cuts whole_numbers two_elements 0 0 :=
  ⟨rfl, fun cuts => by cases cuts⟩

end QueryBuilder

end RevitPy.Api
