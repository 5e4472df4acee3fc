import Mathlib.Data.List.FinRange
import Mathlib.Data.List.Sort
import RevitPy.StableSort

/-!
# Sorting by comparisons that may fail

A sort sees what it sorts only through the comparisons it asks for. Where some of
them fail, a sort that succeeds has asked for the others alone; so it cannot tell
apart two orders that answer those alike, and fails wherever they differ.
-/

namespace RevitPy.Comparisons

open StableSort

variable {ι α β ε : Type}

/-- A computation that asks whether one place comes before another. -/
inductive Asking (ι β : Type)
  | done (result : β)
  | ask (i j : ι) (next : Bool → Asking ι β)

namespace Asking

/-- The computation with comparisons that may fail. -/
def run (less : ι → ι → Except ε Bool) : Asking ι β → Except ε β
  | .done result => .ok result
  | .ask i j next => do
    let answer ← less i j
    run less (next answer)

/-- The computation with comparisons that do not fail. -/
def result (less : ι → ι → Bool) : Asking ι β → β
  | .done result => result
  | .ask i j next => result less (next (less i j))

theorem run_eq_result {less : ι → ι → Except ε Bool} {total : ι → ι → Bool}
    (answered : ∀ i j, less i j = .ok (total i j)) (asking : Asking ι β) : asking.run less = .ok (asking.result total) := by
  induction asking with
  | done result => rfl
  | ask i j next ih =>
    rw [run, answered i j]
    exact ih (total i j)

/-- What succeeds would have had the same result with any comparison that answers alike. -/
theorem result_of_run {less : ι → ι → Except ε Bool} {total : ι → ι → Bool}
    (alike : ∀ i j answer, less i j = .ok answer → total i j = answer) {asking : Asking ι β} {outcome : β}
    (succeeded : asking.run less = .ok outcome) : asking.result total = outcome := by
  induction asking with
  | done result =>
    cases succeeded
    rfl
  | ask i j next ih =>
    rw [run] at succeeded
    cases asked : less i j with
    | error e =>
      rw [asked] at succeeded
      cases succeeded
    | ok answer =>
      rw [asked] at succeeded
      rw [result, alike i j answer asked]
      exact ih answer succeeded

end Asking

/-- A sort: for every length, what it asks of the places and the order it puts them in. -/
def Sorting := (n : Nat) → Asking (Fin n) (List (Fin n))

/-- The sort keeps what is not told apart in its order, whatever the comparison. -/
def Sorting.Stable (sorting : Sorting) : Prop :=
  ∀ (n : Nat) (le : Fin n → Fin n → Bool), TotalPreorder le →
    StablySorts le (List.finRange n) ((sorting n).result fun i j => !le j i)

/-- The items in the order in which the sort puts their places. -/
def Sorting.sort (sorting : Sorting) (less : α → α → Except ε Bool) (items : List α) : Except ε (List α) :=
  ((sorting items.length).run fun i j => less (items.get i) (items.get j)).map fun places => places.map items.get

namespace Sorting

variable {sorting : Sorting}

theorem result_eq_mergeSort (stable : sorting.Stable) {le : α → α → Bool} (order : TotalPreorder le) (items : List α) :
    ((sorting items.length).result fun i j => !le (items.get j) (items.get i)) =
      (List.finRange items.length).mergeSort fun i j => le (items.get i) (items.get j) :=
  (stablySorts_iff (order.on items.get) _ _).mp (stable _ _ (order.on items.get))

theorem places_mergeSort (le : α → α → Bool) (items : List α) :
    ((List.finRange items.length).mergeSort fun i j => le (items.get i) (items.get j)).map items.get = items.mergeSort le := by
  rw [List.map_mergeSort (s := le) (f := items.get) fun i _ j _ => rfl]
  exact congrArg (List.mergeSort · le) (List.map_get_finRange items)

/-- What a sort with comparisons that follow an order answers is the items in that order. -/
theorem places_of_run (stable : sorting.Stable) {le : α → α → Bool} (order : TotalPreorder le)
    {less : α → α → Except ε Bool} {items : List α} {places : List (Fin items.length)}
    (alike : ∀ a ∈ items, ∀ b ∈ items, ∀ answer, less a b = .ok answer → (!le b a) = answer)
    (ran : (sorting items.length).run (fun i j => less (items.get i) (items.get j)) = .ok places) :
    places.map items.get = items.mergeSort le := by
  have asked : ((sorting items.length).result fun i j => !le (items.get j) (items.get i)) = places :=
    Asking.result_of_run (fun i j answer asked => alike _ (items.get_mem i) _ (items.get_mem j) answer asked) ran
  rw [← asked, result_eq_mergeSort stable order, places_mergeSort]

/-- A sort whose comparisons answer for an order puts the items in that order. -/
theorem sort_of_order (stable : sorting.Stable) {le : α → α → Bool} (order : TotalPreorder le)
    {less : α → α → Except ε Bool} {items : List α}
    (answered : ∀ a ∈ items, ∀ b ∈ items, less a b = .ok (!le b a)) : sorting.sort less items = .ok (items.mergeSort le) := by
  have asked : ∀ i j : Fin items.length, less (items.get i) (items.get j) = .ok (!le (items.get j) (items.get i)) :=
    fun i j => answered _ (items.get_mem i) _ (items.get_mem j)
  rw [sort, Asking.run_eq_result asked, result_eq_mergeSort stable order]
  exact congrArg Except.ok (places_mergeSort le items)

/-- A sort fails where two orders that answer like its comparisons stand against each other. -/
theorem sort_fails (stable : sorting.Stable) {le le' : α → α → Bool} (order : TotalPreorder le) (order' : TotalPreorder le')
    {less : α → α → Except ε Bool} {items : List α}
    (alike : ∀ a ∈ items, ∀ b ∈ items, ∀ answer, less a b = .ok answer → (!le b a) = answer ∧ (!le' b a) = answer)
    {a b : α} (first : a ∈ items) (second : b ∈ items) (before : le a b = true) (not_after : le b a = false)
    (after : le' b a = true) (not_before : le' a b = false) : ∃ e, sorting.sort less items = .error e := by
  cases ran : (sorting items.length).run fun i j => less (items.get i) (items.get j) with
  | error e => exact ⟨e, by rw [sort, ran]; rfl⟩
  | ok places =>
    have same : items.mergeSort le = items.mergeSort le' := by
      rw [← places_of_run stable order (fun a ha b hb answer asked => (alike a ha b hb answer asked).1) ran]
      exact places_of_run stable order' (fun a ha b hb answer asked => (alike a ha b hb answer asked).2) ran
    have agree := (mergeSort_eq_iff order order' items).mp same
    have pair {i j : Fin items.length} (before : i < j) : [items.get i, items.get j].Sublist items := by
      simpa using @List.map_getElem_sublist α items [i, j] (List.pairwise_pair.mpr before)
    obtain ⟨i, rfl⟩ := List.mem_iff_get.mp first
    obtain ⟨j, rfl⟩ := List.mem_iff_get.mp second
    rcases lt_trichotomy i j with earlier | rfl | later
    · have := agree _ _ (pair earlier)
      simp_all
    · simp_all
    · have := agree _ _ (pair later)
      simp_all

end Sorting

/-! ## Sorting by insertion -/

/-- Put a place before the first that is not to come before it. -/
def insert (i : ι) : List ι → (List ι → Asking ι β) → Asking ι β
  | [], next => next [i]
  | j :: rest, next => .ask j i fun before =>
      if before then insert i rest fun inserted => next (j :: inserted) else next (i :: j :: rest)

def insertAll : List ι → (List ι → Asking ι β) → Asking ι β
  | [], next => next []
  | i :: rest, next => insertAll rest fun sorted => insert i sorted next

def insertion : Sorting := fun n => insertAll (List.finRange n) .done

theorem result_insert (le : ι → ι → Bool) (i : ι) (places : List ι) (next : List ι → Asking ι β) :
    (insert i places next).result (fun i j => !le j i) =
      (next (places.orderedInsert (fun i j => le i j = true) i)).result fun i j => !le j i := by
  induction places generalizing next with
  | nil => rfl
  | cons j rest ih => cases ij : le i j <;> simp [insert, Asking.result, ij, ih]

theorem result_insertAll (le : ι → ι → Bool) (places : List ι) (next : List ι → Asking ι β) :
    (insertAll places next).result (fun i j => !le j i) =
      (next (places.insertionSort fun i j => le i j = true)).result fun i j => !le j i := by
  induction places generalizing next with
  | nil => rfl
  | cons i rest ih => rw [insertAll, ih, result_insert, List.insertionSort_cons]

theorem insertion_stable : insertion.Stable := by
  intro n le order
  rw [insertion, result_insertAll]
  have : Std.Total fun i j => le i j = true := ⟨fun i j => by simpa using order.total i j⟩
  have : IsTrans (Fin n) fun i j => le i j = true := ⟨order.trans⟩
  exact stablySorts_of_sublists order (List.perm_insertionSort _ _) (List.pairwise_insertionSort _ _)
    fun _ ordered part => List.sublist_insertionSort ordered part

end RevitPy.Comparisons
