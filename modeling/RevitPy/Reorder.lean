import Mathlib.Data.List.Sort

/-!
# Moving operations past each other

A list of operations is applied to a state one by one. Operations may change
places where they commute; a stable sort and a filter are two of them.
-/

namespace RevitPy.Reorder

section
variable {ω σ : Type*} (apply : ω → σ → σ)

/-- The state after a list of operations. -/
def run (ops : List ω) (s : σ) : σ := ops.foldl (fun s op => apply op s) s

@[simp] theorem run_nil (s : σ) : run apply [] s = s := rfl
@[simp] theorem run_cons (op : ω) (ops : List ω) (s : σ) : run apply (op :: ops) s = run apply ops (apply op s) := rfl
theorem run_append (left right : List ω) (s : σ) : run apply (left ++ right) s = run apply right (run apply left s) :=
  List.foldl_append

/-- The order of two operations makes no difference. -/
def Commute (a b : ω) : Prop := ∀ s, apply a (apply b s) = apply b (apply a s)

variable {apply}

theorem run_commute {a : ω} {ops : List ω} (commute : ∀ b ∈ ops, Commute apply a b) (s : σ) :
    run apply ops (apply a s) = apply a (run apply ops s) := by
  induction ops generalizing s with
  | nil => rfl
  | cons b rest ih =>
    rw [run_cons, run_cons, ← commute b (by simp) s]
    exact ih (fun c member => commute c (by simp [member])) (apply b s)

/-- Some operations can be moved to the front where each commutes with the
    others that it passes. -/
theorem run_partition (p : ω → Bool) {ops : List ω}
    (commute : ops.Pairwise fun a b => p a = false → p b = true → Commute apply a b) (s : σ) :
    run apply (ops.filter p ++ ops.filter fun op => !p op) s = run apply ops s := by
  induction ops generalizing s with
  | nil => rfl
  | cons a rest ih =>
    obtain ⟨first, later⟩ := List.pairwise_cons.mp commute
    cases front : p a with
    | true => simpa [front] using ih later (apply a s)
    | false =>
      have passes : ∀ b ∈ rest.filter p, Commute apply a b := fun b member =>
        first b (List.mem_filter.mp member).1 front (List.mem_filter.mp member).2
      have tail := ih later (apply a s)
      rw [run_append, run_commute passes] at tail
      simpa [front, run_append] using tail

end

/-- Where some operation stands in relation to a later one, there is a first such
    later one. -/
theorem exists_first {ω : Type*} {R : ω → ω → Prop} [DecidableRel R] {ops : List ω}
    (related : ¬ops.Pairwise fun a b => ¬R a b) :
    ∃ before a middle b after, ops = before ++ a :: (middle ++ b :: after) ∧ R a b ∧ ∀ c ∈ middle, ¬R a c := by
  induction ops with
  | nil => exact absurd List.Pairwise.nil related
  | cons a rest ih =>
    by_cases head : ∃ b ∈ rest, R a b
    · obtain ⟨b, member, stands⟩ := head
      have found : (rest.find? fun b => R a b).isSome := List.find?_isSome.mpr ⟨b, member, by simpa using stands⟩
      obtain ⟨c, first⟩ := Option.isSome_iff_exists.mp found
      obtain ⟨relates, middle, after, split, none⟩ := List.find?_eq_some_iff_append.mp first
      exact ⟨[], a, middle, c, after, by rw [split]; rfl, by simpa using relates, by simpa using none⟩
    · have tail : ¬rest.Pairwise fun a b => ¬R a b := fun later =>
        related (List.pairwise_cons.mpr ⟨fun b member stands => head ⟨b, member, stands⟩, later⟩)
      obtain ⟨before, b, middle, c, after, split, rest⟩ := ih tail
      exact ⟨a :: before, b, middle, c, after, by rw [split]; rfl, rest⟩

/-! ## Stable sorting -/

section
variable {α : Type*} (r : α → α → Prop) [DecidableRel r]

theorem filter_orderedInsert [IsTrans α r] (p : α → Bool) (a : α) {l : List α} (sorted : l.Pairwise r) :
    (l.orderedInsert r a).filter p = if p a then (l.filter p).orderedInsert r a else l.filter p := by
  induction l with
  | nil => cases kept : p a <;> simp [kept]
  | cons b rest ih =>
    obtain ⟨least, later⟩ := List.pairwise_cons.mp sorted
    by_cases first : r a b
    · rw [List.orderedInsert_cons, if_pos first, List.filter_cons]
      split
      · -- All that is kept of the list comes after `a`.
        have below : ∀ c ∈ (b :: rest).filter p, r a c := by
          intro c member
          rcases List.mem_cons.mp (List.mem_filter.mp member).1 with rfl | inside
          · exact first
          · exact trans_of r first (least c inside)
        cases shape : (b :: rest).filter p with
        | nil => rfl
        | cons c tail => rw [List.orderedInsert_cons, if_pos (below c (by simp [shape]))]
      · rfl
    · rw [List.orderedInsert_cons, if_neg first, List.filter_cons, ih later, List.filter_cons]
      cases kept : p b <;> cases inserted : p a <;> simp [first]

/-- Filtering a sorted list and sorting a filtered list give the same order. -/
theorem filter_insertionSort [IsTrans α r] [Std.Total r] (p : α → Bool) (l : List α) :
    (l.insertionSort r).filter p = (l.filter p).insertionSort r := by
  induction l with
  | nil => rfl
  | cons a rest ih =>
    rw [List.insertionSort_cons, filter_orderedInsert r p a (List.pairwise_insertionSort r rest), ih, List.filter_cons]
    split
    · rw [List.insertionSort_cons]
    · rfl

end
end RevitPy.Reorder
