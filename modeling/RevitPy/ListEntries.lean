import Mathlib.Algebra.BigOperators.Group.List.Basic
import Mathlib.Algebra.Order.Ring.Int

/-!
# One entry of a list

What the entries of a list hold or weigh together, where one of them is replaced.
-/

namespace RevitPy
variable {α β : Type} {f : α → List β} {xs : List α} {i : Nat} {a b : α}

theorem count_flatMap_set [BEq β] (found : xs[i]? = some a) (y : β) :
    ((xs.set i b).flatMap f).count y + (f a).count y = (xs.flatMap f).count y + (f b).count y := by
  induction xs generalizing i with
  | nil => simp at found
  | cons x rest ih =>
    cases i with
    | zero =>
      obtain rfl : x = a := by simpa using found
      simp only [List.set_cons_zero, List.flatMap_cons, List.count_append]
      omega
    | succ j =>
      have later := ih (i := j) (by simpa using found)
      simp only [List.set_cons_succ, List.flatMap_cons, List.count_append]
      omega

theorem mem_flatMap_set {y : β} (member : y ∈ (xs.set i b).flatMap f) :
    y ∈ f b ∨ ∃ j x, j ≠ i ∧ xs[j]? = some x ∧ y ∈ f x := by
  obtain ⟨x, inside, here⟩ := List.mem_flatMap.mp member
  obtain ⟨j, found⟩ := List.mem_iff_getElem?.mp inside
  rw [List.getElem?_set] at found
  by_cases same : i = j
  · rw [if_pos same] at found
    split at found
    · exact .inl (Option.some.inj found ▸ here)
    · simp at found
  · rw [if_neg same] at found
    exact .inr ⟨j, x, fun e => same e.symm, found, here⟩

theorem sum_map_set (found : xs[i]? = some a) (weight : α → Nat) :
    ((xs.set i b).map weight).sum + weight a = (xs.map weight).sum + weight b := by
  induction xs generalizing i with
  | nil => simp at found
  | cons x rest ih =>
    cases i with
    | zero =>
      obtain rfl : x = a := by simpa using found
      simp only [List.set_cons_zero, List.map_cons, List.sum_cons]
      omega
    | succ j =>
      have later := ih (i := j) (by simpa using found)
      simp only [List.set_cons_succ, List.map_cons, List.sum_cons]
      omega

end RevitPy
