import Mathlib.Data.List.Basic

/-!
# A list in slices

`l[i : i + size] for i in range(0, len(l), size)`
-/

namespace RevitPy.Slices

variable {α : Type*}

def slices (size : Nat) (l : List α) : List (List α) :=
  (List.range ((l.length + size - 1) / size)).map fun i => (l.drop (i * size)).take size

theorem flatten_range (size : Nat) (l : List α) (n : Nat) :
    ((List.range n).map fun i => (l.drop (i * size)).take size).flatten = l.take (n * size) := by
  induction n with
  | zero => simp
  | succ n ih =>
    rw [List.range_succ, List.map_append, List.flatten_append, ih, Nat.succ_mul, List.take_add]
    simp

/-- The slices are the list, in order. -/
theorem flatten_slices {size : Nat} (positive : 1 ≤ size) (l : List α) : (slices size l).flatten = l := by
  have enough : l.length ≤ (l.length + size - 1) / size * size := by
    have split := Nat.div_add_mod (l.length + size - 1) size
    have small := Nat.mod_lt (l.length + size - 1) (by omega : size > 0)
    rw [Nat.mul_comm] at split
    omega
  rw [slices, flatten_range, List.take_of_length_le enough]

end RevitPy.Slices
