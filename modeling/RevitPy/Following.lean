import Mathlib.Data.Fintype.Pigeonhole
import Mathlib.Data.Set.Finite.List

/-!
# Following a function from place to place

A walk that goes on from each place in one way alone ends, among finitely many
places, exactly if it never comes to a place twice.
-/

namespace RevitPy.Following

variable {α : Type*} {next : α → Option α}

/-- Where the walk is after some steps, if it has not ended. -/
def follow (next : α → Option α) : Nat → α → Option α
  | 0, a => some a
  | n + 1, a => (next a).bind (follow next n)

theorem follow_add (next : α → Option α) (m n : Nat) (a : α) : follow next (m + n) a = (follow next m a).bind (follow next n) := by
  induction m generalizing a with
  | zero => simp [follow]
  | succ m ih =>
    rw [Nat.succ_add, follow, follow]
    cases next a with
    | none => rfl
    | some b => exact ih b

theorem follow_succ (next : α → Option α) (n : Nat) (a : α) : follow next (n + 1) a = (follow next n a).bind next := by
  rw [follow_add]
  congr 1
  funext b
  cases found : next b <;> simp [follow, found]

theorem follow_none_of_le {m n : Nat} {a : α} (ended : follow next m a = none) (later : m ≤ n) : follow next n a = none := by
  rw [← Nat.add_sub_cancel' later, follow_add, ended]
  rfl

/-- A walk that ends has a last place. -/
theorem exists_last {n : Nat} {a : α} (ended : follow next n a = none) : ∃ m last, follow next m a = some last ∧ next last = none := by
  induction n generalizing a with
  | zero => cases ended
  | succ n ih =>
    cases step : next a with
    | none => exact ⟨0, a, rfl, step⟩
    | some b =>
      rw [follow, step, Option.bind_some] at ended
      obtain ⟨m, last, found, stops⟩ := ih ended
      exact ⟨m + 1, last, by rw [follow, step, Option.bind_some, found], stops⟩

theorem last_unique {m n : Nat} {a b c : α} (first : follow next m a = some b) (stops : next b = none)
    (second : follow next n a = some c) (halts : next c = none) : b = c := by
  have ends (k : Nat) {d : α} (stops : next d = none) (found : follow next k a = some d) : follow next (k + 1) a = none := by
    rw [follow_succ, found, Option.bind_some, stops]
  rcases Nat.lt_trichotomy m n with before | rfl | after
  · cases (follow_none_of_le (ends m stops first) before).symm.trans second
  · exact Option.some.inj (first.symm.trans second)
  · cases (follow_none_of_le (ends n halts second) after).symm.trans first

/-- What is come to twice is come to again and again. -/
theorem follow_round {p : Nat} {b : α} (round : follow next p b = some b) (k : Nat) : follow next (k * p) b = some b := by
  induction k with
  | zero => simp [follow]
  | succ k ih => rw [Nat.succ_mul, follow_add, ih, Option.bind_some, round]

theorem ends_iff_distinct {places : List α} (within : ∀ a b, next a = some b → b ∈ places) (a : α) :
    (∃ n, follow next n a = none) ↔ ∀ i j b, i < j → follow next i a = some b → follow next j a ≠ some b := by
  constructor
  · intro ⟨n, ended⟩ i j b before first second
    have round : follow next (j - i) b = some b := by
      have split := follow_add next i (j - i) a
      rw [Nat.add_sub_cancel' before.le, first, second] at split
      exact split.symm
    have again := follow_add next i (n * (j - i)) a
    have long : n ≤ i + n * (j - i) := (Nat.le_mul_of_pos_right n (Nat.sub_pos_of_lt before)).trans (Nat.le_add_left _ _)
    rw [first, Option.bind_some, follow_round round, follow_none_of_le ended long] at again
    cases again
  · intro distinct
    by_contra never
    have goes : ∀ n, ∃ b, follow next n a = some b := fun n => Option.ne_none_iff_exists'.mp fun ended => never ⟨n, ended⟩
    choose place at_place using goes
    have known : ∀ n, place (n + 1) ∈ places := by
      intro n
      have step := follow_succ next n a
      rw [at_place, at_place] at step
      exact within _ _ step.symm
    have finite : Finite {b // b ∈ places} := (List.finite_toSet places).to_subtype
    -- infinitely many steps come to finitely many places
    obtain ⟨i, j, different, same⟩ := Finite.exists_ne_map_eq_of_infinite fun n => (⟨place (n + 1), known n⟩ : {b // b ∈ places})
    have same : place (i + 1) = place (j + 1) := congrArg Subtype.val same
    rcases Nat.lt_or_gt_of_ne different with before | after
    · exact distinct _ _ _ (Nat.succ_lt_succ before) (at_place (i + 1)) (same ▸ at_place (j + 1))
    · exact distinct _ _ _ (Nat.succ_lt_succ after) (at_place (j + 1)) (same ▸ at_place (i + 1))

end RevitPy.Following
