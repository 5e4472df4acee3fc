import Mathlib.Logic.Basic

/-!
# Attempts that are repeated

A loop makes numbered attempts until one of them ends it, and at most so many. An
attempt answers `none` where the loop goes on. The rule for such a loop asks for an
invariant that an attempt that goes on keeps, and for what is true when an attempt
ends the loop and when none did.
-/

namespace RevitPy.Retry
variable {σ ρ : Type*}

/-- The attempts from `first` on, until one has a result, at most `count` of them. -/
def run (attempt : Nat → σ → Option ρ × σ) : Nat → Nat → σ → Option ρ × σ
  | _, 0, s => (none, s)
  | first, count + 1, s => match attempt first s with
    | (some result, t) => (some result, t)
    | (none, t) => run attempt (first + 1) count t

variable {attempt : Nat → σ → Option ρ × σ} {s t : σ} {result : ρ} {first count : Nat}

theorem run_ended (ended : attempt first s = (some result, t)) : run attempt first (count + 1) s = (some result, t) := by
  rw [run, ended]

theorem run_goes_on (goes_on : attempt first s = (none, t)) : run attempt first (count + 1) s = run attempt (first + 1) count t := by
  rw [run, goes_on]

/-- What holds once the loop is over. -/
theorem run_rule {P : Nat → σ → Prop} {Q : Option ρ → σ → Prop}
    (goes_on : ∀ k s t, k < first + count → P k s → attempt k s = (none, t) → P (k + 1) t)
    (ends : ∀ k s t result, k < first + count → P k s → attempt k s = (some result, t) → Q (some result) t)
    (exhausted : ∀ t, P (first + count) t → Q none t) (start : P first s) :
    Q (run attempt first count s).1 (run attempt first count s).2 := by
  induction count generalizing first s with
  | zero => exact exhausted s start
  | succ count ih =>
    obtain ⟨answer, t, answered⟩ : ∃ answer t, attempt first s = (answer, t) := ⟨_, _, rfl⟩
    cases answer with
    | some result =>
      rw [run_ended answered]
      exact ends first s t result (by omega) start answered
    | none =>
      rw [run_goes_on answered]
      refine ih (fun k s t few => goes_on k s t (by omega)) (fun k s t result few => ends k s t result (by omega)) ?_
        (goes_on first s t (by omega) start answered)
      rwa [Nat.add_right_comm]

end RevitPy.Retry
