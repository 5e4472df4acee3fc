import Mathlib.Logic.Basic

/-!
# Loops given by a partial step

A `while` loop is a step that answers `none` where the condition fails. A
measure that every step lowers bounds the number of rounds, so the loop is a
total function that still computes.
-/

namespace RevitPy.Loop
variable {σ : Type*}

/-- At most `fuel` rounds of the loop; `none` where it has not ended by then. -/
def run (step : σ → Option σ) : Nat → σ → Option σ
  | 0, s => match step s with
    | none => some s
    | some _ => none
  | fuel + 1, s => match step s with
    | none => some s
    | some t => run step fuel t

theorem run_done {step : σ → Option σ} {s : σ} (done : step s = none) (fuel : Nat) : run step fuel s = some s := by
  cases fuel <;> simp [run, done]
theorem run_step {step : σ → Option σ} {s t : σ} (next : step s = some t) (fuel : Nat) :
    run step (fuel + 1) s = run step fuel t := by
  simp [run, next]

/-- Every round lowers the measure. -/
def Decreasing (step : σ → Option σ) (measure : σ → Nat) : Prop :=
  ∀ s t, step s = some t → measure t < measure s

variable {step : σ → Option σ} {measure : σ → Nat}

theorem run_isSome (decreasing : Decreasing step measure) (fuel : Nat) (s : σ) (enough : measure s ≤ fuel) :
    (run step fuel s).isSome := by
  induction fuel generalizing s with
  | zero =>
    cases next : step s with
    | none => simp [run_done next]
    | some t =>
      have lower := decreasing s t next
      omega
  | succ fuel ih =>
    cases next : step s with
    | none => simp [run_done next]
    | some t =>
      have lower := decreasing s t next
      rw [run_step next]
      exact ih t (by omega)

/-- The state in which the loop ends. -/
def exec (step : σ → Option σ) (measure : σ → Nat) (decreasing : Decreasing step measure) (s : σ) : σ :=
  (run step (measure s) s).get (run_isSome decreasing (measure s) s (Nat.le_refl _))

theorem run_unique {fuel fuel' : Nat} {s t t' : σ} (ended : run step fuel s = some t) (ended' : run step fuel' s = some t') :
    t = t' := by
  induction fuel generalizing s fuel' with
  | zero =>
    cases next : step s with
    | none => rw [run_done next] at ended ended'; rw [← Option.some.inj ended, ← Option.some.inj ended']
    | some u => simp [run, next] at ended
  | succ fuel ih =>
    cases next : step s with
    | none => rw [run_done next] at ended ended'; rw [← Option.some.inj ended, ← Option.some.inj ended']
    | some u =>
      rw [run_step next] at ended
      cases fuel' with
      | zero => simp [run, next] at ended'
      | succ fuel' => exact ih ended (by rwa [run_step next] at ended')

theorem run_exec (decreasing : Decreasing step measure) (s : σ) :
    run step (measure s) s = some (exec step measure decreasing s) := (Option.some_get _).symm

theorem exec_done (decreasing : Decreasing step measure) {s : σ} (done : step s = none) :
    exec step measure decreasing s = s :=
  run_unique (run_exec decreasing s) (run_done done 0)
theorem exec_next (decreasing : Decreasing step measure) {s t : σ} (next : step s = some t) :
    exec step measure decreasing s = exec step measure decreasing t :=
  run_unique (run_exec decreasing s) ((run_step next (measure t)).trans (run_exec decreasing t))

/-- The loop does not depend on the measure that shows its end. -/
theorem exec_congr {step' : σ → Option σ} {measure' : σ → Nat} (decreasing : Decreasing step measure)
    (decreasing' : Decreasing step' measure') (same : step = step') (s : σ) :
    exec step measure decreasing s = exec step' measure' decreasing' s := by
  subst same
  exact run_unique (run_exec decreasing s) (run_exec decreasing' s)

theorem run_map {τ : Type*} {step' : τ → Option τ} {f : σ → τ} (alike : ∀ s, (step s).map f = step' (f s)) (fuel : Nat) (s : σ) :
    run step' fuel (f s) = (run step fuel s).map f := by
  induction fuel generalizing s with
  | zero =>
    have same := alike s
    cases next : step s with
    | none =>
      rw [next, Option.map_none] at same
      rw [run_done next, run_done same.symm, Option.map_some]
    | some t =>
      rw [next, Option.map_some] at same
      simp [run, next, ← same]
  | succ fuel ih =>
    have same := alike s
    cases next : step s with
    | none =>
      rw [next, Option.map_none] at same
      rw [run_done next, run_done same.symm, Option.map_some]
    | some t =>
      rw [next, Option.map_some] at same
      rw [run_step next, run_step same.symm, ih]

/-- A loop that is seen through a function goes through the rounds of the loop on what is seen. -/
theorem exec_map {τ : Type*} {step' : τ → Option τ} {measure' : τ → Nat} (decreasing : Decreasing step measure)
    (decreasing' : Decreasing step' measure') {f : σ → τ} (alike : ∀ s, (step s).map f = step' (f s)) (s : σ) :
    f (exec step measure decreasing s) = exec step' measure' decreasing' (f s) := by
  have seen := run_map alike (measure s) s
  rw [run_exec decreasing s, Option.map_some] at seen
  exact run_unique seen (run_exec decreasing' (f s))

/-- Exactly so many rounds lead from one state to another. -/
def Rounds (step : σ → Option σ) : Nat → σ → σ → Prop
  | 0, s, t => s = t
  | rounds + 1, s, t => ∃ next, step s = some next ∧ Rounds step rounds next t

/-- The loop ends, after no more rounds than the measure allows. -/
theorem rounds_exec (decreasing : Decreasing step measure) (s : σ) :
    ∃ rounds, rounds ≤ measure s ∧ Rounds step rounds s (exec step measure decreasing s) := by
  induction bound : measure s using Nat.strongRecOn generalizing s with
  | ind n ih =>
    cases next : step s with
    | none => exact ⟨0, Nat.zero_le _, (exec_done decreasing next).symm⟩
    | some t =>
      have lower := decreasing s t next
      obtain ⟨rounds, few, reached⟩ := ih (measure t) (bound ▸ lower) t rfl
      exact ⟨rounds + 1, by omega, t, next, by rwa [exec_next decreasing next]⟩

/-- What every round keeps, counting the rounds made, holds after all of them. -/
theorem rounds_induction {Inv : Nat → σ → Prop} (keeps : ∀ n s t, Inv n s → step s = some t → Inv (n + 1) t) {rounds n : Nat}
    {s t : σ} (start : Inv n s) (reached : Rounds step rounds s t) : Inv (n + rounds) t := by
  induction rounds generalizing n s with
  | zero => exact reached ▸ start
  | succ rounds ih =>
    obtain ⟨next, taken, later⟩ := reached
    rw [← Nat.add_assoc, Nat.add_right_comm]
    exact ih (keeps n s next start taken) later

theorem run_induction {Inv : σ → Prop} (keeps : ∀ s t, Inv s → step s = some t → Inv t) (fuel : Nat) (s final : σ)
    (start : Inv s) (ended : run step fuel s = some final) : Inv final ∧ step final = none := by
  induction fuel generalizing s with
  | zero =>
    cases next : step s with
    | none =>
      rw [run_done next] at ended
      cases ended
      exact ⟨start, next⟩
    | some t => simp [run, next] at ended
  | succ fuel ih =>
    cases next : step s with
    | none =>
      rw [run_done next] at ended
      cases ended
      exact ⟨start, next⟩
    | some t =>
      rw [run_step next] at ended
      exact ih t (keeps s t start next) ended

/-- What holds at the start and is kept by every round holds where the loop
    ends, and there the loop condition fails. -/
theorem exec_induction {P : σ → Prop} (decreasing : Decreasing step measure) (s : σ)
    (keeps : ∀ s t, P s → step s = some t → P t) (start : P s) :
    P (exec step measure decreasing s) ∧ step (exec step measure decreasing s) = none :=
  run_induction keeps (measure s) s _ start (Option.some_get _).symm

end RevitPy.Loop
