import Mathlib.Algebra.BigOperators.Group.List.Basic
import Mathlib.Algebra.Order.Field.Rat
import Mathlib.Tactic.Ring
import RevitPy.Outcome
import RevitPy.Retry

/-!
# The wrappers that call a function again

Three wrappers retry a function that raises an `Exception`: `async_retry` counts the
attempts, `retry_on_error` and `async_revit_operation` count the retries. What the
calls of the function end by is given by their number. All three make the same calls
and end in the same way; only the pauses differ.
-/

namespace RevitPy.RetryWrappers
variable {α : Type}

/-- The calls made so far, the pauses between them in seconds and the last exception. -/
structure Attempts where
  calls : Nat := 0
  slept : List ℚ := []
  last_error : Option String := none

/-- One attempt: only an `Exception` is caught, and a pause follows it unless it was the
    last attempt. -/
def attempt_call (func : Nat → Outcome α) (attempts : Int) (pause : Nat → ℚ) (attempt : Nat) (s : Attempts) :
    Option (Outcome α) × Attempts :=
  match func s.calls with
  | .raised e =>
    (none,
      { calls := s.calls + 1
        slept := if (attempt : Int) < attempts - 1 then s.slept ++ [pause attempt] else s.slept
        last_error := some e })
  | ended => (some ended, { s with calls := s.calls + 1 })

/-- `for attempt in range(attempts)`, and what is raised once all have failed. -/
def retry_loop (func : Nat → Outcome α) (attempts : Int) (pause : Nat → ℚ) (no_exception : Outcome α) : Outcome α × Attempts :=
  match Retry.run (attempt_call func attempts pause) 0 attempts.toNat {} with
  | (some ended, s) => (ended, s)
  | (none, s) => match s.last_error with
    | some e => (.raised e, s)
    | none => (no_exception, s)

/-- Retry async function with configurable backoff. -/
def async_retry (func : Nat → Outcome α) (max_attempts : Int) (delay_seconds : ℚ) (exponential_backoff : Bool) : Outcome α × Attempts :=
  retry_loop func max_attempts (fun attempt => if exponential_backoff then delay_seconds * 2 ^ attempt else delay_seconds)
    (.raised "Async retry failed with no exception")

/-- Decorator to retry event handler on errors. -/
def retry_on_error (func : Nat → Outcome α) (max_retries : Int) (delay_seconds : ℚ) : Outcome α × Attempts :=
  retry_loop func (max_retries + 1) (fun _ => delay_seconds) (.raised "exceptions must derive from BaseException")

/-- Decorator to make Revit operations async-aware. The function is the operation under
    its cancellation token and timeout. -/
def async_revit_operation (func : Nat → Outcome α) (retry_count : Int) (retry_delay : ℚ) : Outcome α × Attempts :=
  if 0 < retry_count then
    retry_loop func (retry_count + 1) (fun _ => retry_delay) (.raised "exceptions must derive from BaseException")
  else (func 0, { calls := 1 })

/-! ## How a retried call ends -/

def Raises : Outcome α → Prop
  | .raised _ => True
  | _ => False

instance (ended : Outcome α) : Decidable (Raises ended) := match ended with
  | .raised _ => .isTrue trivial
  | .returned _ => .isFalse id
  | .interrupted _ => .isFalse id

/-- A retried call ends as its last call did, which is the first that does not raise an
    `Exception`, or the last one allowed. Between two calls there is a pause. -/
structure Concludes (func : Nat → Outcome α) (attempts : Nat) (pause : Nat → ℚ) (ended : Outcome α) (s : Attempts) : Prop where
  called : 0 < s.calls
  bounded : s.calls ≤ attempts
  raised : ∀ i, i + 1 < s.calls → Raises (func i)
  last : ended = func (s.calls - 1)
  gives_up : Raises ended → s.calls = attempts
  slept : s.slept = (List.range (s.calls - 1)).map pause

theorem Concludes.unique {func : Nat → Outcome α} {attempts : Nat} {pause pause' : Nat → ℚ} {ended ended' : Outcome α} {s t : Attempts}
    (left : Concludes func attempts pause ended s) (right : Concludes func attempts pause' ended' t) :
    ended = ended' ∧ s.calls = t.calls := by
  -- A call that ended without an exception is not followed by another one.
  have no_more {a b : Attempts} {p q : Nat → ℚ} {x y : Outcome α} (one : Concludes func attempts p x a) (two : Concludes func attempts q y b) :
      b.calls ≤ a.calls := by
    by_contra fewer
    have raises : Raises x := by
      rw [one.last]
      refine two.raised (a.calls - 1) ?_
      have called := one.called
      omega
    have all := one.gives_up raises
    have bounded := two.bounded
    omega
  have same : s.calls = t.calls := Nat.le_antisymm (no_more right left) (no_more left right)
  exact ⟨by rw [left.last, right.last, same], same⟩

/-- What is known before an attempt: all calls before it raised. -/
structure Pending (func : Nat → Outcome α) (attempts : Nat) (pause : Nat → ℚ) (k : Nat) (s : Attempts) : Prop where
  calls : s.calls = k
  raised : ∀ i < k, Raises (func i)
  last_error : ∀ i, k = i + 1 → ∃ e, func i = .raised e ∧ s.last_error = some e
  slept : s.slept = (List.range (min k (attempts - 1))).map pause

theorem Pending.goes_on {func : Nat → Outcome α} {attempts : Nat} {pause : Nat → ℚ} {k : Nat} {s t : Attempts} (few : k < attempts)
    (pending : Pending func attempts pause k s) (answered : attempt_call func attempts pause k s = (none, t)) :
    Pending func attempts pause (k + 1) t := by
  unfold attempt_call at answered
  rw [pending.calls] at answered
  split at answered
  · next e raises =>
    obtain rfl := (Prod.mk.inj answered).2
    refine ⟨rfl, ?_, ?_, ?_⟩
    · intro i before
      rcases Nat.lt_succ_iff_lt_or_eq.mp before with earlier | rfl
      · exact pending.raised i earlier
      · rw [raises]
        trivial
    · intro i same
      obtain rfl : k = i := by omega
      exact ⟨e, raises, rfl⟩
    · by_cases more : (k : Int) < attempts - 1
      · have here : min k (attempts - 1) = k := by omega
        have next : min (k + 1) (attempts - 1) = k + 1 := by omega
        simp [more, pending.slept, here, next, List.range_succ]
      · have same : min (k + 1) (attempts - 1) = min k (attempts - 1) := by omega
        simp [more, pending.slept, same]
  · cases answered

theorem Pending.ends {func : Nat → Outcome α} {attempts : Nat} {pause : Nat → ℚ} {k : Nat} {s t : Attempts} {ended : Outcome α}
    (few : k < attempts) (pending : Pending func attempts pause k s)
    (answered : attempt_call func attempts pause k s = (some ended, t)) : Concludes func attempts pause ended t := by
  unfold attempt_call at answered
  rw [pending.calls] at answered
  split at answered
  · cases answered
  · next quiet =>
    obtain ⟨same, rfl⟩ := Prod.mk.inj answered
    have here : min k (attempts - 1) = k := by omega
    refine ⟨Nat.succ_pos k, few, fun i earlier => pending.raised i (by simpa using earlier), (Option.some.inj same).symm, ?_, ?_⟩
    · intro raises
      rw [← Option.some.inj same] at raises
      cases called : func k with
      | raised e => exact absurd called (quiet e)
      | returned value =>
        rw [called] at raises
        exact absurd raises id
      | interrupted e =>
        rw [called] at raises
        exact absurd raises id
    · rw [pending.slept, here]
      rfl

/-- The attempts end with one that concludes the call, or all of them raised. -/
theorem attempts_made (func : Nat → Outcome α) (n : Nat) (pause : Nat → ℚ) :
    let answer := Retry.run (attempt_call func (n + 1 : Nat) pause) 0 (n + 1) {}
    (∀ ended, answer.1 = some ended → Concludes func (n + 1) pause ended answer.2) ∧
      (answer.1 = none → Pending func (n + 1) pause (n + 1) answer.2) := by
  have start : Pending func (n + 1) pause 0 {} := by
    refine ⟨rfl, fun i before => absurd before (Nat.not_lt_zero i), fun i same => absurd same (by omega), ?_⟩
    simp
  refine Retry.run_rule (P := Pending func (n + 1) pause)
    (Q := fun answer s => (∀ ended, answer = some ended → Concludes func (n + 1) pause ended s) ∧
      (answer = none → Pending func (n + 1) pause (n + 1) s)) ?_ ?_ ?_ start
  · intro k s t few pending answered
    exact pending.goes_on (by omega) answered
  · intro k s t ended few pending answered
    refine ⟨fun other same => ?_, fun none => absurd none nofun⟩
    rw [← Option.some.inj same]
    exact pending.ends (by omega) answered
  · intro t pending
    rw [Nat.zero_add] at pending
    exact ⟨fun ended same => absurd same nofun, fun _ => pending⟩

/-- The loop concludes where at least one attempt is made. -/
theorem retry_loop_concludes (func : Nat → Outcome α) (n : Nat) (pause : Nat → ℚ) (no_exception : Outcome α) :
    let answer := retry_loop func (n + 1 : Nat) pause no_exception
    Concludes func (n + 1) pause answer.1 answer.2 := by
  obtain ⟨ends, exhausted⟩ := attempts_made func n pause
  unfold retry_loop
  rw [Int.toNat_natCast]
  generalize Retry.run (attempt_call func (n + 1 : Nat) pause) 0 (n + 1) {} = answer at ends exhausted
  obtain ⟨ended, s⟩ := answer
  cases ended with
  | some ended => exact ends ended rfl
  | none =>
    have pending : Pending func (n + 1) pause (n + 1) s := exhausted rfl
    have calls := pending.calls
    obtain ⟨e, raises, last⟩ := pending.last_error n rfl
    have all : min (n + 1) (n + 1 - 1) = s.calls - 1 := by omega
    simp only [last]
    refine ⟨by omega, by omega, fun i earlier => pending.raised i (by omega), ?_, fun _ => calls, ?_⟩
    · rw [calls]
      exact raises.symm
    · rw [pending.slept, all]

theorem async_revit_operation_concludes (func : Nat → Outcome α) (n : Nat) (retry_delay : ℚ) :
    let answer := async_revit_operation func n retry_delay
    Concludes func (n + 1) (fun _ => retry_delay) answer.1 answer.2 := by
  unfold async_revit_operation
  split
  · exact retry_loop_concludes func n _ _
  · next none =>
    obtain rfl : n = 0 := by omega
    exact ⟨Nat.one_pos, Nat.le_refl 1, fun i earlier => absurd earlier (by simp), rfl, fun _ => rfl, rfl⟩

/-- The pauses double, so together they are a delay short of the next one. -/
theorem sum_backoffs (delay : ℚ) (n : Nat) : ((List.range n).map fun attempt => delay * 2 ^ attempt).sum = delay * 2 ^ n - delay := by
  induction n with
  | zero => simp
  | succ n ih =>
    rw [List.range_succ, List.map_append, List.sum_append, ih, List.map_singleton, List.sum_singleton, pow_succ]
    ring

end RevitPy.RetryWrappers
