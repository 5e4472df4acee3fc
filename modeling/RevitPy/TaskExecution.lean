import RevitPy.TaskQueue

/-!
# The execution of a task

`execute` calls the function of a task until it returns, cancellation is met or the retries are
used up, and then tells the completion callbacks. Other code runs while it awaits or calls: it may
set the cancellation token and add completion callbacks.
-/

namespace RevitPy.TaskExecution

/-- What is raised. `TypeError` is what Python makes of `raise None`. -/
inductive TaskError (ε : Type)
  | OperationCancelledError (message : String)
  | TypeError (message : String)
  | Exception (error : ε)
  | BaseException (error : ε)
  deriving DecidableEq

/-- An `Exception` other than `OperationCancelledError`. -/
def TaskError.fails {ε : Type} : TaskError ε → Prop
  | .TypeError _ | .Exception _ => True
  | _ => False

/-- Not an `Exception`. -/
def TaskError.escapes {ε : Type} : TaskError ε → Prop
  | .BaseException _ => True
  | _ => False

theorem TaskError.kinds {ε : Type} (error : TaskError ε) :
    error.escapes ∨ (∃ message, error = .OperationCancelledError message) ∨ error.fails := by
  cases error with
  | OperationCancelledError message => exact .inr (.inl ⟨message, rfl⟩)
  | TypeError message => exact .inr (.inr trivial)
  | Exception error => exact .inr (.inr trivial)
  | BaseException error => exact .inl trivial

/-- What other code does while the task awaits or calls it. -/
structure Meanwhile (κ : Type) where
  cancels : Bool := false
  adds : List κ := []

/-- A call of the progress reporter, with what each of its callbacks raises. -/
structure Report (ε κ : Type) where
  ends : List (Option (TaskError ε)) := []
  meanwhile : Meanwhile κ := {}

/-- An attempt: how the call of the function ends, the sleep after it, and the report. -/
structure Attempt (α ε κ : Type) where
  outcome : Except (TaskError ε) α
  meanwhile : Meanwhile κ := {}
  asleep : Meanwhile κ := {}
  /-- The sleep is cancelled from outside. -/
  interrupted : Option ε := none
  report : Report ε κ := {}

/-- The call of a completion callback. -/
structure Reaction (ε κ : Type) where
  ends : Option (TaskError ε) := none
  adds : List κ := []

/-- The code that a task calls. Completion callbacks behind the listed reactions just return. -/
structure Surroundings (α ε κ : Type) where
  start : Report ε κ := {}
  attempts : Nat → Attempt α ε κ
  closing : TaskStatus → Report ε κ := fun _ => {}
  reactions : List (Reaction ε κ) := []

/-- Result of task execution. -/
structure TaskResult (α ε : Type) where
  status : TaskStatus
  result : Option α := none
  error : Option (TaskError ε) := none
  deriving DecidableEq

/-- A task, with the token's flag where it has a token. -/
structure Task (α ε κ : Type) where
  retry_count : Int := 0
  cancellation_token : Option Bool := none
  progress_reporter : Bool := false
  status : TaskStatus := .PENDING
  result : Option α := none
  error : Option (TaskError ε) := none
  attempts : Nat := 0
  _completion_callbacks : List κ := []
  /-- How the calls of the function ended, in this execution. -/
  calls : List (Except (TaskError ε) α) := []
  /-- The calls of completion callbacks, in this execution. -/
  notified : List (κ × TaskResult α ε) := []

variable {α ε κ : Type}

/-- The callbacks of a progress reporter are called, and their `Exception`s logged. -/
def _notify_callbacks : List (Option (TaskError ε)) → Option (TaskError ε)
  | [] => none
  | some (.BaseException error) :: _ => some (.BaseException error)
  | _ :: rest => _notify_callbacks rest

/-- What came of the calls of the completion callbacks. -/
structure Notification (α ε κ : Type) where
  ends : Option (TaskError ε) := none
  calls : List (κ × TaskResult α ε) := []
  added : List κ := []

/-- The loop over the completion callbacks: it comes to those that are added on the way. -/
def notifying (result : TaskResult α ε) : List (Reaction ε κ) → List κ → Notification α ε κ
  | [], callbacks => { calls := callbacks.map fun callback => (callback, result) }
  | _ :: _, [] => {}
  | reaction :: reactions, callback :: rest =>
    match reaction.ends with
    | some (.BaseException error) => ⟨some (.BaseException error), [(callback, result)], reaction.adds⟩
    | _ =>
      let more := notifying result reactions (rest ++ reaction.adds)
      { more with
        calls := (callback, result) :: more.calls
        added := reaction.adds ++ more.added }

namespace Task
variable (t : Task α ε κ) (w : Surroundings α ε κ)

def is_cancelled : Bool := t.cancellation_token = some true

/-- Other code has run. -/
def after (m : Meanwhile κ) : Task α ε κ :=
  { t with
    cancellation_token := t.cancellation_token.map (· || m.cancels)
    _completion_callbacks := t._completion_callbacks ++ m.adds }

/-- A call of the progress reporter, if there is one. -/
def reporting (r : Report ε κ) : Option (TaskError ε) × Task α ε κ :=
  if t.progress_reporter then (_notify_callbacks r.ends, t.after r.meanwhile) else (none, t)

/-- The function has been called. -/
def called (attempt : Attempt α ε κ) : Task α ε κ :=
  { t with calls := t.calls ++ [attempt.outcome] }.after attempt.meanwhile

/-- What follows a failed attempt, up to the next one. -/
def pausing (attempt : Attempt α ε κ) : Option (TaskError ε) × Task α ε κ :=
  let t := t.after attempt.asleep
  match attempt.interrupted with
  | some error => (some (.BaseException error), t)
  | none => t.reporting attempt.report

/-- The loop over the attempts, with those that are left, the number of the next one and the
    last error. -/
def attempting : Nat → Nat → Option (TaskError ε) → Task α ε κ → Except (TaskError ε) α × Task α ε κ
  | 0, _, last_error, t => (.error (last_error.getD (.TypeError "exceptions must derive from BaseException")), t)
  | left + 1, attempt, _, t =>
    let t := { t with attempts := attempt + 1 }
    if t.is_cancelled then (.error (.OperationCancelledError "Task cancelled during retry"), t)
    else
      let t := t.called (w.attempts attempt)
      match (w.attempts attempt).outcome with
      | .ok value => (.ok value, t)
      | .error (.OperationCancelledError message) => (.error (.OperationCancelledError message), t)
      | .error (.BaseException error) => (.error (.BaseException error), t)
      | .error error =>
        if (attempt : Int) < t.retry_count then
          match t.pausing (w.attempts attempt) with
          | (some raised, t) => (.error raised, t)
          | (none, t) => attempting left (attempt + 1) (some error) t
        else attempting left (attempt + 1) (some error) t

/-- Execute function with retry logic. -/
def _execute_with_retry : Except (TaskError ε) α × Task α ε κ := attempting w (t.retry_count + 1).toNat 0 none t

/-- Notify completion callbacks. -/
def _notify_completion_callbacks (result : TaskResult α ε) : Option (TaskError ε) × Task α ε κ :=
  let notification := notifying result w.reactions t._completion_callbacks
  (notification.ends,
    { t with
      _completion_callbacks := t._completion_callbacks ++ notification.added
      notified := t.notified ++ notification.calls })

/-- The progress reporter and then the callbacks are told of a result. -/
def concluded (result : TaskResult α ε) : Except (TaskError ε) (TaskResult α ε) × Task α ε κ :=
  match t.reporting (w.closing t.status) with
  | (some raised, t) => (.error raised, t)
  | (none, t) =>
    match t._notify_completion_callbacks w result with
    | (some raised, t) => (.error raised, t)
    | (none, t) => (.ok result, t)

/-- The handlers of `execute`. -/
def handled : TaskError ε → Except (TaskError ε) (TaskResult α ε) × Task α ε κ
  | .BaseException error => (.error (.BaseException error), t)
  | .OperationCancelledError message =>
    let error := .OperationCancelledError message
    { t with status := .CANCELLED, error := some error }.concluded w { status := .CANCELLED, error := some error }
  | error => { t with status := .FAILED, error := some error }.concluded w { status := .FAILED, error := some error }

/-- The first steps of `execute`, up to the result of the function. -/
def running : Except (TaskError ε) α × Task α ε κ :=
  if t.is_cancelled then (.error (.OperationCancelledError "Task cancelled before execution"), t)
  else match t.reporting w.start with
    | (some raised, t) => (.error raised, t)
    | (none, t) => t._execute_with_retry w

/-- Execute the task. -/
def execute : Except (TaskError ε) (TaskResult α ε) × Task α ε κ :=
  match { t with status := .RUNNING, calls := [], notified := [] }.running w with
  | (.error error, t) => t.handled w error
  | (.ok value, t) =>
    let t := { t with result := some value, status := .COMPLETED }
    match t.concluded w { status := .COMPLETED, result := some value } with
    | (.error error, t) => t.handled w error
    | (.ok result, t) => (.ok result, t)

/-! ## What an execution comes to -/

/-- Other code asks for cancellation before the check of an attempt. -/
def asked_before (n : Nat) : Bool :=
  (t.progress_reporter && w.start.meanwhile.cancels) || (List.range n).any fun k =>
    (w.attempts k).meanwhile.cancels || (w.attempts k).asleep.cancels ||
      (t.progress_reporter && (w.attempts k).report.meanwhile.cancels)

/-- The token as the check of an attempt finds it. -/
def token_before (n : Nat) : Option Bool := t.cancellation_token.map (· || t.asked_before w n)

/-- An attempt raised something other than a cancellation. -/
def Fails (n : Nat) : Prop := ∃ error, (w.attempts n).outcome = .error error ∧ error.fails

/-- Cancellation ends the loop after a number of attempts: it was raised by the last of them, or
    the token was set at a check. -/
def CancellationEnds (made : Nat) : Prop :=
  (∃ message, ∃ n < made, (w.attempts n).outcome = .error (.OperationCancelledError message)) ∨
    t.cancellation_token = some true ∨
    ((made : Int) ≤ t.retry_count ∧ (∀ n < made, Fails w n) ∧ t.token_before w made = some true)

/-- The caller and every completion callback get one result, with the status of the task. -/
def Told (done : Except (TaskError ε) (TaskResult α ε) × Task α ε κ) : Prop :=
  ∃ result : TaskResult α ε, done.1 = .ok result ∧ result.status = done.2.status ∧
    done.2.notified = done.2._completion_callbacks.map fun callback => (callback, result)

/-- An execution that makes a number of attempts ends as it should. -/
structure Ends (made : Nat) : Prop where
  bounded : (made : Int) ≤ t.retry_count + 1
  calls : (t.execute w).2.calls = (List.range made).map fun n => (w.attempts n).outcome
  failed_before : ∀ n, n + 1 < made → Fails w n
  completed : (t.execute w).2.status = .COMPLETED ↔ ∃ value, ∃ n < made, (w.attempts n).outcome = .ok value
  value : ∀ value, ∀ n < made, (w.attempts n).outcome = .ok value → (t.execute w).2.result = some value
  cancelled : (t.execute w).2.status = .CANCELLED ↔ t.CancellationEnds w made
  failed : (t.execute w).2.status = .FAILED ↔
    ¬ (∃ value, ∃ n < made, (w.attempts n).outcome = .ok value) ∧ ¬ t.CancellationEnds w made
  last_error : (t.execute w).2.status = .FAILED → ∃ n error, made = n + 1 ∧ (w.attempts n).outcome = .error error ∧
    (t.execute w).2.error = some error
  notified : Told (t.execute w)

/-- The task is executed as it should be. -/
def Executes : Prop := ∃ made, t.Ends w made

end Task

/-- Attempts, sleeps and callbacks raise nothing but `Exception`s. -/
structure Surroundings.OnlyExceptions (w : Surroundings α ε κ) : Prop where
  start : ∀ raised, some raised ∈ w.start.ends → ¬ raised.escapes
  outcome : ∀ n raised, (w.attempts n).outcome = .error raised → ¬ raised.escapes
  interrupted : ∀ n, (w.attempts n).interrupted = none
  report : ∀ n raised, some raised ∈ (w.attempts n).report.ends → ¬ raised.escapes
  closing : ∀ status raised, some raised ∈ (w.closing status).ends → ¬ raised.escapes
  reactions : ∀ reaction ∈ w.reactions, ∀ raised, reaction.ends = some raised → ¬ raised.escapes

/-! ## Calls of callbacks -/

theorem _notify_callbacks_quiet {ends : List (Option (TaskError ε))} (quiet : ∀ raised, some raised ∈ ends → ¬ raised.escapes) :
    _notify_callbacks ends = none := by
  induction ends with
  | nil => rfl
  | cons first rest ih =>
    have later : _notify_callbacks rest = none := ih fun raised member => quiet raised (List.mem_cons_of_mem _ member)
    cases first with
    | none => exact later
    | some raised =>
      cases raised with
      | BaseException error => exact absurd trivial (quiet _ List.mem_cons_self)
      | OperationCancelledError message => exact later
      | TypeError message => exact later
      | Exception error => exact later

/-- Every callback that the loop comes to, also one added on the way, is called once. -/
theorem notifying_quiet (result : TaskResult α ε) {reactions : List (Reaction ε κ)} (callbacks : List κ)
    (quiet : ∀ reaction ∈ reactions, ∀ raised, reaction.ends = some raised → ¬ raised.escapes) :
    (notifying result reactions callbacks).ends = none ∧
      (notifying result reactions callbacks).calls =
        (callbacks ++ (notifying result reactions callbacks).added).map fun callback => (callback, result) := by
  fun_induction notifying result reactions callbacks with
  | case1 callbacks => simp
  | case2 reaction reactions => simp
  | case3 reaction reactions callback rest error known =>
    exact absurd trivial (quiet reaction List.mem_cons_self _ known)
  | case4 reaction reactions callback rest more other ih =>
    have := ih fun reaction member => quiet reaction (List.mem_cons_of_mem _ member)
    simp [more, this]

namespace Task
variable {t start : Task α ε κ} {w : Surroundings α ε κ}

theorem reporting_quiet {r : Report ε κ} (quiet : ∀ raised, some raised ∈ r.ends → ¬ raised.escapes) :
    t.reporting r = (none, if t.progress_reporter then t.after r.meanwhile else t) := by
  unfold reporting
  split
  · rw [_notify_callbacks_quiet quiet]
  · rfl

/-- A result reaches the caller and every completion callback. -/
theorem concluded_quiet (quiet : w.OnlyExceptions) (result : TaskResult α ε) (fresh : t.notified = []) :
    ∃ t', t.concluded w result = (.ok result, t') ∧ t'.status = t.status ∧ t'.result = t.result ∧ t'.error = t.error ∧
      t'.calls = t.calls ∧ t'.notified = t'._completion_callbacks.map fun callback => (callback, result) := by
  unfold concluded
  rw [reporting_quiet (quiet.closing _)]
  simp only [_notify_completion_callbacks]
  obtain ⟨ends, calls⟩ := notifying_quiet result (if t.progress_reporter then t.after (w.closing t.status).meanwhile else t)._completion_callbacks
    quiet.reactions
  rw [ends]
  refine ⟨_, rfl, ?_⟩
  rw [calls]
  split <;> simp [after, fresh]

/-! ## The loop -/

/-- The head of the loop, with a number of attempts made. -/
structure Looping (start : Task α ε κ) (w : Surroundings α ε κ) (n : Nat) (t : Task α ε κ) : Prop where
  retry_count : t.retry_count = start.retry_count
  progress_reporter : t.progress_reporter = start.progress_reporter
  token : t.cancellation_token = start.token_before w n
  calls : t.calls = (List.range n).map fun k => (w.attempts k).outcome
  notified : t.notified = []
  failed : ∀ k < n, Fails w k

/-- How the calls of the function end, with the number of attempts made. -/
inductive Ending (start : Task α ε κ) (w : Surroundings α ε κ) : Except (TaskError ε) α → Nat → Prop
  | unstarted {message : String} (set : start.cancellation_token = some true) :
    Ending start w (.error (.OperationCancelledError message)) 0
  | stopped {message : String} {n : Nat} (left : (n : Int) ≤ start.retry_count) (failed : ∀ k < n, Fails w k)
      (set : start.token_before w n = some true) : Ending start w (.error (.OperationCancelledError message)) n
  | returned {value : α} {n : Nat} (left : (n : Int) ≤ start.retry_count) (failed : ∀ k < n, Fails w k)
      (unset : start.token_before w n ≠ some true) (known : (w.attempts n).outcome = .ok value) : Ending start w (.ok value) (n + 1)
  | cancelled {message : String} {n : Nat} (left : (n : Int) ≤ start.retry_count) (failed : ∀ k < n, Fails w k)
      (known : (w.attempts n).outcome = .error (.OperationCancelledError message)) :
    Ending start w (.error (.OperationCancelledError message)) (n + 1)
  | failed {error : TaskError ε} {n : Nat} (last : (n : Int) = start.retry_count) (failed : ∀ k < n + 1, Fails w k)
      (unset : start.token_before w n ≠ some true) (known : (w.attempts n).outcome = .error error) (fails : error.fails) :
    Ending start w (.error error) (n + 1)

theorem asked_before_succ (start : Task α ε κ) (n : Nat) : start.asked_before w (n + 1) =
    (start.asked_before w n || ((w.attempts n).meanwhile.cancels || (w.attempts n).asleep.cancels ||
      (start.progress_reporter && (w.attempts n).report.meanwhile.cancels))) := by
  simp [asked_before, List.range_succ, Bool.or_assoc]

/-- A token that was set before is set at every check. -/
theorem token_before_of_set (n : Nat) (set : start.cancellation_token = some true) : start.token_before w n = some true := by
  simp [token_before, set]

/-- A failed attempt with a retry left leads to the head of the loop again. -/
theorem Looping.pausing {n : Nat} (looping : Looping start w n t) (quiet : w.OnlyExceptions) (fails : Fails w n) :
    ∃ t', (t.called (w.attempts n)).pausing (w.attempts n) = (none, t') ∧ Looping start w (n + 1) t' := by
  unfold Task.pausing
  rw [quiet.interrupted n]
  simp only []
  rw [reporting_quiet (quiet.report n)]
  refine ⟨_, rfl, ?_⟩
  have failed : ∀ k < n + 1, Fails w k := by
    intro k below
    by_cases last : k = n
    · exact last ▸ fails
    · exact looping.failed k (by omega)
  have reporter : ((t.called (w.attempts n)).after (w.attempts n).asleep).progress_reporter = start.progress_reporter :=
    looping.progress_reporter
  rw [reporter]
  cases reports : start.progress_reporter with
  | false | true =>
    constructor
    · simp [called, after, looping.retry_count]
    · simp [called, after, looping.progress_reporter, reports]
    · simp [called, after, looping.token, token_before, asked_before_succ, reports, Function.comp_def, Bool.or_assoc]
    · simp [called, after, looping.calls, List.range_succ]
    · simp [called, after, looping.notified]
    · exact failed

/-- How the loop ends, and what the task then shows. -/
def Looped (start : Task α ε κ) (w : Surroundings α ε κ) (r : Except (TaskError ε) α × Task α ε κ) : Prop :=
  ∃ made, Ending start w r.1 made ∧ r.2.calls = ((List.range made).map fun k => (w.attempts k).outcome) ∧ r.2.notified = []

theorem Looping.looped {n : Nat} (looping : Looping start w n t) (attempt : Nat) {r : Except (TaskError ε) α}
    (ending : Ending start w r (n + 1)) : Looped start w (r, { t with attempts := attempt }.called (w.attempts n)) := by
  refine ⟨n + 1, ending, ?_, ?_⟩
  · simp [called, after, looping.calls, List.range_succ]
  · simp [called, after, looping.notified]

/-- A turn of the loop ends it, or its attempt fails. -/
theorem attempting_turn (quiet : w.OnlyExceptions) (left : Nat) {n : Nat} (last_error : Option (TaskError ε)) (looping : Looping start w n t)
    (within : (n : Int) ≤ start.retry_count) :
    Looped start w (attempting w (left + 1) n last_error t) ∨
      ∃ error, (w.attempts n).outcome = .error error ∧ error.fails ∧ start.token_before w n ≠ some true ∧
        attempting w (left + 1) n last_error t =
          if (n : Int) < t.retry_count then
            attempting w left (n + 1) (some error) (({ t with attempts := n + 1 }.called (w.attempts n)).pausing (w.attempts n)).2
          else attempting w left (n + 1) (some error) ({ t with attempts := n + 1 }.called (w.attempts n)) := by
  have here : Looping start w n { t with attempts := n + 1 } := { looping with }
  rw [attempting]
  by_cases set : start.token_before w n = some true
  · refine .inl ?_
    have : is_cancelled { t with attempts := n + 1 } = true := by simpa [is_cancelled, looping.token] using set
    simp only [this, ↓reduceIte]
    exact ⟨n, .stopped within looping.failed set, looping.calls, looping.notified⟩
  have : is_cancelled { t with attempts := n + 1 } = false := by simpa [is_cancelled, looping.token] using set
  simp only [this, Bool.false_eq_true, ↓reduceIte]
  have goes_on : ∀ error, (w.attempts n).outcome = .error error → error.fails →
      ∃ t', ({ t with attempts := n + 1 }.called (w.attempts n)).pausing (w.attempts n) = (none, t') := by
    intro error known fails
    obtain ⟨t', paused, -⟩ := here.pausing quiet ⟨error, known, fails⟩
    exact ⟨t', paused⟩
  cases known : (w.attempts n).outcome with
  | ok value => exact .inl (looping.looped _ (.returned within looping.failed set known))
  | error error =>
    cases error with
    | OperationCancelledError message => exact .inl (looping.looped _ (.cancelled within looping.failed known))
    | BaseException error => exact absurd trivial (quiet.outcome n _ known)
    | TypeError message =>
      obtain ⟨t', paused⟩ := goes_on _ known trivial
      refine .inr ⟨_, rfl, trivial, set, ?_⟩
      simp only [paused]
      rfl
    | Exception error =>
      obtain ⟨t', paused⟩ := goes_on _ known trivial
      refine .inr ⟨_, rfl, trivial, set, ?_⟩
      simp only [paused]
      rfl

theorem attempting_looped (quiet : w.OnlyExceptions) {left n : Nat} {last_error : Option (TaskError ε)} (looping : Looping start w n t)
    (rest : (n : Int) + left = start.retry_count) : Looped start w (attempting w (left + 1) n last_error t) := by
  have here : Looping start w n { t with attempts := n + 1 } := { looping with }
  have same : t.retry_count = start.retry_count := looping.retry_count
  induction left generalizing n t last_error with
  | zero =>
    obtain looped | ⟨error, known, fails, unset, turned⟩ := attempting_turn quiet 0 last_error looping (by omega)
    · exact looped
    rw [turned, if_neg (by omega)]
    have failed : ∀ k < n + 1, Fails w k := by
      intro k below
      by_cases last : k = n
      · exact last ▸ ⟨error, known, fails⟩
      · exact looping.failed k (by omega)
    exact looping.looped _ (.failed (by omega) failed unset known fails)
  | succ left ih =>
    obtain looped | ⟨error, known, fails, unset, turned⟩ :=
      attempting_turn quiet (left + 1) last_error looping (by omega)
    · exact looped
    rw [turned, if_pos (by omega)]
    obtain ⟨t', paused, next⟩ := here.pausing quiet ⟨error, known, fails⟩
    rw [paused]
    exact ih next (by omega) { next with } next.retry_count

theorem running_looped (quiet : w.OnlyExceptions) (counted : 0 ≤ start.retry_count) :
    Looped start w ({ start with status := .RUNNING, calls := [], notified := [] }.running w) := by
  unfold running
  by_cases set : start.cancellation_token = some true
  · simp only [is_cancelled, set, decide_true, ↓reduceIte]
    exact ⟨0, .unstarted set, rfl, rfl⟩
  simp only [is_cancelled, set, decide_false, Bool.false_eq_true, ↓reduceIte]
  rw [reporting_quiet quiet.start]
  have enough : (start.retry_count + 1).toNat = start.retry_count.toNat + 1 := by omega
  split
  · rename_i raised t known
    simp at known
  · rename_i t known
    obtain ⟨-, rfl⟩ := Prod.mk.inj known
    have looping : Looping start w 0 (if start.progress_reporter then
        { start with status := .RUNNING, calls := [], notified := [] }.after w.start.meanwhile
        else { start with status := .RUNNING, calls := [], notified := [] }) := by
      by_cases reports : start.progress_reporter
      · simp only [reports, ↓reduceIte]
        exact ⟨rfl, reports.symm, by simp [after, token_before, asked_before, reports], rfl, rfl, fun k below => absurd below (by omega)⟩
      · simp only [reports, Bool.false_eq_true, ↓reduceIte]
        exact ⟨rfl, by simp [reports], by simp [token_before, asked_before, reports], rfl, rfl, fun k below => absurd below (by omega)⟩
    unfold _execute_with_retry
    rw [looping.retry_count, enough]
    exact attempting_looped quiet looping (by omega)

/-! ## The end of an execution -/

theorem Fails.not_returned {n : Nat} (fails : Fails w n) (value : α) : (w.attempts n).outcome ≠ .ok value := by
  obtain ⟨error, known, -⟩ := fails
  simp [known]

theorem Fails.not_cancelled {n : Nat} (fails : Fails w n) (message : String) :
    (w.attempts n).outcome ≠ .error (.OperationCancelledError message) := by
  obtain ⟨error, known, other⟩ := fails
  intro same
  rw [known] at same
  cases same
  exact other

/-- Of attempts that all failed before the last, only the last can have ended otherwise. -/
theorem at_last {n : Nat} {P : Nat → Prop} (failed : ∀ k < n, Fails w k) (other : ∀ k, Fails w k → ¬ P k) : (∃ k < n + 1, P k) ↔ P n := by
  constructor
  · rintro ⟨k, below, holds⟩
    by_cases last : k = n
    · exact last ▸ holds
    · exact absurd holds (other k (failed k (by omega)))
  · intro holds
    exact ⟨n, by omega, holds⟩

namespace Ending
variable {r : Except (TaskError ε) α} {made : Nat} (ending : Ending start w r made)
include ending

theorem bounded (counted : 0 ≤ start.retry_count) : (made : Int) ≤ start.retry_count + 1 := by
  cases ending <;> omega

theorem failed_before (n : Nat) (before : n + 1 < made) : Fails w n := by
  cases ending with
  | unstarted set => omega
  | stopped left failed set => exact failed n (by omega)
  | returned left failed unset known => exact failed n (by omega)
  | cancelled left failed known => exact failed n (by omega)
  | failed last failed unset known fails => exact failed n (by omega)

/-- The loop returns what a call of the function returned. -/
theorem returned_iff (value : α) : (∃ n < made, (w.attempts n).outcome = .ok value) ↔ r = .ok value := by
  cases ending with
  | unstarted set => simp
  | stopped left failed set => simpa using fun n below => (failed n below).not_returned value
  | returned left failed unset known => rw [at_last failed fun n fails => fails.not_returned value, known]
  | cancelled left failed known => rw [at_last failed fun n fails => fails.not_returned value, known]
  | failed last failed unset known fails =>
    simpa using fun n below => (failed n (by omega)).not_returned value

/-- Cancellation ended the loop exactly if the loop raised it. -/
theorem cancellation_iff : start.CancellationEnds w made ↔ ∃ message, r = .error (.OperationCancelledError message) := by
  have raised_iff : ∀ n, (∀ k < n, Fails w k) → ((∃ message, ∃ k < n + 1, (w.attempts k).outcome = .error (.OperationCancelledError message)) ↔
      ∃ message, (w.attempts n).outcome = .error (.OperationCancelledError message)) := fun n failed =>
    exists_congr fun message => at_last failed fun k fails => fails.not_cancelled message
  unfold CancellationEnds
  cases ending with
  | unstarted set => simp [set]
  | stopped left failed set => exact iff_of_true (.inr (.inr ⟨left, failed, set⟩)) ⟨_, rfl⟩
  | returned left failed unset known =>
    refine iff_of_false ?_ (by simp)
    rintro (raised | set | ⟨more, fails, set⟩)
    · rw [raised_iff _ failed, known] at raised
      simp at raised
    · exact unset (token_before_of_set _ set)
    · exact (fails _ (Nat.lt_succ_self _)).not_returned _ known
  | cancelled left failed known =>
    refine iff_of_true (.inl ?_) ⟨_, rfl⟩
    exact (raised_iff _ failed).mpr ⟨_, known⟩
  | failed last failed unset known fails =>
    refine iff_of_false ?_ ?_
    · rintro (⟨message, n, below, raised⟩ | set | ⟨more, fails, set⟩)
      · exact (failed n below).not_cancelled message raised
      · exact unset (token_before_of_set _ set)
      · push_cast at more
        omega
    · rintro ⟨message, same⟩
      cases same
      exact fails

/-- A failure of the loop is that of its last call. -/
theorem last_failed {error : TaskError ε} (same : r = .error error) (fails : error.fails) :
    ∃ n, made = n + 1 ∧ (w.attempts n).outcome = .error error := by
  cases ending with
  | unstarted set => cases same; cases fails
  | stopped left failed set => cases same; cases fails
  | returned left failed unset known => cases same
  | cancelled left failed known => cases same; cases fails
  | failed last failed unset known fails => cases same; exact ⟨_, rfl, known⟩

theorem quiet {error : TaskError ε} (same : r = .error error) : ¬ error.escapes := by
  cases ending with
  | unstarted set => cases same; exact id
  | stopped left failed set => cases same; exact id
  | returned left failed unset known => cases same
  | cancelled left failed known => cases same; exact id
  | failed last failed unset known fails =>
    cases same
    cases error with
    | BaseException error => cases fails
    | _ => exact id

end Ending

/-- A task after a loop that ended in one of three ways. -/
structure Shows (t : Task α ε κ) (r : Except (TaskError ε) α) : Prop where
  completed : ∀ value, r = .ok value → t.status = .COMPLETED ∧ t.result = some value
  cancelled : ∀ message, r = .error (.OperationCancelledError message) → t.status = .CANCELLED
  failed : ∀ error, r = .error error → error.fails → t.status = .FAILED ∧ t.error = some error

theorem handled_fails {error : TaskError ε} (fails : error.fails) :
    t.handled w error = { t with status := .FAILED, error := some error }.concluded w { status := .FAILED, error := some error } := by
  cases error with
  | OperationCancelledError message => cases fails
  | BaseException error => cases fails
  | TypeError message => rfl
  | Exception error => rfl

theorem execute_quiet (quiet : w.OnlyExceptions) (counted : 0 ≤ start.retry_count) :
    ∃ made r, Ending start w r made ∧ (start.execute w).2.calls = ((List.range made).map fun n => (w.attempts n).outcome) ∧
      Shows (start.execute w).2 r ∧ Told (start.execute w) := by
  obtain ⟨made, ending, calls, fresh⟩ := running_looped quiet counted
  refine ⟨made, _, ending, ?_⟩
  unfold execute
  have escapes (error : TaskError ε)
      (same : (({ start with status := .RUNNING, calls := [], notified := [] } : Task α ε κ).running w).1 = .error error) : ¬ error.escapes :=
    ending.quiet same
  generalize { start with status := .RUNNING, calls := [], notified := [] }.running w = ran at *
  obtain ⟨r, t⟩ := ran
  cases r with
  | ok value =>
    obtain ⟨t', done, status, result, error, same, notified⟩ :=
      concluded_quiet (t := { t with result := some value, status := .COMPLETED }) quiet { status := .COMPLETED, result := some value } fresh
    simp only [done]
    refine ⟨same.trans calls, ⟨?_, ?_, ?_⟩, _, rfl, status.symm, notified⟩
    · intro other same
      cases same
      exact ⟨status, result⟩
    · exact fun message same => by cases same
    · exact fun error same => by cases same
  | error raised =>
    rcases raised.kinds with escaped | ⟨message, rfl⟩ | fails
    · exact absurd escaped (escapes _ rfl)
    · obtain ⟨t', done, status, result, error, same, notified⟩ :=
        concluded_quiet (t := { t with status := .CANCELLED, error := some (.OperationCancelledError message) }) quiet
          { status := .CANCELLED, error := some (.OperationCancelledError message) } fresh
      simp only [handled, done]
      refine ⟨same.trans calls, ⟨?_, ?_, ?_⟩, _, rfl, status.symm, notified⟩
      · exact fun value same => by cases same
      · exact fun message same => status
      · intro error same fails
        cases same
        cases fails
    · obtain ⟨t', done, status, result, error, same, notified⟩ :=
        concluded_quiet (t := { t with status := .FAILED, error := some raised }) quiet { status := .FAILED, error := some raised } fresh
      simp only [handled_fails fails, done]
      refine ⟨same.trans calls, ⟨?_, ?_, ?_⟩, _, rfl, status.symm, notified⟩
      · exact fun value same => by cases same
      · intro message same
        cases same
        cases fails
      · intro other same fails
        cases same
        exact ⟨status, error⟩

/-- As long as nothing but `Exception`s is raised, the attempts, the final status and the notified
    callbacks are as they should be. -/
theorem executes (start : Task α ε κ) (w : Surroundings α ε κ) (quiet : w.OnlyExceptions) (counted : 0 ≤ start.retry_count) :
    start.Executes w := by
  obtain ⟨made, r, ending, calls, shows, notified⟩ := execute_quiet quiet counted
  refine ⟨made, ?_⟩
  have returned := ending.returned_iff
  have cancelled := ending.cancellation_iff
  cases r with
  | ok value =>
    obtain ⟨status, result⟩ := shows.completed value rfl
    refine ⟨ending.bounded counted, calls, ending.failed_before, ?_, ?_, ?_, ?_, ?_, notified⟩
    · simp [status, returned]
    · intro other n below known
      rw [result, Except.ok.inj ((returned other).mp ⟨n, below, known⟩)]
    · simp [status, cancelled]
    · simp [status, returned]
    · simp [status]
  | error error =>
    have none_returned : ∀ value, ∀ n < made, (w.attempts n).outcome ≠ .ok value := fun value n below known =>
      by cases (returned value).mp ⟨n, below, known⟩
    have raised : ¬ ∃ value, ∃ n < made, (w.attempts n).outcome = .ok value := by
      rintro ⟨value, n, below, known⟩
      exact none_returned value n below known
    rcases error.kinds with escaped | ⟨message, rfl⟩ | fails
    · exact absurd escaped (ending.quiet rfl)
    · have status := shows.cancelled message rfl
      refine ⟨ending.bounded counted, calls, ending.failed_before, ?_, ?_, ?_, ?_, ?_, notified⟩
      · simp [status, raised]
      · exact fun value n below known => absurd known (none_returned value n below)
      · simp [status, cancelled]
      · simp [status, cancelled]
      · simp [status]
    · obtain ⟨status, last⟩ := shows.failed error rfl fails
      obtain ⟨n, same, known⟩ := ending.last_failed rfl fails
      have uncancelled : ¬ ∃ message, (Except.error error : Except (TaskError ε) α) = .error (.OperationCancelledError message) := by
        rintro ⟨message, same⟩
        cases same
        exact fails
      refine ⟨ending.bounded counted, calls, ending.failed_before, ?_, ?_, ?_, ?_, ?_, notified⟩
      · simp [status, raised]
      · exact fun value n below known => absurd known (none_returned value n below)
      · rw [status, cancelled]
        exact iff_of_false (by simp) uncancelled
      · rw [status, cancelled]
        exact iff_of_true rfl ⟨raised, uncancelled⟩
      · exact fun failed => ⟨n, _, same, known, last⟩

/-- The first attempt fails, the second one returns, and the token is set too late. -/
theorem second_attempt_returns : ∃ (start : Task Nat Nat Nat) (w : Surroundings Nat Nat Nat),
    start.retry_count = 3 ∧ start.cancellation_token = some false ∧ (start.execute w).2.attempts = 2 ∧ start.Executes w :=
  ⟨{ retry_count := 3, cancellation_token := some false, _completion_callbacks := [1, 2] },
    { attempts := fun n => { outcome := if n = 0 then .error (.Exception 7) else .ok n, meanwhile := { cancels := n = 1 } } },
    rfl, rfl, by decide, executes _ _
      ⟨by simp, by intro n raised; by_cases first : n = 0 <;> simp +contextual [first, TaskError.escapes, eq_comm], fun n => rfl, by simp, by simp, by simp⟩
      (by decide)⟩

/-- A completion callback that raises something that is not an `Exception`, with another one
    behind it: the second one is not called. -/
theorem second_callback_unnotified : ∃ (start : Task Nat Nat Nat) (w : Surroundings Nat Nat Nat),
    (∀ n, (w.attempts n).outcome = .ok n) ∧ start._completion_callbacks = [1, 2] ∧ ¬ start.Executes w := by
  refine ⟨{ _completion_callbacks := [1, 2] }, { attempts := fun n => { outcome := .ok n }, reactions := [{ ends := some (.BaseException 0) }] },
    fun n => rfl, rfl, ?_⟩
  rintro ⟨made, ends⟩
  obtain ⟨result, returned, -⟩ := ends.notified
  exact absurd returned (by simp [execute, running, is_cancelled, reporting, _execute_with_retry, attempting, called, after, concluded,
    _notify_completion_callbacks, notifying, handled])

end Task
end RevitPy.TaskExecution
