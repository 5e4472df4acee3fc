import RevitPy.BatchProcessor

/-!
# Turns of a task

What a step of a batch does to its tasks: one task goes on, and a task that waits for a permit may be
woken. All else that a batch holds follows from where the task that went on has come to.
-/

namespace RevitPy
variable {κ : Type}

/-- The calls of `submit` by a task that has come here. -/
def JobTask.submissions (job : Nat) : JobTask → List Nat
  | .submitting _ => [job]
  | _ => []

/-- The result of a task that has come here. -/
def JobTask.results (job : Nat) : JobTask → List (Nat × JobResult)
  | .finished result => [(job, result)]
  | _ => []

namespace BatchRun

/-- A task of `b` has come to a place of its own in `b'`. -/
structure Went (b : BatchRun κ) (job : Nat) (task : JobTask) (b' : BatchRun κ) : Prop where
  config : b'.config = b.config
  jobs : b'.jobs = b.jobs
  own : b'.tasks[job]? = some task
  others : ∀ other, other ≠ job → b'.tasks[other]? = b.tasks[other]? ∨ b.tasks[other]? = some .waiting ∧ b'.tasks[other]? = some .woken
  submitted : b'.submitted = b.submitted ++ task.submissions job
  results : b'.results = b.results
  done : b'.done = b.done ++ task.results job
  outcome : b'.outcome = b.outcome

/-- A permit is given back or handed on: a task may be woken. -/
structure Woke (b b' : BatchRun κ) : Prop where
  config : b'.config = b.config
  jobs : b'.jobs = b.jobs
  tasks : ∀ job : Nat, b'.tasks[job]? = b.tasks[job]? ∨ b.tasks[job]? = some .waiting ∧ b'.tasks[job]? = some .woken
  submitted : b'.submitted = b.submitted
  results : b'.results = b.results
  done : b'.done = b.done
  outcome : b'.outcome = b.outcome

variable {b b' : BatchRun κ} {job : Nat}

theorem Woke.refl (b : BatchRun κ) : b.Woke b := ⟨rfl, rfl, fun _ => .inl rfl, rfl, rfl, rfl, rfl⟩

theorem Woke.trans {b'' : BatchRun κ} (first : b.Woke b') (second : b'.Woke b'') : b.Woke b'' where
  config := second.config.trans first.config
  jobs := second.jobs.trans first.jobs
  tasks := fun job => by
    rcases first.tasks job with same | ⟨waited, woken⟩
    · rw [← same]
      exact second.tasks job
    · rcases second.tasks job with kept | ⟨waits, _⟩
      · exact .inr ⟨waited, kept.trans woken⟩
      · rw [woken] at waits
        cases waits
  submitted := second.submitted.trans first.submitted
  results := second.results.trans first.results
  done := second.done.trans first.done
  outcome := second.outcome.trans first.outcome

theorem woke_wake_up_next (b : BatchRun κ) : b.Woke b._wake_up_next := by
  unfold _wake_up_next
  split
  · next woken found =>
    have waits : b.tasks[woken]? = some .waiting := by
      have waiting := List.find?_some found
      unfold is_waiting at waiting
      split at waiting
      · assumption
      · cases waiting
    refine ⟨rfl, rfl, fun job => ?_, rfl, rfl, rfl, rfl⟩
    by_cases same : woken = job
    · subst same
      right
      refine ⟨waits, ?_⟩
      rw [List.getElem?_set_self', waits]
      rfl
    · exact .inl (List.getElem?_set_ne same)
  · exact .refl b

theorem woke_release (b : BatchRun κ) : b.Woke b.release := by
  obtain ⟨config, jobs, tasks, submitted, results, done, outcome⟩ := woke_wake_up_next { b with _value := b._value + 1 }
  exact ⟨config, jobs, tasks, submitted, results, done, outcome⟩

theorem Woke.found (woke : b.Woke b') {task : JobTask} (found : b.tasks[job]? = some task) : ∃ task', b'.tasks[job]? = some task' := by
  rcases woke.tasks job with same | ⟨_, woken⟩
  · exact ⟨task, same.trans found⟩
  · exact ⟨_, woken⟩

/-- A task moves after a permit has been handed on. -/
theorem Woke.went (woke : b.Woke b') {old : JobTask} (found : b.tasks[job]? = some old) (task : JobTask) {b'' : BatchRun κ}
    (config : b''.config = b'.config) (jobs : b''.jobs = b'.jobs) (tasks : b''.tasks = b'.tasks.set job task)
    (submitted : b''.submitted = b'.submitted ++ task.submissions job) (results : b''.results = b'.results)
    (done : b''.done = b'.done ++ task.results job) (outcome : b''.outcome = b'.outcome) : b.Went job task b'' where
  config := config.trans woke.config
  jobs := jobs.trans woke.jobs
  own := by
    obtain ⟨before, there⟩ := woke.found found
    rw [tasks, List.getElem?_set_self', there]
    rfl
  others := fun other different => by
    rw [tasks, List.getElem?_set_ne different.symm]
    exact woke.tasks other
  submitted := by rw [submitted, woke.submitted]
  results := results.trans woke.results
  done := by rw [done, woke.done]
  outcome := outcome.trans woke.outcome

section
variable {old : JobTask} (found : b.tasks[job]? = some old)
include found

theorem Woke.finish (woke : b.Woke b') (result : JobResult) : b.Went job (.finished result) (b'.finish job result) :=
  woke.went found (.finished result) rfl rfl rfl (List.append_nil _).symm rfl rfl rfl

theorem Woke.set (woke : b.Woke b') {task : JobTask} (submits : task.submissions job = []) (finishes : task.results job = []) :
    b.Went job task { b' with tasks := b'.tasks.set job task } :=
  woke.went found task rfl rfl rfl (by simp [submits]) rfl (by simp [finishes]) rfl

/-- The head of the loop: the task submits its job, or has no attempt left. -/
theorem Woke._run_with_retry (woke : b.Woke b') (attempt : Nat) (last_error : Option String) :
    ∃ task, b.Went job task (b'._run_with_retry job attempt last_error) ∧
      ((attempt : Int) < b.config.retry_count + 1 ∧ task = .submitting attempt ∨
        ¬(attempt : Int) < b.config.retry_count + 1 ∧ ∃ result, task = .finished result ∧ result.status = .FAILED) := by
  unfold BatchRun._run_with_retry
  rw [← woke.config]
  split
  · next left =>
    exact ⟨.submitting attempt, woke.went found _ rfl rfl rfl rfl rfl (List.append_nil _).symm rfl, .inl ⟨left, rfl⟩⟩
  · next none_left => exact ⟨_, (woke.trans (woke_release b')).finish found _, .inr ⟨none_left, _, rfl, rfl⟩⟩

/-- The handler of `JobExecutionError`: the task waits for its next attempt, if it has one. -/
theorem went_retry (attempt : Nat) (message : String) :
    ∃ task, b.Went job task (b.retry job attempt message) ∧
      ((attempt : Int) < b.config.retry_count ∧ task = .sleeping attempt message ∨ ∃ result, task = .finished result ∧ result.status = .FAILED) := by
  unfold BatchRun.retry
  split
  · next left => exact ⟨_, (Woke.refl b).set found rfl rfl, .inl ⟨left, rfl⟩⟩
  · next none_left =>
    obtain ⟨task, went, ⟨another, _⟩ | ⟨_, failed⟩⟩ := (Woke.refl b)._run_with_retry found (attempt + 1) (some message)
    · have another : (attempt : Int) < b.config.retry_count := by
        push_cast at another
        omega
      exact absurd another none_left
    · exact ⟨task, went, .inr failed⟩

theorem went_give_up (message : String) : ∃ result, b.Went job (.finished result) (b.give_up job message) ∧ result.status = .FAILED :=
  ⟨_, (woke_release b).finish found _, rfl⟩

end

/-! ## Steps -/

/-- A task that begins, or has got its permit, calls `submit` at most for the first time. -/
theorem run_turn (b : BatchRun κ) (job : Nat) : b._run_one job = b ∨
    ∃ old task, b.tasks[job]? = some old ∧ b.Went job task (b._run_one job) ∧ (old = .created ∨ old = .woken) ∧
      (task = .waiting ∨ task = .submitting 0 ∨ ∃ result, task = .finished result ∧ (result.status = .FAILED ∨ result.status = .CANCELLED)) := by
  have tried {old : JobTask} (found : b.tasks[job]? = some old) {b' : BatchRun κ} (woke : b.Woke b') :
      ∃ task, b.Went job task (b'._run_with_retry job 0 none) ∧
        (task = .waiting ∨ task = .submitting 0 ∨ ∃ result, task = .finished result ∧ (result.status = .FAILED ∨ result.status = .CANCELLED)) := by
    obtain ⟨task, went, ⟨_, submits⟩ | ⟨_, result, fails, failed⟩⟩ := woke._run_with_retry found 0 none
    · exact ⟨task, went, .inr (.inl submits)⟩
    · exact ⟨task, went, .inr (.inr ⟨result, fails, .inl failed⟩)⟩
  unfold BatchRun._run_one
  split
  · next found =>
    split
    · exact .inr ⟨_, _, found, (Woke.refl b).finish found _, .inl rfl, .inr (.inr ⟨_, rfl, .inr rfl⟩)⟩
    · split
      · refine .inr ⟨_, .waiting, found, ?_, .inl rfl, .inl rfl⟩
        exact (Woke.refl b).went found .waiting rfl rfl rfl (List.append_nil _).symm rfl (List.append_nil _).symm rfl
      · have taken : b.Woke { b with _value := b._value - 1 } := ⟨rfl, rfl, fun _ => .inl rfl, rfl, rfl, rfl, rfl⟩
        obtain ⟨task, went, place⟩ := tried found taken
        exact .inr ⟨_, task, found, went, .inl rfl, place⟩
  · next found =>
    have left : b.Woke { b with _waiters := b._waiters.erase job } := ⟨rfl, rfl, fun _ => .inl rfl, rfl, rfl, rfl, rfl⟩
    simp only
    split
    · obtain ⟨task, went, place⟩ := tried found (left.trans (woke_wake_up_next _))
      exact .inr ⟨_, task, found, went, .inr rfl, place⟩
    · obtain ⟨task, went, place⟩ := tried found left
      exact .inr ⟨_, task, found, went, .inr rfl, place⟩
  · exact .inl rfl

/-- A task whose call of `submit` ends does not call it again. -/
theorem submit_turn {attempt : Nat} (found : b.tasks[job]? = some (.submitting attempt)) (answer : ManagerAnswer String) :
    ∃ task, b.Went job task (b.submit_ends job answer) ∧
      ((∃ job_id, answer = .returned job_id ∧ task = .executing attempt job_id) ∨
        (∀ job_id, answer ≠ .returned job_id) ∧
          ((∃ message, (attempt : Int) < b.config.retry_count ∧ task = .sleeping attempt message) ∨
            ∃ result, task = .finished result ∧ result.status = .FAILED)) := by
  unfold BatchRun.submit_ends
  rw [found]
  cases answer with
  | returned job_id => exact ⟨_, (Woke.refl b).set found rfl rfl, .inl ⟨job_id, rfl, rfl⟩⟩
  | JobExecutionError message =>
    obtain ⟨task, went, ⟨left, sleeps⟩ | failed⟩ := went_retry found attempt message
    · exact ⟨task, went, .inr ⟨(fun _ same => by cases same), .inl ⟨message, left, sleeps⟩⟩⟩
    · exact ⟨task, went, .inr ⟨(fun _ same => by cases same), .inr failed⟩⟩
  | Exception message =>
    obtain ⟨result, went, failed⟩ := went_give_up found message
    exact ⟨_, went, .inr ⟨(fun _ same => by cases same), .inr ⟨result, rfl, failed⟩⟩⟩

theorem wait_turn {attempt : Nat} {job_id : String} (found : b.tasks[job]? = some (.executing attempt job_id)) (answer : ManagerAnswer JobResult) :
    ∃ task, b.Went job task (b.wait_ends job answer) ∧
      ((∃ result, answer = .returned result ∧ task = .finished result) ∨
        (∃ message, answer = .JobExecutionError message ∧ (attempt : Int) < b.config.retry_count ∧ task = .sleeping attempt message) ∨
        (∀ result, answer ≠ .returned result) ∧ ∃ result, task = .finished result ∧ result.status = .FAILED) := by
  unfold BatchRun.wait_ends
  rw [found]
  cases answer with
  | returned result => exact ⟨_, (woke_release b).finish found result, .inl ⟨result, rfl, rfl⟩⟩
  | JobExecutionError message =>
    obtain ⟨task, went, sleeps | failed⟩ := went_retry found attempt message
    · exact ⟨task, went, .inr (.inl ⟨message, rfl, sleeps⟩)⟩
    · exact ⟨task, went, .inr (.inr ⟨(fun _ same => by cases same), failed⟩)⟩
  | Exception message =>
    obtain ⟨result, went, failed⟩ := went_give_up found message
    exact ⟨_, went, .inr (.inr ⟨(fun _ same => by cases same), result, rfl, failed⟩)⟩

/-- After its sleep a task submits its job again. -/
theorem sleep_turn (b : BatchRun κ) (job : Nat) :
    (b.sleep_ends job = b ∧ ∀ attempt last_error, b.tasks[job]? ≠ some (.sleeping attempt last_error)) ∨
    ∃ attempt last_error task, b.tasks[job]? = some (.sleeping attempt last_error) ∧ b.Went job task (b.sleep_ends job) ∧
      ((attempt : Int) < b.config.retry_count ∧ task = .submitting (attempt + 1) ∨
        ¬(attempt : Int) < b.config.retry_count ∧ ∃ result, task = .finished result ∧ result.status = .FAILED) := by
  unfold BatchRun.sleep_ends
  split
  · next attempt last_error found =>
    have further : ((attempt + 1 : Nat) : Int) < b.config.retry_count + 1 ↔ (attempt : Int) < b.config.retry_count := by omega
    obtain ⟨task, went, place⟩ := (Woke.refl b)._run_with_retry found (attempt + 1) (some last_error)
    rw [further] at place
    exact .inr ⟨attempt, last_error, task, found, went, place⟩
  · next awake => exact .inl ⟨rfl, awake⟩

/-- In a step of a task, the task goes on, or nothing happens. -/
theorem task_turn (b : BatchRun κ) {a : BatchStep} (unset : a ≠ .set_cancel) (uncollected : ∀ progress, a ≠ .collect progress) :
    b.step a = b ∨ ∃ job task, b.Went job task (b.step a) := by
  cases a with
  | run job =>
    rcases b.run_turn job with same | ⟨_, task, _, went, _⟩
    · exact .inl same
    · exact .inr ⟨job, task, went⟩
  | submit_ends job answer =>
    by_cases submits : ∃ attempt, b.tasks[job]? = some (.submitting attempt)
    · obtain ⟨attempt, found⟩ := submits
      obtain ⟨task, went, _⟩ := submit_turn found answer
      exact .inr ⟨job, task, went⟩
    · left
      simp only [step, submit_ends]
      split
      all_goals first
        | exact absurd ⟨_, ‹b.tasks[job]? = some (.submitting _)›⟩ submits
        | rfl
  | wait_ends job answer =>
    by_cases waits : ∃ attempt job_id, b.tasks[job]? = some (.executing attempt job_id)
    · obtain ⟨attempt, job_id, found⟩ := waits
      obtain ⟨task, went, _⟩ := wait_turn found answer
      exact .inr ⟨job, task, went⟩
    · left
      simp only [step, wait_ends]
      split
      all_goals first
        | exact absurd ⟨_, _, ‹b.tasks[job]? = some (.executing _ _)›⟩ waits
        | rfl
  | sleep_ends job =>
    rcases b.sleep_turn job with ⟨same, _⟩ | ⟨_, _, task, _, went, _⟩
    · exact .inl same
    · exact .inr ⟨job, task, went⟩
  | set_cancel => exact absurd rfl unset
  | collect progress => exact absurd rfl (uncollected progress)

/-- Collection leaves the tasks alone. -/
theorem collect_tasks (b : BatchRun κ) (progress : Except String Unit) :
    (b.collect progress).tasks = b.tasks ∧ (b.collect progress).jobs = b.jobs ∧ (b.collect progress).config = b.config ∧
      (b.collect progress).submitted = b.submitted := by
  unfold BatchRun.collect
  split
  · simp only
    split
    · exact ⟨rfl, rfl, rfl, rfl⟩
    · split
      · exact ⟨rfl, rfl, rfl, rfl⟩
      · split
        · exact ⟨rfl, rfl, rfl, rfl⟩
        · exact ⟨rfl, rfl, rfl, rfl⟩
  · exact ⟨rfl, rfl, rfl, rfl⟩

end BatchRun
end RevitPy
