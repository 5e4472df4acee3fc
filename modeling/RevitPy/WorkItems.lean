import Mathlib.Logic.Function.Basic
import RevitPy.BatchTurns
import RevitPy.Runs

/-!
# Work items

Between a batch and the service that runs its jobs stands the job manager, which submits work items and
polls them. The service changes a work item on its own until it has ended, and whoever knows its id can
cancel it. All of them take turns in any order.
-/

namespace RevitPy

/-- Configuration for a Design Automation work item: its activity, and its timeout as it is shown. -/
structure JobConfig where
  activity_id : String
  timeout : String := "600.0"

/-- A work item on the service, with what a poll of it answers, and whether it was cancelled. -/
structure WorkItem where
  status : Option String := none
  outputFiles : List String := []
  reportUrl : String := ""
  error : Option String := none
  cancelled : Bool := false

/-! ## The job manager -/

def JobStatus.value : JobStatus → String
  | .PENDING => "pending"
  | .QUEUED => "queued"
  | .RUNNING => "running"
  | .COMPLETED => "completed"
  | .FAILED => "failed"
  | .CANCELLED => "cancelled"
  | .TIMED_OUT => "timed_out"

def _STATUS_MAP : List (String × JobStatus) :=
  [.PENDING, .QUEUED, .RUNNING, .COMPLETED, .FAILED, .CANCELLED, .TIMED_OUT].map fun s => (s.value, s)

/-- Map a raw status string to a status. No letter outside of ASCII has a lower case that one of the
    texts contains. -/
def _parse_status (raw : String) : JobStatus := (_STATUS_MAP.lookup (String.ofList (raw.toList.map Char.toLower))).getD .PENDING

/-- The status of a work item, as a poll reads it. -/
def WorkItem.parsed (item : WorkItem) : JobStatus := _parse_status (item.status.getD "pending")

def JobStatus.terminal : JobStatus → Bool
  | .COMPLETED | .FAILED | .CANCELLED | .TIMED_OUT => true
  | .PENDING | .QUEUED | .RUNNING => false

/-- Submit a new work item: the request raises, or its response has an id or none. -/
def submit (config : JobConfig) : Except String (Option String) → ManagerAnswer String
  | .error _ => .Exception s!"Failed to submit job for activity '{config.activity_id}'"
  | .ok job_id =>
    if job_id.getD "" = "" then .Exception "APS returned a response without a job ID"
    else .returned (job_id.getD "")

/-- `result.error or 'unknown error'` -/
def shown (error : Option String) : String := if error.getD "" = "" then "unknown error" else error.getD ""

/-- A turn of the loop of `wait_for_completion`, which ends it or not: the timeout has passed, or the
    request of the work item raises, or it answers with what the work item is. -/
def wait_for_completion (job_id : String) (config : JobConfig) (expired : Bool) (failure : Option String) (item : WorkItem) :
    Option (ManagerAnswer JobResult) :=
  if expired then some (.JobExecutionError s!"Job {job_id} timed out after {config.timeout}s")
  else match failure with
    | some e => some (.Exception e)
    | none =>
      if item.parsed.terminal then
        if item.parsed = .FAILED then some (.JobExecutionError s!"Job {job_id} failed: {shown item.error}")
        else some (.returned
          { job_id, status := item.parsed, output_files := item.outputFiles, logs := item.reportUrl, error := item.error })
      else none

/-! ## A batch and its work items -/

structure CloudBatch where
  batch : BatchRun JobConfig
  service : String → WorkItem
  /-- The ids that `submit` returned, each with its job. -/
  submissions : List (Nat × String) := []
  /-- The work items that a job's task waited for until the timeout had passed. -/
  abandoned : List (Nat × String) := []

/-- What happens next. -/
inductive CloudStep
  | run (job : Nat)
  | submit_ends (job : Nat) (response : Except String (Option String))
  /-- A task that waits for its work item goes through its loop once. -/
  | poll (job : Nat) (expired : Bool) (failure : Option String)
  | sleep_ends (job : Nat)
  | set_cancel
  | collect (progress : Except String Unit)
  /-- The service changes a work item. -/
  | change (job_id : String) (item : WorkItem)
  /-- A call of `JobManager.cancel`, by other code, and whether the service takes it. -/
  | cancel (job_id : String) (taken : Bool)

namespace CloudBatch
variable (s : CloudBatch)

def submit_ends (job : Nat) (response : Except String (Option String)) : CloudBatch :=
  match s.batch.tasks[job]?, s.batch.jobs[job]? with
  | some (.submitting _), some config =>
    { s with
      batch := s.batch.step (.submit_ends job (submit config response))
      submissions := match submit config response with
        | .returned job_id => s.submissions ++ [(job, job_id)]
        | _ => s.submissions }
  | _, _ => s

def poll (job : Nat) (expired : Bool) (failure : Option String) : CloudBatch :=
  match s.batch.tasks[job]?, s.batch.jobs[job]? with
  | some (.executing _ job_id), some config =>
    match wait_for_completion job_id config expired failure (s.service job_id) with
    | some answer =>
      { s with
        batch := s.batch.step (.wait_ends job answer)
        abandoned := if expired then s.abandoned ++ [(job, job_id)] else s.abandoned }
    | none => s
  | _, _ => s

/-- A work item that has ended stays as it is. -/
def change (job_id : String) (item : WorkItem) : CloudBatch :=
  if (s.service job_id).parsed.terminal then s
  else { s with service := Function.update s.service job_id { item with cancelled := (s.service job_id).cancelled } }

def cancel (job_id : String) (taken : Bool) : CloudBatch :=
  if taken then { s with service := Function.update s.service job_id { s.service job_id with cancelled := true } } else s

def step : CloudStep → CloudBatch
  | .run job => { s with batch := s.batch.step (.run job) }
  | .submit_ends job response => s.submit_ends job response
  | .poll job expired failure => s.poll job expired failure
  | .sleep_ends job => { s with batch := s.batch.step (.sleep_ends job) }
  | .set_cancel => { s with batch := s.batch.step .set_cancel }
  | .collect progress => { s with batch := s.batch.step (.collect progress) }
  | .change job_id item => s.change job_id item
  | .cancel job_id taken => s.cancel job_id taken

end CloudBatch

/-- What a wait answers: the status of the work item decides, once it has ended. -/
theorem wait_for_completion_returned {job_id : String} {config : JobConfig} {expired : Bool} {failure : Option String} {item : WorkItem}
    {result : JobResult} (answered : wait_for_completion job_id config expired failure item = some (.returned result)) :
    expired = false ∧ failure = none ∧ result.status = item.parsed ∧ item.parsed.terminal = true ∧ item.parsed ≠ .FAILED := by
  unfold wait_for_completion at answered
  split at answered
  · cases answered
  · next in_time =>
    split at answered
    · cases answered
    · split at answered
      · next ended =>
        split at answered
        · cases answered
        · next unfailed =>
          cases answered
          exact ⟨by simpa using in_time, rfl, rfl, ended, unfailed⟩
      · cases answered

/-- A work item that timed out on the service is returned like one that completed. -/
theorem wait_for_completion_timed_out {item : WorkItem} (timed : item.parsed = .TIMED_OUT) (job_id : String) (config : JobConfig) :
    ∃ result, wait_for_completion job_id config false none item = some (.returned result) := by
  simp [wait_for_completion, timed, JobStatus.terminal]

/-- A wait that raises has run out of time, or found that its work item failed. -/
theorem wait_for_completion_raised {job_id : String} {config : JobConfig} {expired : Bool} {failure : Option String} {item : WorkItem}
    {message : String} (answered : wait_for_completion job_id config expired failure item = some (.JobExecutionError message)) :
    expired = true ∨ item.parsed = .FAILED := by
  unfold wait_for_completion at answered
  split at answered
  · next out_of_time => exact .inl out_of_time
  · split at answered
    · cases answered
    · split at answered
      · split at answered
        · next failed => exact .inr failed
        · cases answered
      · cases answered

/-! ## What a step does -/

namespace CloudBatch
variable {s : CloudBatch}

@[simp] theorem change_batch (s : CloudBatch) (job_id : String) (item : WorkItem) : (s.change job_id item).batch = s.batch := by
  unfold CloudBatch.change
  split <;> rfl

@[simp] theorem cancel_batch (s : CloudBatch) (job_id : String) (taken : Bool) : (s.cancel job_id taken).batch = s.batch := by
  cases taken <;> rfl

theorem submit_cases (s : CloudBatch) (job : Nat) (response : Except String (Option String)) : s.submit_ends job response = s ∨
    ∃ attempt config, s.batch.tasks[job]? = some (.submitting attempt) ∧ s.batch.jobs[job]? = some config ∧
      (s.submit_ends job response).batch = s.batch.submit_ends job (submit config response) ∧
      (s.submit_ends job response).service = s.service ∧ (s.submit_ends job response).abandoned = s.abandoned ∧
      ((∃ job_id, submit config response = .returned job_id ∧ (s.submit_ends job response).submissions = s.submissions ++ [(job, job_id)]) ∨
        (∀ job_id, submit config response ≠ .returned job_id) ∧ (s.submit_ends job response).submissions = s.submissions) := by
  unfold CloudBatch.submit_ends
  split
  · next attempt config found given =>
    refine .inr ⟨attempt, config, found, given, rfl, rfl, rfl, ?_⟩
    cases submit config response with
    | returned job_id => exact .inl ⟨job_id, rfl, rfl⟩
    | JobExecutionError message => exact .inr ⟨(fun _ same => by cases same), rfl⟩
    | Exception message => exact .inr ⟨(fun _ same => by cases same), rfl⟩
  · exact .inl rfl

theorem poll_cases (s : CloudBatch) (job : Nat) (expired : Bool) (failure : Option String) :
    (s.poll job expired failure = s ∧ ∀ attempt job_id config, s.batch.tasks[job]? = some (.executing attempt job_id) →
      s.batch.jobs[job]? = some config → wait_for_completion job_id config expired failure (s.service job_id) = none) ∨
    ∃ attempt job_id config answer, s.batch.tasks[job]? = some (.executing attempt job_id) ∧ s.batch.jobs[job]? = some config ∧
      wait_for_completion job_id config expired failure (s.service job_id) = some answer ∧
      s.poll job expired failure =
        { s with
          batch := s.batch.wait_ends job answer
          abandoned := if expired then s.abandoned ++ [(job, job_id)] else s.abandoned } := by
  unfold CloudBatch.poll
  split
  · next attempt job_id config found given =>
    split
    · next answer answered => exact .inr ⟨attempt, job_id, config, answer, found, given, answered, rfl⟩
    · next waits =>
      refine .inl ⟨rfl, fun attempt' job_id' config' found' given' => ?_⟩
      cases found.symm.trans found'
      cases given.symm.trans given'
      exact waits
  · next other =>
    refine .inl ⟨rfl, fun attempt job_id config found given => ?_⟩
    exact (other attempt job_id config found given).elim

/-- A batch with its work items takes the steps of a batch. -/
theorem batch_step (s : CloudBatch) (a : CloudStep) : (s.step a).batch = s.batch ∨ ∃ step, (s.step a).batch = s.batch.step step := by
  cases a with
  | run job => exact .inr ⟨.run job, rfl⟩
  | submit_ends job response =>
    rcases s.submit_cases job response with same | ⟨_, config, _, _, batch, _⟩
    · exact .inl (congrArg CloudBatch.batch same)
    · exact .inr ⟨.submit_ends job (submit config response), batch⟩
  | poll job expired failure =>
    rcases s.poll_cases job expired failure with ⟨same, _⟩ | ⟨_, _, _, answer, _, _, _, polled⟩
    · exact .inl (congrArg CloudBatch.batch same)
    · exact .inr ⟨.wait_ends job answer, congrArg CloudBatch.batch polled⟩
  | sleep_ends job => exact .inr ⟨.sleep_ends job, rfl⟩
  | set_cancel => exact .inr ⟨.set_cancel, rfl⟩
  | collect progress => exact .inr ⟨.collect progress, rfl⟩
  | change job_id item => exact .inl (s.change_batch job_id item)
  | cancel job_id taken => exact .inl (s.cancel_batch job_id taken)

end CloudBatch
end RevitPy
