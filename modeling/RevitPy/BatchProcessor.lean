import Mathlib.Data.List.Basic

/-!
# Batches of jobs

One task a job looks at the cancel event, waits for a permit, and submits the job until
an attempt succeeds. `process` collects the results in the order in which the tasks
finish. Tasks, collector and whoever sets the event take turns in any order.
-/

namespace RevitPy

inductive JobStatus | PENDING | QUEUED | RUNNING | COMPLETED | FAILED | CANCELLED | TIMED_OUT
deriving DecidableEq

structure JobResult where
  job_id : String
  status : JobStatus
  output_files : List String := []
  logs : String := ""
  error : Option String := none

structure BatchConfig where
  max_parallel : Int := 5
  retry_count : Int := 2
  continue_on_error : Bool := true

/-- The results, each with the number of its job, and their counts. -/
structure BatchResult where
  total_jobs : Nat
  completed : Nat
  failed : Nat
  cancelled : Nat
  results : List (Nat × JobResult)

/-- How a call of the job manager ends. -/
inductive ManagerAnswer (α : Type)
  | returned (value : α)
  | JobExecutionError (message : String)
  | Exception (message : String)

/-- Where the task of a job stands. -/
inductive JobTask
  | created
  /-- In `acquire`, on a future that is not done. -/
  | waiting
  /-- In `acquire`, on a future that is done: the permit is the task's own. -/
  | woken
  | submitting (attempt : Nat)
  | executing (attempt : Nat) (job_id : String)
  | sleeping (attempt : Nat) (last_error : String)
  | finished (result : JobResult)

/-- A call of `process` with its tasks. -/
structure BatchRun (κ : Type) where
  config : BatchConfig
  jobs : List κ
  /-- The event, where one is passed, and whether it is set. -/
  cancel : Option Bool
  _value : Nat
  /-- The semaphore's queue, with the tasks that have been woken and not gone on yet. -/
  _waiters : List Nat := []
  tasks : List JobTask := jobs.map fun _ => .created
  /-- Results of finished tasks that `process` has not come to. -/
  done : List (Nat × JobResult) := []
  results : List (Nat × JobResult) := []
  /-- The jobs for which `submit` was called, in the order of the calls. -/
  submitted : List Nat := []
  outcome : Option (Except String BatchResult) := none

/-- What happens next. -/
inductive BatchStep
  /-- A task begins, or goes on with its permit. -/
  | run (job : Nat)
  | submit_ends (job : Nat) (answer : ManagerAnswer String)
  | wait_ends (job : Nat) (answer : ManagerAnswer JobResult)
  | sleep_ends (job : Nat)
  | set_cancel
  /-- `process` takes the next result; the progress callback may raise. -/
  | collect (progress : Except String Unit)

variable {κ : Type}

namespace BatchRun
variable (b : BatchRun κ)

/-! ## The semaphore -/

def locked : Bool := b._value == 0 || !b._waiters.isEmpty

def is_waiting (job : Nat) : Bool := match b.tasks[job]? with
  | some .waiting => true
  | _ => false

def _wake_up_next : BatchRun κ := match b._waiters.find? b.is_waiting with
  | some job => { b with _value := b._value - 1, tasks := b.tasks.set job .woken }
  | none => b

def release : BatchRun κ := { b with _value := b._value + 1 }._wake_up_next

/-! ## Tasks -/

/-- A task returns. -/
def finish (job : Nat) (result : JobResult) : BatchRun κ :=
  { b with tasks := b.tasks.set job (.finished result), done := b.done ++ [(job, result)] }

/-- `_run_with_retry` from the head of its loop. -/
def _run_with_retry (job attempt : Nat) (last_error : Option String) : BatchRun κ :=
  if (attempt : Int) < b.config.retry_count + 1 then
    { b with tasks := b.tasks.set job (.submitting attempt), submitted := b.submitted ++ [job] }
  else b.release.finish job { job_id := "", status := .FAILED, error := last_error }

/-- The handler of `JobExecutionError`. -/
def retry (job attempt : Nat) (message : String) : BatchRun κ :=
  if (attempt : Int) < b.config.retry_count then { b with tasks := b.tasks.set job (.sleeping attempt message) }
  else b._run_with_retry job (attempt + 1) (some message)

/-- The handler of any other exception. -/
def give_up (job : Nat) (message : String) : BatchRun κ :=
  b.release.finish job { job_id := "", status := .FAILED, error := some message }

def _run_one (job : Nat) : BatchRun κ := match b.tasks[job]? with
  | some .created =>
    if b.cancel = some true then b.finish job { job_id := "", status := .CANCELLED }
    else if b.locked then { b with _waiters := b._waiters ++ [job], tasks := b.tasks.set job .waiting }
    else { b with _value := b._value - 1 }._run_with_retry job 0 none
  | some .woken =>
    let b := { b with _waiters := b._waiters.erase job }
    let b := if 0 < b._value then b._wake_up_next else b
    b._run_with_retry job 0 none
  | _ => b

def submit_ends (job : Nat) (answer : ManagerAnswer String) : BatchRun κ := match b.tasks[job]?, answer with
  | some (.submitting attempt), .returned job_id => { b with tasks := b.tasks.set job (.executing attempt job_id) }
  | some (.submitting attempt), .JobExecutionError message => b.retry job attempt message
  | some (.submitting _), .Exception message => b.give_up job message
  | _, _ => b

def wait_ends (job : Nat) (answer : ManagerAnswer JobResult) : BatchRun κ := match b.tasks[job]?, answer with
  | some (.executing _ _), .returned result => b.release.finish job result
  | some (.executing attempt _), .JobExecutionError message => b.retry job attempt message
  | some (.executing _ _), .Exception message => b.give_up job message
  | _, _ => b

def sleep_ends (job : Nat) : BatchRun κ := match b.tasks[job]? with
  | some (.sleeping attempt last_error) => b._run_with_retry job (attempt + 1) (some last_error)
  | _ => b

/-! ## `process` -/

/-- A counter of `process`, which goes up with each result of its status. -/
def count (status : JobStatus) : Nat := b.results.countP fun entry => entry.2.status = status

def batch_result : BatchResult where
  total_jobs := b.jobs.length
  completed := b.count .COMPLETED
  failed := b.count .FAILED
  cancelled := b.count .CANCELLED
  results := b.results

def return_result : BatchRun κ := { b with outcome := some (.ok b.batch_result) }

/-- A failed result ends the collection. -/
def stops_at (result : JobResult) : Bool := !b.config.continue_on_error && result.status = .FAILED

def collect (progress : Except String Unit) : BatchRun κ := match b.outcome, b.done with
  | none, (job, result) :: rest =>
    let b := { b with done := rest, results := b.results ++ [(job, result)] }
    match progress with
    | .error e => { b with outcome := some (.error e) }
    | .ok _ =>
      if b.stops_at result then { b with cancel := b.cancel.map fun _ => true }.return_result
      else if b.results.length = b.jobs.length then b.return_result
      else b
  | _, _ => b

def step : BatchStep → BatchRun κ
  | .run job => b._run_one job
  | .submit_ends job answer => b.submit_ends job answer
  | .wait_ends job answer => b.wait_ends job answer
  | .sleep_ends job => b.sleep_ends job
  | .set_cancel => { b with cancel := b.cancel.map fun _ => true }
  | .collect progress => b.collect progress

end BatchRun

/-- `process` up to its first wait; the semaphore takes no negative value. -/
def BatchConfig.process (config : BatchConfig) (jobs : List κ) (cancel : Option Bool) : Except String (BatchRun κ) :=
  if config.max_parallel < 0 then .error "Semaphore initial value must be >= 0"
  else
    let b : BatchRun κ := { config, jobs, cancel, _value := config.max_parallel.toNat }
    .ok (if jobs = [] then b.return_result else b)

end RevitPy
