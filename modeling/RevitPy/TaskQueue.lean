import RevitPy.Dict

/-!
# A queue of tasks

Workers take tasks from a pending queue and execute them, while callers enqueue, wait and
stop the queue. A step of a worker lasts at most from one of its awaits to the next; `stop`
asks for the cancellation of the workers, which each of them meets at its next await.
-/

namespace RevitPy

/-- Task status enumeration. -/
inductive TaskStatus
  | PENDING
  | RUNNING
  | COMPLETED
  | FAILED
  | CANCELLED
  deriving DecidableEq

/-- Task priority enumeration. -/
inductive TaskPriority
  | LOW
  | NORMAL
  | HIGH
  | CRITICAL
  deriving DecidableEq

def TaskPriority.value : TaskPriority → Nat
  | .LOW => 0
  | .NORMAL => 1
  | .HIGH => 2
  | .CRITICAL => 3

/-- A task, as far as the queue and the execution look at it. -/
structure Task (ι κ : Type) where
  id : ι
  priority : TaskPriority := .NORMAL
  created_at : Nat
  retry_count : Int := 0
  cancellation_token : Option κ := none
  progress_reporter : Bool := false
  deriving DecidableEq

/-- Result of task execution. -/
structure TaskResult (ι : Type) where
  task_id : ι
  status : TaskStatus
  deriving DecidableEq

/-- What is raised: an `OperationCancelledError`, another `Exception`, or something that is
    not an `Exception`, such as a `CancelledError`. -/
inductive Raised
  | OperationCancelledError
  | Exception
  | BaseException
  deriving DecidableEq

inductive CallEnd
  | returned
  | raised (e : Raised)
  deriving DecidableEq

/-- How the calls end that a step of a worker makes: of the function of the task, of the
    methods of its progress reporter, and of the completion callbacks. -/
structure TaskCalls where
  start : CallEnd := .returned
  call : CallEnd := .returned
  report_progress : CallEnd := .returned
  complete : CallEnd := .returned
  cancel : CallEnd := .returned
  fail : CallEnd := .returned
  callbacks : List CallEnd := []

/-- Where an execution is between two awaits, or how its function has ended. -/
inductive Stage
  | calling (attempt : Nat)
  | sleeping (attempt : Nat)
  | ended (how : CallEnd)

/-- How `execute` ends. -/
inductive Execution (ι : Type)
  | result (r : TaskResult ι)
  | raised (e : Raised)

variable {ι κ : Type}

/-! ## The execution of a task -/

namespace Task

/-- Compare tasks by priority for queue ordering. -/
def lt (t u : Task ι κ) : Bool :=
  if t.priority ≠ u.priority then u.priority.value < t.priority.value
  else t.created_at < u.created_at

/-- Notify completion callbacks, whose `Exception`s are logged. -/
def _notify_completion_callbacks : List CallEnd → CallEnd
  | [] => .returned
  | .raised .BaseException :: _ => .raised .BaseException
  | _ :: rest => _notify_completion_callbacks rest

/-- A call of the progress reporter, if there is one. -/
def reporting (t : Task ι κ) (call : CallEnd) : CallEnd := if t.progress_reporter then call else .returned

/-- The callbacks are notified of a result, which is returned. -/
def notified (t : Task ι κ) (status : TaskStatus) (calls : TaskCalls) : Execution ι :=
  match _notify_completion_callbacks calls.callbacks with
  | .returned => .result ⟨t.id, status⟩
  | .raised e => .raised e

/-- The handlers of `execute`. -/
def handled (t : Task ι κ) (calls : TaskCalls) : Raised → Execution ι
  | .OperationCancelledError =>
    match t.reporting calls.cancel with
    | .returned => t.notified .CANCELLED calls
    | .raised e => .raised e
  | .Exception =>
    match t.reporting calls.fail with
    | .returned => t.notified .FAILED calls
    | .raised e => .raised e
  | .BaseException => .raised .BaseException

/-- Execute the task: what follows the attempts. -/
def execute (t : Task ι κ) (calls : TaskCalls) : CallEnd → Execution ι
  | .returned =>
    match t.reporting calls.complete with
    | .returned => t.notified .COMPLETED calls
    | .raised e => t.handled calls e
  | .raised e => t.handled calls e

/-- The head of the loop over the attempts; behind it the last error is raised. -/
def attempt (t : Task ι κ) (is_cancelled : Bool) (n : Nat) : Stage :=
  if (n : Int) < t.retry_count + 1 then
    if is_cancelled then .ended (.raised .OperationCancelledError) else .calling n
  else .ended (.raised .Exception)

/-- Execute function with retry logic: what follows the call of an attempt. -/
def _execute_with_retry (t : Task ι κ) (is_cancelled : Bool) (n : Nat) : CallEnd → Stage
  | .returned => .ended .returned
  | .raised .Exception => if (n : Int) < t.retry_count then .sleeping n else t.attempt is_cancelled (n + 1)
  | .raised e => .ended (.raised e)

/-- What follows the sleep after an attempt. -/
def slept (t : Task ι κ) (is_cancelled : Bool) (n : Nat) (calls : TaskCalls) : Stage :=
  match t.reporting calls.report_progress with
  | .returned => t.attempt is_cancelled (n + 1)
  | .raised e => .ended (.raised e)

/-- The first steps of `execute`, up to the first call. -/
def entered (t : Task ι κ) (is_cancelled : Bool) (calls : TaskCalls) : Stage :=
  if is_cancelled then .ended (.raised .OperationCancelledError)
  else match t.reporting calls.start with
    | .returned => t.attempt is_cancelled 0
    | .raised e => .ended (.raised e)

end Task

/-! ## The queue -/

/-- Where a worker is: before its first step, at the head of its loop, at the await of the
    pending queue, with a task, or at its end. -/
inductive Phase (ι κ : Type)
  | created
  | looping
  | getting
  | entered (task : Task ι κ)
  | calling (task : Task ι κ) (attempt : Nat)
  | sleeping (task : Task ι κ) (attempt : Nat)
  | finished

/-- The task that a worker executes. -/
def Phase.task : Phase ι κ → Option (Task ι κ)
  | .entered task | .calling task _ | .sleeping task _ => some task
  | _ => none

structure Worker (ι κ : Type) where
  phase : Phase ι κ := .created
  cancelling : Bool := false

/-- The cancellation of a worker is asked for. -/
def Worker.cancel (worker : Worker ι κ) : Worker ι κ := { worker with cancelling := true }

inductive QueueError (ι : Type)
  | RuntimeError (message : String)
  | TimeoutError (task_id : ι)
  | KeyError (task_id : ι)

/-- Async task queue with priority support and concurrent execution. The order of the
    pending list means nothing: a queue gives any of its least items. -/
structure TaskQueue (ι κ : Type) [DecidableEq ι] where
  max_concurrent_tasks : Nat
  max_queue_size : Option Int
  _pending_queue : List (Task ι κ) := []
  _running_tasks : Dict ι (Task ι κ) := ∅
  _completed_tasks : Dict ι (TaskResult ι) := ∅
  _is_running : Bool := false
  _worker_tasks : List Nat := []
  _shutdown_event : Bool := false
  total_queued : Nat := 0
  total_completed : Nat := 0
  total_failed : Nat := 0
  total_cancelled : Nat := 0
  /-- All workers that were created. -/
  workers : List (Worker ι κ) := []
  /-- The calls of `stop` that wait for the workers. -/
  stopping : Nat := 0
  cancelled_tokens : List κ := []
  /-- The tasks that were enqueued, up to `clear_completed`. -/
  enqueued : List ι := []

variable [DecidableEq ι] [DecidableEq κ]

namespace TaskQueue

/-- The limit that `enqueue` checks. -/
def at_limit (q : TaskQueue ι κ) : Bool := match q.max_queue_size with
  | none => false
  | some size => size ≠ 0 ∧ size ≤ q._pending_queue.length

/-- The pending queue is full, where it is bounded. -/
def full (q : TaskQueue ι κ) : Bool := match q.max_queue_size with
  | none => false
  | some size => 0 < size ∧ size ≤ q._pending_queue.length

/-- A task is put into the pending queue and counted. -/
def put (q : TaskQueue ι κ) (task : Task ι κ) : TaskQueue ι κ :=
  { q with
    _pending_queue := q._pending_queue ++ [task]
    total_queued := q.total_queued + 1
    enqueued := q.enqueued ++ [task.id] }

/-- Enqueue a task for execution. -/
def enqueue (q : TaskQueue ι κ) (task : Task ι κ) : Except (QueueError ι) ι × TaskQueue ι κ :=
  if q._is_running = false then (.error (.RuntimeError "Task queue is not running"), q)
  else if q.at_limit then (.error (.RuntimeError "Task queue is full"), q)
  else (.ok task.id, q.put task)

/-- Synchronous version of enqueue. -/
def enqueue_sync (q : TaskQueue ι κ) (task : Task ι κ) : Except (QueueError ι) ι × TaskQueue ι κ :=
  if q._is_running = false then (.error (.RuntimeError "Task queue is not running"), q)
  else if q.full then (.error (.RuntimeError "Task queue is full"), q)
  else (.ok task.id, q.put task)

/-- A first least item of a queue, and the rest. -/
def get_nowait : List (Task ι κ) → Option (Task ι κ × List (Task ι κ))
  | [] => none
  | first :: rest =>
    let task := rest.foldl (fun least task => if task.lt least then task else least) first
    some (task, (first :: rest).erase task)

/-- Items are taken until the queue is empty, at most a number of them. -/
def drain : Nat → List (Task ι κ) → List (Task ι κ)
  | 0, _ => []
  | n + 1, items => match get_nowait items with
    | none => []
    | some (task, rest) => task :: drain n rest

/-- Wait for a specific task to complete: one turn of the loop, with an answer or a sleep.
    The items that are taken are put back. -/
def wait_for_task (q : TaskQueue ι κ) (task_id : ι) (expired : Bool) : Option (Except (QueueError ι) (TaskResult ι)) × TaskQueue ι κ :=
  match q._completed_tasks.get? task_id with
  | some result => (some (.ok result), q)
  | none =>
    if expired then (some (.error (.TimeoutError task_id)), q)
    else if q._running_tasks.contains task_id then (none, q)
    else
      let temp_items := drain q._pending_queue.length q._pending_queue
      let q := { q with _pending_queue := temp_items }
      if temp_items.any fun task => task.id = task_id then (none, q)
      else (some (.error (.KeyError task_id)), q)

/-- Start the task queue. -/
def start (q : TaskQueue ι κ) : TaskQueue ι κ :=
  if q._is_running then q
  else
    { q with
      _is_running := true
      _shutdown_event := false
      _worker_tasks := (List.range q.max_concurrent_tasks).map fun i => q.workers.length + i
      workers := q.workers ++ List.replicate q.max_concurrent_tasks {} }

/-- What `stop` does once the workers have ended, or at its timeout. -/
def stop_ended (q : TaskQueue ι κ) : TaskQueue ι κ :=
  { q with
    _worker_tasks := []
    cancelled_tokens := q.cancelled_tokens ++ q._running_tasks.values.filterMap Task.cancellation_token
    stopping := q.stopping - 1 }

/-- Stop the task queue: the cancellation of the workers is asked for. -/
def stop (q : TaskQueue ι κ) : TaskQueue ι κ :=
  if q._is_running = false then q
  else
    let q : TaskQueue ι κ :=
      { q with
        _is_running := false
        _shutdown_event := true
        workers := q.workers.mapIdx fun w (worker : Worker ι κ) => if w ∈ q._worker_tasks then worker.cancel else worker
        stopping := q.stopping + 1 }
    if q._worker_tasks.isEmpty then q.stop_ended else q

/-- Clear completed tasks from memory. -/
def clear_completed (q : TaskQueue ι κ) : TaskQueue ι κ :=
  { q with
    _completed_tasks := ∅
    enqueued := q.enqueued.filter fun task_id => task_id ∉ q._completed_tasks.keys }

/-! ## Workers -/

def is_cancelled (q : TaskQueue ι κ) (task : Task ι κ) : Bool := match task.cancellation_token with
  | none => false
  | some token => token ∈ q.cancelled_tokens

/-- A worker goes to a phase. -/
def at_phase (q : TaskQueue ι κ) (w : Nat) (phase : Phase ι κ) (cancelling : Bool) : TaskQueue ι κ :=
  { q with workers := q.workers.set w ⟨phase, cancelling⟩ }

/-- The result is counted under its status. -/
def count (q : TaskQueue ι κ) : TaskStatus → TaskQueue ι κ
  | .COMPLETED => { q with total_completed := q.total_completed + 1 }
  | .FAILED => { q with total_failed := q.total_failed + 1 }
  | .CANCELLED => { q with total_cancelled := q.total_cancelled + 1 }
  | _ => q

/-- Store the result of a task. -/
def store (q : TaskQueue ι κ) (task : Task ι κ) (result : TaskResult ι) : TaskQueue ι κ :=
  count { q with _completed_tasks := q._completed_tasks.set task.id result } result.status

/-- Remove a task from the running tasks. -/
def remove (q : TaskQueue ι κ) (task : Task ι κ) : TaskQueue ι κ :=
  { q with _running_tasks := q._running_tasks.erase task.id }

/-- What the worker does when `execute` has ended. -/
def executed (q : TaskQueue ι κ) (w : Nat) (cancelling : Bool) (task : Task ι κ) : Execution ι → TaskQueue ι κ
  | .result result => ((q.store task result).remove task).at_phase w .looping cancelling
  | .raised .BaseException => (q.remove task).at_phase w .finished cancelling
  | .raised _ => (q.remove task).at_phase w .looping cancelling

/-- The execution goes on to its next await, or ends. -/
def proceed (q : TaskQueue ι κ) (w : Nat) (cancelling : Bool) (task : Task ι κ) (calls : TaskCalls) : Stage → TaskQueue ι κ
  | .calling n => q.at_phase w (.calling task n) cancelling
  | .sleeping n => q.at_phase w (.sleeping task n) cancelling
  | .ended how => q.executed w cancelling task (task.execute calls how)

/-- No item of the queue comes before a task. -/
def least (q : TaskQueue ι κ) (task : Task ι κ) : Bool :=
  task ∈ q._pending_queue ∧ q._pending_queue.all fun other => !other.lt task

/-- A worker gets a task: it is put back at a shutdown. -/
def got (q : TaskQueue ι κ) (w : Nat) (task : Task ι κ) : TaskQueue ι κ :=
  let q := { q with _pending_queue := q._pending_queue.erase task }
  if q._shutdown_event then at_phase { q with _pending_queue := q._pending_queue ++ [task] } w .finished false
  else at_phase { q with _running_tasks := q._running_tasks.set task.id task } w (.entered task) false

/-- Worker coroutine that processes tasks: one step, with the task that the pending queue
    gives unless the wait times out, and the ends of the calls. -/
def _worker (q : TaskQueue ι κ) (w : Nat) (taken : Option (Task ι κ)) (calls : TaskCalls) : TaskQueue ι κ :=
  match q.workers[w]? with
  | none => q
  | some ⟨phase, cancelling⟩ => match phase with
    | .created => if cancelling then q.at_phase w .finished false else q.at_phase w .looping false
    | .looping => if q._is_running then q.at_phase w .getting cancelling else q.at_phase w .finished cancelling
    | .getting =>
      if cancelling then q.at_phase w .finished false
      else match taken with
        | none => q.at_phase w .looping false
        | some task => if q.least task then q.got w task else q
    | .entered task => q.proceed w cancelling task calls (task.entered (q.is_cancelled task) calls)
    | .calling task n => q.proceed w false task calls (task._execute_with_retry (q.is_cancelled task) n calls.call)
    | .sleeping task n =>
      if cancelling then q.proceed w false task calls (.ended (.raised .BaseException))
      else q.proceed w false task calls (task.slept (q.is_cancelled task) n calls)
    | .finished => q

/-! ## Runs -/

end TaskQueue

/-- What happens to a queue: a call, or a step of a worker. A token may be cancelled from
    outside. -/
inductive QueueEvent (ι κ : Type)
  | start
  | enqueue (task : Task ι κ)
  | enqueue_sync (task : Task ι κ)
  | wait_for_task (task_id : ι) (expired : Bool)
  | stop
  | stop_ended
  | cancel (token : κ)
  | clear_completed
  | worker (w : Nat) (taken : Option (Task ι κ)) (calls : TaskCalls)

namespace TaskQueue

def step (q : TaskQueue ι κ) : QueueEvent ι κ → TaskQueue ι κ
  | .start => q.start
  | .enqueue task => (q.enqueue task).2
  | .enqueue_sync task => (q.enqueue_sync task).2
  | .wait_for_task task_id expired => (q.wait_for_task task_id expired).2
  | .stop => q.stop
  | .stop_ended => if q.stopping = 0 then q else q.stop_ended
  | .cancel token => { q with cancelled_tokens := q.cancelled_tokens ++ [token] }
  | .clear_completed => q.clear_completed
  | .worker w taken calls => q._worker w taken calls

end TaskQueue

end RevitPy
