import RevitPy.Runs
import RevitPy.TaskQueue

/-!
# No task is lost

A task goes from the pending queue to the running tasks and to the completed ones. It is
lost where its execution ends by raising: a cancellation of the worker is not an
`Exception`, so that no result is stored.
-/

namespace RevitPy
variable {ι κ : Type}

/-- No call that an execution makes raises what is not an `Exception`, and its reporter is
    told of the end without an error. A call that is not made may be taken to return. -/
structure Task.Contained (t : Task ι κ) (calls : TaskCalls) : Prop where
  start : t.reporting calls.start ≠ .raised .BaseException
  call : calls.call ≠ .raised .BaseException
  report_progress : t.reporting calls.report_progress ≠ .raised .BaseException
  complete : t.reporting calls.complete ≠ .raised .BaseException
  cancel : t.reporting calls.cancel = .returned
  fail : t.reporting calls.fail = .returned
  callbacks : .raised .BaseException ∉ calls.callbacks

/-! ## Executions -/

/-- A stage that no interruption has ended. -/
def Stage.Caught : Stage → Prop
  | .ended how => how ≠ .raised .BaseException
  | _ => True

namespace Task
variable (t : Task ι κ)

theorem attempt_caught (is_cancelled : Bool) (n : Nat) : (t.attempt is_cancelled n).Caught := by
  unfold attempt
  split
  · split
    · simp [Stage.Caught]
    · trivial
  · simp [Stage.Caught]

theorem execute_with_retry_caught (is_cancelled : Bool) (n : Nat) {call : CallEnd} (caught : call ≠ .raised .BaseException) :
    (t._execute_with_retry is_cancelled n call).Caught := by
  rcases call with - | - | - | -
  · simp [_execute_with_retry, Stage.Caught]
  · simp [_execute_with_retry, Stage.Caught]
  · rw [_execute_with_retry]
    split
    · trivial
    · exact t.attempt_caught is_cancelled (n + 1)
  · exact absurd rfl caught

variable {t} {calls : TaskCalls} (contained : t.Contained calls)
include contained

theorem Contained.slept (is_cancelled : Bool) (n : Nat) : (t.slept is_cancelled n calls).Caught := by
  unfold Task.slept
  split
  · exact t.attempt_caught is_cancelled (n + 1)
  · next e ended => exact ended ▸ contained.report_progress

theorem Contained.entered (is_cancelled : Bool) : (t.entered is_cancelled calls).Caught := by
  unfold Task.entered
  split
  · simp [Stage.Caught]
  · split
    · exact t.attempt_caught is_cancelled 0
    · next e ended => exact ended ▸ contained.start

theorem Contained.notified (status : TaskStatus) : t.notified status calls = .result ⟨t.id, status⟩ := by
  have returned (callbacks : List CallEnd) (none_interrupted : .raised .BaseException ∉ callbacks) :
      Task._notify_completion_callbacks callbacks = .returned := by
    induction callbacks with
    | nil => rfl
    | cons callback rest ih =>
      have later := ih fun member => none_interrupted (List.mem_cons_of_mem _ member)
      rcases callback with - | - | - | -
      · exact later
      · exact later
      · exact later
      · exact absurd List.mem_cons_self none_interrupted
  rw [Task.notified, returned calls.callbacks contained.callbacks]

theorem Contained.handled {e : Raised} (caught : e ≠ .BaseException) :
    ∃ status, t.handled calls e = .result ⟨t.id, status⟩ ∧ (status = .COMPLETED ∨ status = .FAILED ∨ status = .CANCELLED) := by
  cases e with
  | OperationCancelledError =>
    refine ⟨.CANCELLED, ?_, .inr (.inr rfl)⟩
    rw [Task.handled, contained.cancel]
    exact contained.notified _
  | Exception =>
    refine ⟨.FAILED, ?_, .inr (.inl rfl)⟩
    rw [Task.handled, contained.fail]
    exact contained.notified _
  | BaseException => exact absurd rfl caught

/-- An execution that is not interrupted has a final result. -/
theorem Contained.execute {how : CallEnd} (caught : how ≠ .raised .BaseException) :
    ∃ status, t.execute calls how = .result ⟨t.id, status⟩ ∧ (status = .COMPLETED ∨ status = .FAILED ∨ status = .CANCELLED) := by
  cases how with
  | raised e => exact contained.handled fun same => caught (congrArg CallEnd.raised same)
  | returned =>
    rw [Task.execute]
    split
    · exact ⟨.COMPLETED, contained.notified _, .inl rfl⟩
    · next e ended => exact contained.handled fun same => contained.complete (ended.trans (congrArg CallEnd.raised same))

end Task

variable [DecidableEq ι]

namespace TaskQueue

/-- In how many places a task is. -/
def places (q : TaskQueue ι κ) (task_id : ι) : Nat :=
  (q._pending_queue.map Task.id).count task_id + q._running_tasks.keys.count task_id + q._completed_tasks.keys.count task_id

/-- Each enqueued task is in one place, and the statistics add up. -/
structure Conserved (q : TaskQueue ι κ) : Prop where
  one_place : ∀ task_id ∈ q.enqueued, q.places task_id = 1
  counted : q.total_queued =
    q._pending_queue.length + q._running_tasks.length + q.total_completed + q.total_failed + q.total_cancelled

/-- A task that is accepted is in no place yet, and an execution is neither interrupted nor
    stopped by an error of its reporter. -/
def Unbroken (q : TaskQueue ι κ) : QueueEvent ι κ → Prop
  | .enqueue task => q._is_running = true → q.at_limit = false → q.places task.id = 0
  | .enqueue_sync task => q._is_running = true → q.full = false → q.places task.id = 0
  | .worker w _ calls => match q.workers[w]? with
    | some ⟨.entered task, _⟩ | some ⟨.calling task _, _⟩ => task.Contained calls
    | some ⟨.sleeping task _, cancelling⟩ => cancelling = false ∧ task.Contained calls
    | _ => True
  | _ => True

/-! ## What holds between the steps -/

/-- The task that a worker executes. -/
def executing (q : TaskQueue ι κ) (w : Nat) : Option ι := q.workers[w]?.bind fun worker => worker.phase.task.map Task.id

/-- The tasks in the places are those that were enqueued, and each worker with a task has
    its own among the running ones. -/
structure Accounted (q : TaskQueue ι κ) : Prop where
  places : ∀ task_id, q.places task_id = q.enqueued.count task_id
  distinct : q.enqueued.Nodup
  counted : q.total_queued =
    q._pending_queue.length + q._running_tasks.length + q.total_completed + q.total_failed + q.total_cancelled
  running : ∀ w task_id, q.executing w = some task_id → task_id ∈ q._running_tasks.keys
  apart : ∀ w v task_id, q.executing w = some task_id → q.executing v = some task_id → w = v

section
variable {q : TaskQueue ι κ} {w : Nat} {worker : Worker ι κ} (here : q.workers[w]? = some worker)
include here

theorem executing_at_phase (phase : Phase ι κ) (cancelling : Bool) (v : Nat) :
    (q.at_phase w phase cancelling).executing v = if w = v then phase.task.map Task.id else q.executing v := by
  obtain ⟨inside, -⟩ := List.getElem?_eq_some_iff.mp here
  simp only [executing, at_phase, List.getElem?_set]
  by_cases same : w = v
  · rw [if_pos same, if_pos same, if_pos inside, Option.bind_some]
  · rw [if_neg same, if_neg same]

/-- A worker goes to a phase without a task, or with one that runs and is nobody else's. -/
theorem Accounted.at_phase (accounted : Accounted q) (phase : Phase ι κ) (cancelling : Bool)
    (own : ∀ task, phase.task = some task → task.id ∈ q._running_tasks.keys ∧ ∀ v, q.executing v = some task.id → v = w) :
    Accounted (q.at_phase w phase cancelling) := by
  refine ⟨accounted.places, accounted.distinct, accounted.counted, ?_, ?_⟩
  · intro v task_id executes
    rw [executing_at_phase here] at executes
    split at executes
    · obtain ⟨task, has, rfl⟩ := Option.map_eq_some_iff.mp executes
      exact (own task has).1
    · exact accounted.running v task_id executes
  · intro v u task_id executes executes'
    rw [executing_at_phase here] at executes executes'
    split at executes
    · next same =>
      split at executes'
      · next same' => exact same.symm.trans same'
      · obtain ⟨task, has, rfl⟩ := Option.map_eq_some_iff.mp executes
        exact same.symm.trans ((own task has).2 u executes').symm
    · split at executes'
      · next same' =>
        obtain ⟨task, has, rfl⟩ := Option.map_eq_some_iff.mp executes'
        exact ((own task has).2 v executes).trans same'
      · exact accounted.apart v u task_id executes executes'

/-- The task of a worker runs, and is nobody else's. -/
theorem Accounted.own_task (accounted : Accounted q) {task : Task ι κ} (has : worker.phase.task = some task) :
    task.id ∈ q._running_tasks.keys ∧ ∀ v, q.executing v = some task.id → v = w := by
  have executes : q.executing w = some task.id := by
    rw [executing, here, Option.bind_some, has]
    rfl
  exact ⟨accounted.running w task.id executes, fun v executes' => accounted.apart v w task.id executes' executes⟩

end

/-- A final result is stored and counted once. -/
theorem store_final {q : TaskQueue ι κ} (task : Task ι κ) {result : TaskResult ι}
    (final : result.status = .COMPLETED ∨ result.status = .FAILED ∨ result.status = .CANCELLED) :
    ∃ completed failed cancelled,
      q.store task result =
        { q with
          _completed_tasks := q._completed_tasks.set task.id result
          total_completed := completed
          total_failed := failed
          total_cancelled := cancelled } ∧
      completed + failed + cancelled = q.total_completed + q.total_failed + q.total_cancelled + 1 := by
  unfold store
  rcases final with final | final | final
  · refine ⟨q.total_completed + 1, q.total_failed, q.total_cancelled, ?_, by omega⟩
    rw [final]
    rfl
  · refine ⟨q.total_completed, q.total_failed + 1, q.total_cancelled, ?_, by omega⟩
    rw [final]
    rfl
  · refine ⟨q.total_completed, q.total_failed, q.total_cancelled + 1, ?_, by omega⟩
    rw [final]
    rfl

section
variable {q : TaskQueue ι κ} (accounted : Accounted q)
include accounted

theorem Accounted.conserved : Conserved q where
  one_place task_id member := by
    rw [accounted.places, List.count_eq_one_of_mem accounted.distinct member]
  counted := accounted.counted

/-- A task is at most once in one place. -/
theorem Accounted.places_le (task_id : ι) : q.places task_id ≤ 1 := by
  rw [accounted.places]
  exact List.nodup_iff_count_le_one.mp accounted.distinct task_id

/-- A running task neither waits nor is completed. -/
theorem Accounted.only_runs {task_id : ι} (runs : task_id ∈ q._running_tasks.keys) :
    (q._pending_queue.map Task.id).count task_id = 0 ∧ task_id ∉ q._completed_tasks.keys := by
  have most := accounted.places_le task_id
  rw [TaskQueue.places, List.count_eq_one_of_mem q._running_tasks.keys_nodup runs] at most
  refine ⟨by omega, fun completed => ?_⟩
  rw [List.count_eq_one_of_mem q._completed_tasks.keys_nodup completed] at most
  omega

/-- The order of the pending queue does not matter. -/
theorem Accounted.reorder {items : List (Task ι κ)} (perm : items.Perm q._pending_queue) :
    Accounted { q with _pending_queue := items } := by
  refine ⟨fun task_id => ?_, accounted.distinct, ?_, accounted.running, accounted.apart⟩
  · refine Eq.trans ?_ (accounted.places task_id)
    simp only [TaskQueue.places, (perm.map Task.id).count_eq]
  · simp only [perm.length_eq]
    exact accounted.counted

/-- The result of a task that no worker executes any more is stored. -/
theorem Accounted.finish {task : Task ι κ} (runs : task.id ∈ q._running_tasks.keys) (left : ∀ v, q.executing v ≠ some task.id)
    {result : TaskResult ι} (final : result.status = .COMPLETED ∨ result.status = .FAILED ∨ result.status = .CANCELLED) :
    Accounted ((q.store task result).remove task) := by
  obtain ⟨-, fresh⟩ := accounted.only_runs runs
  obtain ⟨completed, failed, cancelled, same, one_more⟩ := store_final (q := q) task final
  rw [same]
  refine ⟨fun task_id => ?_, accounted.distinct, ?_, ?_, accounted.apart⟩
  · refine Eq.trans ?_ (accounted.places task_id)
    simp only [TaskQueue.places, remove, Dict.count_keys_erase, Dict.count_keys_set]
    by_cases same : task.id = task_id
    · subst same
      rw [if_pos rfl, if_pos rfl, List.count_eq_one_of_mem q._running_tasks.keys_nodup runs, List.count_eq_zero.mpr fresh]
    · rw [if_neg same, if_neg same]
  · have before := accounted.counted
    have length := Dict.length_erase_of_mem runs
    simp only [remove]
    omega
  · intro v task_id executes
    have other : task_id ≠ task.id := by
      rintro rfl
      exact left v executes
    exact (Dict.mem_keys_erase _ _ _).mpr ⟨accounted.running v task_id executes, other⟩

end

section
variable [DecidableEq κ] {q : TaskQueue ι κ} (accounted : Accounted q)
include accounted

/-- A pending task goes to the running ones; no worker executes it yet. -/
theorem Accounted.take {task : Task ι κ} (pending : task ∈ q._pending_queue) :
    (∀ v, q.executing v ≠ some task.id) ∧
      Accounted { q with
        _pending_queue := q._pending_queue.erase task
        _running_tasks := q._running_tasks.set task.id task } := by
  have counted (task_id : ι) : (q._pending_queue.map Task.id).count task_id =
      ((q._pending_queue.erase task).map Task.id).count task_id + if task.id = task_id then 1 else 0 := by
    have perm := (List.perm_cons_erase pending).map Task.id
    rw [perm.count_eq, List.map_cons, List.count_cons]
    simp
  have waits : task.id ∉ q._running_tasks.keys := by
    intro runs
    have none_pending := (accounted.only_runs runs).1
    rw [counted, if_pos rfl] at none_pending
    omega
  refine ⟨fun v executes => waits (accounted.running v task.id executes), fun task_id => ?_, accounted.distinct, ?_, ?_, accounted.apart⟩
  · refine Eq.trans ?_ (accounted.places task_id)
    simp only [TaskQueue.places, counted task_id, Dict.count_keys_set]
    by_cases same : task.id = task_id
    · subst same
      rw [if_pos rfl, if_pos rfl, List.count_eq_zero.mpr waits]
    · rw [if_neg same, if_neg same, Nat.add_zero]
  · have before := accounted.counted
    have length := List.length_erase_of_mem pending
    have some_pending := List.length_pos_of_mem pending
    have one_more := Dict.length_set_of_not_mem waits task
    simp only
    omega
  · intro v task_id executes
    exact (Dict.mem_keys_set _ _ _ _).mpr (.inr (accounted.running v task_id executes))

end

/-! ## Steps -/

section
variable {q : TaskQueue ι κ} {w : Nat} {worker : Worker ι κ} (here : q.workers[w]? = some worker) (accounted : Accounted q)
include here accounted

/-- An execution that is not interrupted goes on, or its result is stored. -/
theorem Accounted.proceed {task : Task ι κ} (has : worker.phase.task = some task) {calls : TaskCalls} (contained : task.Contained calls)
    (cancelling : Bool) {stage : Stage} (caught : stage.Caught) : Accounted (q.proceed w cancelling task calls stage) := by
  have own := accounted.own_task here has
  have still (other : Task ι κ) (same : some task = some other) :
      other.id ∈ q._running_tasks.keys ∧ ∀ v, q.executing v = some other.id → v = w := by
    cases same
    exact own
  cases stage with
  | calling n => exact accounted.at_phase here (.calling task n) cancelling still
  | sleeping n => exact accounted.at_phase here (.sleeping task n) cancelling still
  | ended how =>
    obtain ⟨status, ends, final⟩ := contained.execute caught
    have free := accounted.at_phase here .looping cancelling nofun
    have left (v : Nat) : (q.at_phase w .looping cancelling).executing v ≠ some task.id := by
      intro executes
      rw [executing_at_phase here] at executes
      split at executes
      · cases executes
      · next other => exact other (own.2 v executes).symm
    have order : q.executed w cancelling task (.result ⟨task.id, status⟩) =
        ((q.at_phase w .looping cancelling).store task ⟨task.id, status⟩).remove task := by
      rcases final with rfl | rfl | rfl
      · rfl
      · rfl
      · rfl
    rw [TaskQueue.proceed, ends, order]
    exact free.finish own.1 left final

end

section
variable [DecidableEq κ] {q : TaskQueue ι κ} (accounted : Accounted q)
include accounted

/-- A worker that gets a task puts it back, or executes it. -/
theorem Accounted.got {w : Nat} {worker : Worker ι κ} (here : q.workers[w]? = some worker) {task : Task ι κ}
    (pending : task ∈ q._pending_queue) : Accounted (q.got w task) := by
  unfold TaskQueue.got
  simp only
  split
  · have again : (q._pending_queue.erase task ++ [task]).Perm q._pending_queue :=
      (List.perm_append_singleton task _).trans (List.perm_cons_erase pending).symm
    exact (accounted.reorder again).at_phase (by exact here) .finished false nofun
  · obtain ⟨idle, taken⟩ := accounted.take pending
    refine taken.at_phase (by exact here) (.entered task) false fun other same => ?_
    cases same
    exact ⟨(Dict.mem_keys_set _ _ _ _).mpr (.inl rfl), fun v executes => absurd executes (idle v)⟩

theorem Accounted.worker (w : Nat) (taken : Option (Task ι κ)) (calls : TaskCalls) (unbroken : q.Unbroken (.worker w taken calls)) :
    Accounted (q._worker w taken calls) := by
  unfold _worker
  cases here : q.workers[w]? with
  | none => exact accounted
  | some worker =>
    obtain ⟨phase, cancelling⟩ := worker
    simp only [Unbroken, here] at unbroken
    cases phase with
    | created =>
      simp only
      split
      · exact accounted.at_phase here .finished false nofun
      · exact accounted.at_phase here .looping false nofun
    | looping =>
      simp only
      split
      · exact accounted.at_phase here .getting cancelling nofun
      · exact accounted.at_phase here .finished cancelling nofun
    | getting =>
      simp only
      split
      · exact accounted.at_phase here .finished false nofun
      · cases taken with
        | none => exact accounted.at_phase here .looping false nofun
        | some task =>
          simp only
          split
          · next first => exact accounted.got here (of_decide_eq_true first).1
          · exact accounted
    | entered task => exact accounted.proceed here rfl unbroken cancelling (unbroken.entered _)
    | calling task n => exact accounted.proceed here rfl unbroken false (task.execute_with_retry_caught _ n unbroken.call)
    | sleeping task n =>
      obtain ⟨undisturbed, contained⟩ := unbroken
      rw [undisturbed]
      exact accounted.proceed here rfl contained false (contained.slept _ n)
    | finished => exact accounted

/-! ### Calls -/

omit [DecidableEq κ] in
theorem Accounted.put {task : Task ι κ} (new : q.places task.id = 0) : Accounted (q.put task) := by
  have fresh : q.enqueued.count task.id = 0 := (accounted.places task.id).symm.trans new
  refine ⟨fun task_id => ?_, ?_, ?_, accounted.running, accounted.apart⟩
  · have before := accounted.places task_id
    simp only [TaskQueue.places] at before
    simp only [TaskQueue.places, TaskQueue.put, List.map_append, List.map_cons, List.map_nil, List.count_append]
    omega
  · refine List.nodup_append.mpr ⟨accounted.distinct, List.nodup_singleton _, ?_⟩
    rintro task_id member other single rfl
    cases List.mem_singleton.mp single
    exact List.count_eq_zero.mp fresh member
  · have before := accounted.counted
    simp only [TaskQueue.put, List.length_append, List.length_singleton]
    omega

omit accounted in
theorem perm_get_nowait {items rest : List (Task ι κ)} {task : Task ι κ} (taken : get_nowait items = some (task, rest)) :
    items.Perm (task :: rest) := by
  cases items with
  | nil => cases taken
  | cons first others =>
    have chosen (items : List (Task ι κ)) (least : Task ι κ) :
        items.foldl (fun least task => if task.lt least then task else least) least ∈ least :: items := by
      induction items generalizing least with
      | nil => exact List.mem_cons_self
      | cons task rest ih =>
        rw [List.foldl_cons]
        split
        · exact List.mem_cons_of_mem _ (ih task)
        · have later := ih least
          rw [List.mem_cons] at later ⊢
          exact later.imp_right (List.mem_cons_of_mem task)
    cases taken
    exact List.perm_cons_erase (chosen others first)

omit accounted in
/-- Everything is taken, in some order. -/
theorem perm_drain (n : Nat) (items : List (Task ι κ)) (enough : items.length ≤ n) : (drain n items).Perm items := by
  induction n generalizing items with
  | zero =>
    cases List.length_eq_zero_iff.mp (Nat.le_zero.mp enough)
    exact .nil
  | succ n ih =>
    rw [drain]
    cases taken : get_nowait items with
    | none =>
      cases items with
      | nil => exact .nil
      | cons first rest => cases taken
    | some answer =>
      obtain ⟨task, rest⟩ := answer
      have perm := perm_get_nowait taken
      have shorter := perm.length_eq
      rw [List.length_cons] at shorter
      exact ((ih rest (by omega)).cons task).trans perm.symm

theorem Accounted.wait_for_task (task_id : ι) (expired : Bool) : Accounted (q.wait_for_task task_id expired).2 := by
  have perm := perm_drain _ q._pending_queue (Nat.le_refl _)
  have put_back := accounted.reorder perm
  unfold TaskQueue.wait_for_task
  split
  · exact accounted
  · split
    · exact accounted
    · split
      · exact accounted
      · simp only
        split
        · exact put_back
        · exact put_back

omit [DecidableEq κ] in
theorem Accounted.clear_completed : Accounted q.clear_completed := by
  refine ⟨fun task_id => ?_, accounted.distinct.filter _, accounted.counted, accounted.running, accounted.apart⟩
  have before := accounted.places task_id
  simp only [TaskQueue.places] at before
  simp only [TaskQueue.places, TaskQueue.clear_completed, Dict.keys_empty, List.count_nil]
  by_cases completed : task_id ∈ q._completed_tasks.keys
  · have most := accounted.places_le task_id
    have gone : (q.enqueued.filter fun task_id => task_id ∉ q._completed_tasks.keys).count task_id = 0 := by
      simp [List.count_eq_zero, completed]
    rw [TaskQueue.places, List.count_eq_one_of_mem q._completed_tasks.keys_nodup completed] at most
    omega
  · rw [List.count_eq_zero.mpr completed] at before
    rw [List.count_filter (by simpa using completed)]
    exact before

omit [DecidableEq κ] in
/-- New workers execute nothing. -/
theorem Accounted.start : Accounted q.start := by
  have before (v : Nat) (task_id : ι) (executes : q.start.executing v = some task_id) : q.executing v = some task_id := by
    unfold TaskQueue.start at executes
    split at executes
    · exact executes
    · simp only [executing, List.getElem?_append, List.getElem?_replicate] at executes
      split at executes
      · exact executes
      · split at executes
        · cases executes
        · cases executes
  have same : Accounted { q.start with workers := q.workers } := by
    unfold TaskQueue.start
    split
    · exact accounted
    · exact ⟨accounted.places, accounted.distinct, accounted.counted, accounted.running, accounted.apart⟩
  refine ⟨same.places, same.distinct, same.counted, ?_, ?_⟩
  · intro v task_id executes
    exact same.running v task_id (before v task_id executes)
  · intro v u task_id executes executes'
    exact same.apart v u task_id (before v task_id executes) (before u task_id executes')

omit [DecidableEq κ] in
theorem Accounted.stop_ended : Accounted q.stop_ended :=
  ⟨accounted.places, accounted.distinct, accounted.counted, accounted.running, accounted.apart⟩

omit [DecidableEq κ] in
/-- Workers keep their tasks when their cancellation is asked for. -/
theorem Accounted.stop : Accounted q.stop := by
  unfold TaskQueue.stop
  split
  · exact accounted
  · have same (v : Nat) : ((q.workers.mapIdx fun w (worker : Worker ι κ) => if w ∈ q._worker_tasks then worker.cancel else worker)[v]?.bind
        fun worker => worker.phase.task.map Task.id) = q.executing v := by
      rw [executing, List.getElem?_mapIdx]
      cases q.workers[v]? with
      | none => rfl
      | some worker =>
        simp only [Option.map_some, Option.bind_some]
        split
        · rfl
        · rfl
    have asked : Accounted { q with
        _is_running := false
        _shutdown_event := true
        workers := q.workers.mapIdx fun w (worker : Worker ι κ) => if w ∈ q._worker_tasks then worker.cancel else worker
        stopping := q.stopping + 1 } := by
      refine ⟨accounted.places, accounted.distinct, accounted.counted, ?_, ?_⟩
      · intro v task_id executes
        exact accounted.running v task_id ((same v).symm.trans executes)
      · intro v u task_id executes executes'
        exact accounted.apart v u task_id ((same v).symm.trans executes) ((same u).symm.trans executes')
    simp only
    split
    · exact asked.stop_ended
    · exact asked

theorem Accounted.step (event : QueueEvent ι κ) (unbroken : q.Unbroken event) : Accounted (q.step event) := by
  cases event with
  | start => exact accounted.start
  | enqueue task | enqueue_sync task =>
    simp only [TaskQueue.step, enqueue, enqueue_sync]
    split
    · exact accounted
    · next runs =>
      split
      · exact accounted
      · next accepts => exact accounted.put (unbroken (Bool.of_not_eq_false runs) (Bool.of_not_eq_true accepts))
  | wait_for_task task_id expired => exact accounted.wait_for_task task_id expired
  | stop => exact accounted.stop
  | stop_ended =>
    simp only [TaskQueue.step]
    split
    · exact accounted
    · exact accounted.stop_ended
  | cancel token => exact ⟨accounted.places, accounted.distinct, accounted.counted, accounted.running, accounted.apart⟩
  | clear_completed => exact accounted.clear_completed
  | worker w taken calls => exact accounted.worker w taken calls unbroken

end

/-! ## Runs -/

section
variable [DecidableEq κ]

end

end TaskQueue

end RevitPy
