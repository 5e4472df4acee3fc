import Mathlib.Data.List.Perm.Subperm
import RevitPy.BatchProcessor
import RevitPy.Runs

/-!
# Cancellation of a batch

A task looks at the event once, before it waits for a permit. When every job that has not
been submitted by the time the event is set has its look still before it, none of them is
submitted later, and all of them are reported as cancelled.
-/

namespace RevitPy
open Runs
variable {κ : Type}

/-- A task that has submitted nothing and will submit nothing once the event is set. -/
def JobTask.Idle : JobTask → Prop
  | .created => True
  | .finished result => result.status = .CANCELLED
  | _ => False

namespace BatchRun
variable (b : BatchRun κ)

/-- The task of a job is there and has not returned. -/
def Unfinished (job : Nat) : Prop := ∃ task, b.tasks[job]? = some task ∧ ∀ result, task ≠ .finished result

/-- The result of `process` shows a job as cancelled. -/
def ShowsCancelled (outcome : Except String BatchResult) (job : Nat) : Prop :=
  ∃ report, outcome = .ok report ∧ ∃ result, (job, result) ∈ report.results ∧ result.status = .CANCELLED

/-- What holds of the collected results, and of jobs that were too late. -/
structure Settled (late : Nat → Prop) : Prop where
  length : b.tasks.length = b.jobs.length
  distinct : ((b.results ++ b.done).map Prod.fst).Nodup
  finished : ∀ entry ∈ b.results ++ b.done, b.tasks[entry.1]? = some (.finished entry.2)
  cancelled : ∀ job, late job → b.cancel = some true
  unsubmitted : ∀ job, late job → job ∉ b.submitted
  idle : ∀ job, late job → ∀ task, b.tasks[job]? = some task → task.Idle
  known : ∀ job, late job → job < b.jobs.length
  reported : ∀ job, late job → ∀ outcome, b.outcome = some outcome → ShowsCancelled outcome job

/-- A task went on in `b`, from where it was in `start`. -/
structure Turn (late : Nat → Prop) (start : BatchRun κ) : Prop extends b.Settled late where
  same_jobs : b.jobs = start.jobs
  same_cancel : b.cancel = start.cancel
  grown : start.submitted ⊆ b.submitted

variable {b} {start : BatchRun κ} {late : Nat → Prop} {job : Nat}

theorem Settled.mono (settled : b.Settled late) {fewer : Nat → Prop} (less : ∀ job, fewer job → late job) : b.Settled fewer :=
  { settled with
    cancelled := fun job member => settled.cancelled job (less job member)
    unsubmitted := fun job member => settled.unsubmitted job (less job member)
    idle := fun job member => settled.idle job (less job member)
    known := fun job member => settled.known job (less job member)
    reported := fun job member => settled.reported job (less job member) }

theorem Settled.turn (settled : b.Settled late) : b.Turn late b := ⟨settled, rfl, rfl, List.Subset.refl _⟩

/-! ## What a task does in its turn -/

theorem Unfinished.ne (unfinished : b.Unfinished job) (result : JobResult) : b.tasks[job]? ≠ some (.finished result) := by
  obtain ⟨task, found, going_on⟩ := unfinished
  rw [found]
  exact fun same => going_on result (Option.some.inj same)

theorem unfinished_not_collected (settled : b.Settled late) (unfinished : b.Unfinished job) :
    job ∉ (b.results ++ b.done).map Prod.fst := by
  intro member
  obtain ⟨entry, collected, rfl⟩ := List.mem_map.mp member
  exact unfinished.ne entry.2 (settled.finished entry collected)

section
variable (turn : b.Turn late start)
include turn

/-- A task that goes on leaves the finished ones alone. -/
theorem Turn.set (unfinished : b.Unfinished job) {task : JobTask} (idle : late job → task.Idle) :
    { b with tasks := b.tasks.set job task }.Turn late start := by
  refine { turn with length := ?_, finished := ?_, idle := ?_ }
  · exact (List.length_set).trans turn.length
  · intro entry member
    have other : job ≠ entry.1 := by
      rintro rfl
      exact unfinished.ne entry.2 (turn.finished entry member)
    exact (List.getElem?_set_ne other).trans (turn.finished entry member)
  · intro late_job member task' found
    by_cases same : job = late_job
    · subst same
      rw [List.getElem?_set_self'] at found
      obtain ⟨_, _, rfl⟩ := Option.map_eq_some_iff.mp found
      exact idle member
    · exact turn.idle late_job member task' ((List.getElem?_set_ne same).symm.trans found)

theorem Turn._wake_up_next : b._wake_up_next.Turn late start := by
  unfold BatchRun._wake_up_next
  split
  · next job found =>
    have waits : b.tasks[job]? = some .waiting := by
      have := List.find?_some found
      unfold is_waiting at this
      split at this
      · assumption
      · cases this
    have unfinished : b.Unfinished job := ⟨_, waits, fun result same => by cases same⟩
    have never_late : late job → JobTask.Idle .woken := fun member => (turn.idle job member .waiting waits).elim
    exact { turn.set unfinished never_late with }
  · exact turn

theorem Turn.release : b.release.Turn late start := by
  have one_more : { b with _value := b._value + 1 }.Turn late start := { turn with }
  exact one_more._wake_up_next

/-- A task that is not late returns, or one that is late returns as cancelled. -/
theorem Turn.finish (unfinished : b.Unfinished job) {result : JobResult} (cancelled : late job → result.status = .CANCELLED) :
    (b.finish job result).Turn late start := by
  have returned : { b with tasks := b.tasks.set job (.finished result) }.Turn late start := turn.set unfinished cancelled
  have collected : b.results ++ (b.done ++ [(job, result)]) = (b.results ++ b.done) ++ [(job, result)] := (List.append_assoc ..).symm
  refine { returned with distinct := ?_, finished := ?_ }
  · show ((b.results ++ (b.done ++ [(job, result)])).map Prod.fst).Nodup
    rw [collected, List.map_append, List.nodup_append]
    refine ⟨turn.distinct, by simp, fun other member last here => ?_⟩
    obtain rfl : last = job := by simpa using here
    rintro rfl
    exact unfinished_not_collected turn.toSettled unfinished member
  · intro entry member
    have earlier_or_now : entry ∈ (b.results ++ b.done) ++ [(job, result)] := collected ▸ member
    rcases List.mem_append.mp earlier_or_now with earlier | now
    · exact returned.finished entry earlier
    · obtain ⟨task, found, _⟩ := unfinished
      rw [List.mem_singleton.mp now]
      show (b.tasks.set job (.finished result))[job]? = _
      rw [List.getElem?_set_self', found]
      rfl

theorem Turn.submit (unfinished : b.Unfinished job) (not_late : ¬late job) (attempt : Nat) :
    { b with tasks := b.tasks.set job (.submitting attempt), submitted := b.submitted ++ [job] }.Turn late start := by
  have going_on : { b with tasks := b.tasks.set job (.submitting attempt) }.Turn late start :=
    turn.set unfinished fun member => absurd member not_late
  refine { going_on with unsubmitted := ?_, grown := ?_ }
  · intro late_job member submitted
    rcases List.mem_append.mp submitted with before | now
    · exact turn.unsubmitted late_job member before
    · exact not_late (List.mem_singleton.mp now ▸ member)
  · exact List.Subset.trans turn.grown (List.subset_append_left _ _)

end

theorem Unfinished._wake_up_next (unfinished : b.Unfinished job) : b._wake_up_next.Unfinished job := by
  unfold BatchRun._wake_up_next
  split
  · next woken _ =>
    obtain ⟨task, found, going_on⟩ := unfinished
    by_cases same : woken = job
    · subst same
      refine ⟨.woken, ?_, fun result same => by cases same⟩
      rw [List.getElem?_set_self', found]
      rfl
    · exact ⟨task, (List.getElem?_set_ne same).trans found, going_on⟩
  · exact unfinished

theorem Unfinished.release (unfinished : b.Unfinished job) : b.release.Unfinished job :=
  Unfinished._wake_up_next (b := { b with _value := b._value + 1 }) unfinished

/-! ## The functions of a task -/

section
variable (turn : b.Turn late start) (unfinished : b.Unfinished job) (not_late : ¬late job)
include turn unfinished not_late

theorem Turn.finish_failed (error : Option String) :
    (b.release.finish job { job_id := "", status := .FAILED, error }).Turn late start :=
  turn.release.finish unfinished.release fun member => absurd member not_late

theorem Turn._run_with_retry (attempt : Nat) (last_error : Option String) :
    (b._run_with_retry job attempt last_error).Turn late start := by
  unfold BatchRun._run_with_retry
  split
  · exact turn.submit unfinished not_late attempt
  · exact turn.finish_failed unfinished not_late last_error

theorem Turn.retry (attempt : Nat) (message : String) : (b.retry job attempt message).Turn late start := by
  unfold BatchRun.retry
  split
  · exact turn.set unfinished fun member => absurd member not_late
  · exact turn._run_with_retry unfinished not_late (attempt + 1) (some message)

end

section
variable (settled : b.Settled late)
include settled

/-- Only a task that has not begun, or was cancelled, is late. -/
theorem Settled.not_late {task : JobTask} (found : b.tasks[job]? = some task) (busy : ¬task.Idle) : ¬late job :=
  fun member => busy (settled.idle job member task found)

theorem Settled._run_one (job : Nat) : (b._run_one job).Turn late b := by
  unfold BatchRun._run_one
  split
  · next found =>
    have unfinished : b.Unfinished job := ⟨_, found, fun result same => by cases same⟩
    split
    · exact settled.turn.finish unfinished fun _ => rfl
    · next unset =>
      have not_late : ¬late job := fun member => unset (settled.cancelled job member)
      split
      · exact { settled.turn.set unfinished (fun member => absurd member not_late : late job → JobTask.Idle .waiting) with }
      · have permitted : { b with _value := b._value - 1 }.Turn late b := { settled.turn with }
        exact permitted._run_with_retry unfinished not_late 0 none
  · next found =>
    have unfinished : b.Unfinished job := ⟨_, found, fun result same => by cases same⟩
    have not_late := settled.not_late found id
    have left : { b with _waiters := b._waiters.erase job }.Turn late b := { settled.turn with }
    simp only
    split
    · exact left._wake_up_next._run_with_retry (Unfinished._wake_up_next unfinished) not_late 0 none
    · exact left._run_with_retry unfinished not_late 0 none
  · exact settled.turn

theorem Settled.submit_ends (job : Nat) (answer : ManagerAnswer String) : (b.submit_ends job answer).Turn late b := by
  unfold BatchRun.submit_ends
  split
  · next attempt job_id found =>
    have unfinished : b.Unfinished job := ⟨_, found, fun result same => by cases same⟩
    exact settled.turn.set unfinished fun member => absurd member (settled.not_late found id)
  · next attempt message found =>
    have unfinished : b.Unfinished job := ⟨_, found, fun result same => by cases same⟩
    exact settled.turn.retry unfinished (settled.not_late found id) attempt message
  · next attempt message found =>
    have unfinished : b.Unfinished job := ⟨_, found, fun result same => by cases same⟩
    exact settled.turn.finish_failed unfinished (settled.not_late found id) (some message)
  · exact settled.turn

theorem Settled.wait_ends (job : Nat) (answer : ManagerAnswer JobResult) : (b.wait_ends job answer).Turn late b := by
  unfold BatchRun.wait_ends
  split
  · next attempt job_id result found =>
    have unfinished : b.Unfinished job := ⟨_, found, fun result same => by cases same⟩
    exact settled.turn.release.finish unfinished.release fun member => absurd member (settled.not_late found id)
  · next attempt job_id message found =>
    have unfinished : b.Unfinished job := ⟨_, found, fun result same => by cases same⟩
    exact settled.turn.retry unfinished (settled.not_late found id) attempt message
  · next attempt job_id message found =>
    have unfinished : b.Unfinished job := ⟨_, found, fun result same => by cases same⟩
    exact settled.turn.finish_failed unfinished (settled.not_late found id) (some message)
  · exact settled.turn

theorem Settled.sleep_ends (job : Nat) : (b.sleep_ends job).Turn late b := by
  unfold BatchRun.sleep_ends
  split
  · next attempt last_error found =>
    have unfinished : b.Unfinished job := ⟨_, found, fun result same => by cases same⟩
    exact settled.turn._run_with_retry unfinished (settled.not_late found id) (attempt + 1) (some last_error)
  · exact settled.turn

end
/-! ## Collection -/

section
variable (settled : b.Settled late)
include settled

theorem Settled.shows_cancelled (member : late job) (collected : job ∈ b.results.map Prod.fst) : ShowsCancelled (.ok b.batch_result) job := by
  obtain ⟨⟨_, result⟩, entry, rfl⟩ := List.mem_map.mp collected
  have returned := settled.finished _ (List.mem_append_left _ entry)
  exact ⟨b.batch_result, rfl, result, entry, settled.idle _ member _ returned⟩

/-- As many results as jobs are a result for each job. -/
theorem Settled.collected_of_length (all : b.results.length = b.jobs.length) (known : job < b.jobs.length) : job ∈ b.results.map Prod.fst := by
  have distinct : (b.results.map Prod.fst).Nodup := by
    have both := settled.distinct
    rw [List.map_append] at both
    exact (List.nodup_append.mp both).1
  have within : b.results.map Prod.fst ⊆ List.range b.jobs.length := by
    intro other member
    obtain ⟨entry, collected, rfl⟩ := List.mem_map.mp member
    obtain ⟨bound, _⟩ := List.getElem?_eq_some_iff.mp (settled.finished entry (List.mem_append_left _ collected))
    rw [settled.length] at bound
    exact List.mem_range.mpr bound
  have covers := (List.subperm_of_subset distinct within).perm_of_length_le (by simp [all])
  exact covers.mem_iff.mpr (List.mem_range.mpr known)

end

variable (b) in
/-- Every job that has not been submitted has its look at the event before it, and its
    result is still waited for. -/
def Fresh : Prop := ∀ job < b.jobs.length, job ∉ b.submitted → b.tasks[job]? = some .created ∧ b.outcome = none

variable (b) in
/-- The event is set when every unsubmitted job is fresh, and the collection is not broken
    off before the results of unsubmitted jobs have come in. -/
def Timely : BatchStep → Prop
  | .set_cancel => b.cancel = some false → b.Fresh
  | .collect progress => match b.outcome, b.done with
    | none, (_, result) :: _ => match progress with
      | .error _ => b.cancel = some true → ∀ job < b.jobs.length, job ∈ b.submitted
      | .ok _ => b.stops_at result = true → b.cancel ≠ none →
        ∀ job < b.jobs.length, job ∈ b.submitted ∨ b.cancel = some true ∧ job ∈ b.results.map Prod.fst
    | _, _ => True
  | _ => True

theorem Settled.collect (settled : b.Settled late) {progress : Except String Unit} (timely : b.Timely (.collect progress)) :
    (b.collect progress).Settled late := by
  unfold BatchRun.collect
  unfold Timely at timely
  split
  · next job result rest running found =>
    simp only [running, found] at timely
    have moved : b.results ++ [(job, result)] ++ rest = b.results ++ b.done := by rw [found, List.append_assoc, List.singleton_append]
    have taken : { b with done := rest, results := b.results ++ [(job, result)] }.Settled late :=
      { settled with distinct := moved ▸ settled.distinct, finished := moved ▸ settled.finished }
    simp only
    split
    · refine { taken with reported := fun late_job member => ?_ }
      have submitted := timely (settled.cancelled late_job member) late_job (settled.known late_job member)
      exact absurd submitted (settled.unsubmitted late_job member)
    · split
      · next stops =>
        refine { taken with cancelled := fun late_job member => ?_, reported := fun late_job member outcome ended => ?_ }
        · show b.cancel.map (fun _ => true) = some true
          rw [settled.cancelled late_job member]
          rfl
        · have set := settled.cancelled late_job member
          obtain rfl := Option.some.inj ended
          rcases timely stops (by simp [set]) late_job (settled.known late_job member) with submitted | ⟨_, collected⟩
          · exact absurd submitted (settled.unsubmitted late_job member)
          · exact taken.shows_cancelled member (by rw [List.map_append]; exact List.mem_append_left _ collected)
      · split
        · next all =>
          refine { taken with reported := fun late_job member outcome ended => ?_ }
          obtain rfl := Option.some.inj ended
          exact taken.shows_cancelled member (taken.collected_of_length all (settled.known late_job member))
        · exact taken
  · exact settled

theorem Settled.set_cancel (settled : b.Settled late) : (b.step .set_cancel).Settled late := by
  refine { settled with cancelled := fun job member => ?_ }
  show b.cancel.map (fun _ => true) = some true
  rw [settled.cancelled job member]
  rfl

/-- Late jobs stay unsubmitted, and are reported. -/
theorem Settled.step (settled : b.Settled late) {a : BatchStep} (timely : b.Timely a) : (b.step a).Settled late := by
  cases a with
  | run job => exact (settled._run_one job).toSettled
  | submit_ends job answer => exact (settled.submit_ends job answer).toSettled
  | wait_ends job answer => exact (settled.wait_ends job answer).toSettled
  | sleep_ends job => exact (settled.sleep_ends job).toSettled
  | set_cancel => exact settled.set_cancel
  | collect progress => exact settled.collect timely

/-! ## Runs -/

variable (b) in
/-- Unsubmitted jobs of a batch whose event is set. -/
def Late (job : Nat) : Prop := b.cancel = some true ∧ job < b.jobs.length ∧ job ∉ b.submitted

theorem Turn.settled_late (turn : b.Turn start.Late start) : b.Settled b.Late := by
  refine turn.toSettled.mono fun job ⟨set, known, unsubmitted⟩ => ⟨turn.same_cancel ▸ set, turn.same_jobs ▸ known, ?_⟩
  exact fun submitted => unsubmitted (turn.grown submitted)

theorem late_of_collect {progress : Except String Unit} (timely : b.Timely (.collect progress)) (member : (b.collect progress).Late job) :
    b.Late job := by
  unfold BatchRun.collect at member
  unfold Timely at timely
  split at member
  · next running found =>
    simp only [running, found] at timely
    simp only at member
    split at member
    · exact member
    · split at member
      · next stops =>
        -- the failure sets the event, but then no job is unsubmitted
        obtain ⟨set, known, unsubmitted⟩ := member
        have passed : b.cancel ≠ none := by
          intro none
          simp [return_result, none] at set
        rcases timely stops passed job known with submitted | ⟨already, _⟩
        · exact absurd submitted unsubmitted
        · exact ⟨already, known, unsubmitted⟩
      · split at member
        · exact member
        · exact member
  · exact member

theorem settled_late_set_cancel (settled : b.Settled b.Late) (timely : b.Timely .set_cancel) :
    (b.step .set_cancel).Settled (b.step .set_cancel).Late := by
  by_cases unset : b.cancel = some false
  · have fresh := timely unset
    refine { settled with cancelled := ?_, unsubmitted := ?_, idle := ?_, known := ?_, reported := ?_ }
    · exact fun job late => late.1
    · exact fun job late => late.2.2
    · intro job late task found
      obtain rfl := Option.some.inj ((fresh job late.2.1 late.2.2).1.symm.trans found)
      trivial
    · exact fun job late => late.2.1
    · intro job late outcome ended
      have running : b.outcome = none := (fresh job late.2.1 late.2.2).2
      exact absurd (running.symm.trans ended) (by simp)
  · refine settled.set_cancel.mono fun job late => ⟨?_, late.2⟩
    have set : b.cancel.map (fun _ => true) = some true := late.1
    obtain ⟨flag, passed, _⟩ := Option.map_eq_some_iff.mp set
    cases flag with
    | false => exact absurd passed unset
    | true => exact passed

theorem settled_late_step (settled : b.Settled b.Late) {a : BatchStep} (timely : b.Timely a) : (b.step a).Settled (b.step a).Late := by
  cases a with
  | run job => exact (settled._run_one job).settled_late
  | submit_ends job answer => exact (settled.submit_ends job answer).settled_late
  | wait_ends job answer => exact (settled.wait_ends job answer).settled_late
  | sleep_ends job => exact (settled.sleep_ends job).settled_late
  | set_cancel => exact settled_late_set_cancel settled timely
  | collect progress => exact (settled.collect timely).mono fun job late => late_of_collect timely late

theorem settled_process {config : BatchConfig} {jobs : List κ} {cancel : Option Bool} (started : config.process jobs cancel = .ok b) :
    b.Settled b.Late := by
  unfold BatchConfig.process at started
  split at started
  · cases started
  · obtain rfl := Except.ok.inj started
    have start : BatchRun.Settled (κ := κ) { config, jobs, cancel, _value := config.max_parallel.toNat }
        fun job => cancel = some true ∧ job < jobs.length := by
      constructor
      · simp
      · simp
      · simp
      · exact fun job late => late.1
      · simp
      · intro job late task found
        obtain ⟨_, _, rfl⟩ := List.mem_map.mp (List.mem_of_getElem? found)
        trivial
      · exact fun job late => late.2
      · simp
    split
    · next none =>
      have nothing_late (job : Nat) (late : cancel = some true ∧ job < jobs.length) : False := by simp [none] at late
      refine { start.mono fun job late => ⟨late.1, late.2.1⟩ with reported := fun job late => ?_ }
      exact (nothing_late job ⟨late.1, late.2.1⟩).elim
    · exact start.mono fun job late => ⟨late.1, late.2.1⟩

/-- No job that `b` has not submitted is submitted later, and what `process` comes to shows
    each of them as cancelled. -/
def Honoured (b later : BatchRun κ) : Prop := ∀ job < b.jobs.length, job ∉ b.submitted →
  job ∉ later.submitted ∧ ∀ outcome, later.outcome = some outcome → ShowsCancelled outcome job

/-- In a run that sets the event in time, cancellation is honoured from any moment at
    which the event is set to any later one. -/
theorem cancellation_honoured {config : BatchConfig} {jobs : List κ} {cancel : Option Bool} {start : BatchRun κ}
    (started : config.process jobs cancel = .ok start) (before after : List BatchStep) (timely : Along step Timely start (before ++ after))
    (set : (before.foldl step start).cancel = some true) :
    Honoured (before.foldl step start) ((before ++ after).foldl step start) := by
  obtain ⟨timely_before, timely_after⟩ := along_append.mp timely
  have until_set (b : BatchRun κ) (a : BatchStep) (settled : b.Settled b.Late) (timely : b.Timely a) := settled_late_step settled timely
  have at_set : (before.foldl step start).Settled (before.foldl step start).Late := foldl_keeps until_set (settled_process started) timely_before
  have from_set (b : BatchRun κ) (a : BatchStep) (settled : b.Settled (before.foldl step start).Late) (timely : b.Timely a) := settled.step timely
  have at_end := foldl_keeps from_set at_set timely_after
  intro job known unsubmitted
  rw [List.foldl_append]
  have late : (before.foldl step start).Late job := ⟨set, known, unsubmitted⟩
  exact ⟨at_end.unsubmitted job late, at_end.reported job late⟩

/-- A task with a permit submits its job, whether the event is set or not. -/
theorem submitted_of_woken {b : BatchRun κ} {job : Nat} (found : b.tasks[job]? = some .woken) (tries : 0 ≤ b.config.retry_count) :
    job ∈ (b.step (.run job)).submitted := by
  have in_range (b' : BatchRun κ) (same : b'.config = b.config) : job ∈ (b'._run_with_retry job 0 none).submitted := by
    have tried : ((0 : Nat) : Int) < b'.config.retry_count + 1 := by
      rw [same]
      omega
    rw [_run_with_retry, if_pos tried]
    exact List.mem_append_right _ (List.mem_singleton_self job)
  simp only [step, _run_one, found]
  split
  · refine in_range _ ?_
    unfold _wake_up_next
    split
    · rfl
    · rfl
  · exact in_range _ rfl

/-- Two jobs and one permit: the event is set while the second job waits for it. -/
def set_while_waiting : List BatchStep :=
  [.run 0, .run 1, .set_cancel, .submit_ends 0 (.returned "job-0"), .wait_ends 0 (.returned ⟨"job-0", .COMPLETED, [], "", none⟩), .run 1]

def one_permit : BatchRun String :=
  { config := { max_parallel := 1 }, jobs := ["model_0.rvt", "model_1.rvt"], cancel := some false, _value := 1 }

/-- The second job is submitted after the event was set. -/
theorem cancellation_not_honoured : BatchConfig.process { max_parallel := 1 } ["model_0.rvt", "model_1.rvt"] (some false) = .ok one_permit ∧
    ((set_while_waiting.take 3).foldl step one_permit).cancel = some true ∧
    ¬Honoured ((set_while_waiting.take 3).foldl step one_permit) (set_while_waiting.foldl step one_permit) := by
  refine ⟨rfl, rfl, fun honoured => ?_⟩
  exact (honoured 1 (by decide) (by decide)).1 (by decide)

/-- The event is set while the first job runs and before the second task begins. -/
theorem cancellation_honoured_early : Honoured (([.run 0, .set_cancel] : List BatchStep).foldl step one_permit)
    (([.run 0, .set_cancel] ++ [.run 1, .submit_ends 0 (.returned "job-0"),
      .wait_ends 0 (.returned ⟨"job-0", .COMPLETED, [], "", none⟩), .collect (.ok ()), .collect (.ok ())] : List BatchStep).foldl step one_permit) := by
  have started : BatchConfig.process { max_parallel := 1 } ["model_0.rvt", "model_1.rvt"] (some false) = .ok one_permit := rfl
  refine cancellation_honoured started _ _ ⟨trivial, fun _ job known unsubmitted => ?_, trivial, trivial, trivial, ?_, ?_, trivial⟩ rfl
  · cases job with
    | zero => exact absurd (show 0 ∈ [0] from List.mem_singleton_self 0) unsubmitted
    | succ n =>
      obtain rfl : n = 0 := by
        have bound : n + 1 < 2 := known
        omega
      exact ⟨rfl, rfl⟩
  · exact fun stops => absurd stops (by decide)
  · exact fun stops => absurd stops (by decide)

end BatchRun
end RevitPy
