import RevitPy.BatchCancellation
import RevitPy.WorkItems

/-!
# What a batch counts

Every job of a batch that runs to its end has one result, whose status is one in which a work item ends.
Of these statuses there are four, and three of them are counted.
-/

namespace RevitPy
open Runs

/-- A task that has not finished, or whose result is counted. -/
def JobTask.Counts : JobTask → Prop
  | .finished result => result.status = .COMPLETED ∨ result.status = .FAILED ∨ result.status = .CANCELLED
  | _ => True

namespace BatchRun
variable {κ : Type} (b : BatchRun κ)

/-- The results of the tasks that have finished. -/
def entries : List (Nat × JobResult) := b.results ++ b.done

/-- What `process` returns is what it has collected, a result for each job. -/
def Reported : Prop := ∀ report, b.outcome = some (.ok report) → report = b.batch_result ∧ b.results.length = b.jobs.length

variable {b} {b' : BatchRun κ} {job : Nat} {task : JobTask}

theorem Went.entries (went : b.Went job task b') : b'.entries = b.entries ++ task.results job := by
  rw [BatchRun.entries, went.results, went.done, ← List.append_assoc]
  rfl

theorem Went.reported (went : b.Went job task b') (reported : b.Reported) : b'.Reported := by
  intro report ended
  obtain ⟨rfl, all⟩ := reported report (went.outcome ▸ ended)
  unfold batch_result count
  rw [went.results, went.jobs]
  exact ⟨rfl, all⟩

/-! ## Collection -/

/-- Collection takes a result from those that are done, and adds it to the collected ones. -/
theorem collect_entries (b : BatchRun κ) (progress : Except String Unit) : (b.collect progress).entries = b.entries := by
  unfold BatchRun.collect
  split
  · next job result rest _ found =>
    have moved : b.results ++ [(job, result)] ++ rest = b.results ++ b.done := by rw [found, List.append_assoc, List.singleton_append]
    simp only
    split
    · exact moved
    · split
      · exact moved
      · split
        · exact moved
        · exact moved
  · rfl

theorem settled_collect (settled : b.Settled fun _ => False) (progress : Except String Unit) : (b.collect progress).Settled fun _ => False := by
  obtain ⟨tasks, jobs, -, -⟩ := b.collect_tasks progress
  constructor
  · rw [tasks, jobs]
    exact settled.length
  · have same := b.collect_entries progress
    unfold BatchRun.entries at same
    rw [same]
    exact settled.distinct
  · have same := b.collect_entries progress
    unfold BatchRun.entries at same
    rw [same, tasks]
    exact settled.finished
  all_goals exact fun _ none => none.elim

/-- No failure ends the collection where errors are passed over. -/
theorem collect_reported (goes_on : b.config.continue_on_error = true) (reported : b.Reported) (progress : Except String Unit) :
    (b.collect progress).Reported := by
  unfold BatchRun.collect
  split
  · next job result rest running _ =>
    simp only
    split
    · intro report ended
      cases ended
    · split
      · next stops => simp [stops_at, goes_on] at stops
      · split
        · next all =>
          intro report ended
          exact ⟨(Except.ok.inj (Option.some.inj ended)).symm, all⟩
        · intro report ended
          exact absurd (running.symm.trans ended) (by simp)
  · exact reported

/-- What a batch that passes over errors keeps. -/
structure Recorded (jobs : List κ) (b : BatchRun κ) : Prop where
  same_jobs : b.jobs = jobs
  goes_on : b.config.continue_on_error = true
  settled : b.Settled fun _ => False
  reported : b.Reported

theorem settled_step (settled : b.Settled fun _ => False) (a : BatchStep) : (b.step a).Settled fun _ => False := by
  cases a with
  | run job => exact (settled._run_one job).toSettled
  | submit_ends job answer => exact (settled.submit_ends job answer).toSettled
  | wait_ends job answer => exact (settled.wait_ends job answer).toSettled
  | sleep_ends job => exact (settled.sleep_ends job).toSettled
  | set_cancel => exact settled.set_cancel
  | collect progress => exact settled_collect settled progress

theorem Recorded.step {jobs : List κ} (recorded : b.Recorded jobs) (a : BatchStep) : (b.step a).Recorded jobs := by
  have settled := settled_step recorded.settled a
  by_cases collects : ∃ progress, a = .collect progress
  · obtain ⟨progress, rfl⟩ := collects
    obtain ⟨-, same_jobs, config, -⟩ := b.collect_tasks progress
    exact ⟨same_jobs.trans recorded.same_jobs, (congrArg BatchConfig.continue_on_error config).trans recorded.goes_on, settled,
      collect_reported recorded.goes_on recorded.reported progress⟩
  · by_cases sets : a = .set_cancel
    · subst sets
      exact ⟨recorded.same_jobs, recorded.goes_on, settled, recorded.reported⟩
    · rcases b.task_turn sets fun progress same => collects ⟨progress, same⟩ with same | ⟨_, _, went⟩
      · rw [same]
        exact recorded
      · exact ⟨went.jobs.trans recorded.same_jobs, (congrArg BatchConfig.continue_on_error went.config).trans recorded.goes_on, settled,
          went.reported recorded.reported⟩

theorem recorded_process {config : BatchConfig} (goes_on : config.continue_on_error = true) {jobs : List κ} {cancel : Option Bool}
    (started : config.process jobs cancel = .ok b) : b.Recorded jobs ∧ b.entries = [] := by
  have settled : b.Settled fun _ => False := (settled_process started).mono fun _ none => none.elim
  unfold BatchConfig.process at started
  split at started
  · cases started
  · have start := Except.ok.inj started
    split at start
    · next empty =>
      subst start
      refine ⟨⟨rfl, goes_on, settled, fun report ended => ?_⟩, rfl⟩
      exact ⟨(Except.ok.inj (Option.some.inj ended)).symm, by simp [return_result, empty]⟩
    · subst start
      exact ⟨⟨rfl, goes_on, settled, fun report ended => by cases ended⟩, rfl⟩

/-- There are no more results than jobs. -/
theorem Settled.entries_le {late : Nat → Prop} (settled : b.Settled late) : b.entries.length ≤ b.jobs.length := by
  have within : b.entries.map Prod.fst ⊆ List.range b.jobs.length := by
    intro other member
    obtain ⟨entry, collected, rfl⟩ := List.mem_map.mp member
    obtain ⟨bound, _⟩ := List.getElem?_eq_some_iff.mp (settled.finished entry collected)
    rw [settled.length] at bound
    exact List.mem_range.mpr bound
  have fewer := (List.subperm_of_subset settled.distinct within).length_le
  rwa [List.length_range, List.length_map] at fewer

/-! ## Counting -/

/-- The counters and the results that time out make up all results, when each of them has ended. -/
theorem counts (results : List (Nat × JobResult)) (ended : ∀ entry ∈ results, entry.2.status.terminal = true) :
    (results.countP fun entry => entry.2.status = .COMPLETED) + (results.countP fun entry => entry.2.status = .FAILED) +
      (results.countP fun entry => entry.2.status = .CANCELLED) + (results.countP fun entry => entry.2.status = .TIMED_OUT) = results.length := by
  induction results with
  | nil => rfl
  | cons entry rest ih =>
    have others := ih fun other member => ended other (List.mem_cons_of_mem _ member)
    have this : entry.2.status.terminal = true := ended entry List.mem_cons_self
    simp only [List.countP_cons, List.length_cons]
    cases status : entry.2.status
    all_goals simp [status, JobStatus.terminal] at this ⊢
    all_goals omega

end BatchRun

namespace CloudBatch
open BatchRun

/-- No poll of a work item that a task waits for finds that it has timed out on the service. -/
def Untimed (s : CloudBatch) : CloudStep → Prop
  | .poll job false none => ∀ attempt job_id, s.batch.tasks[job]? = some (.executing attempt job_id) → (s.service job_id).parsed ≠ .TIMED_OUT
  | _ => True

/-- The results that a step adds: each has ended, and one of them has timed out if a poll finds so. -/
structure Added (s : CloudBatch) (a : CloudStep) (added : List (Nat × JobResult)) : Prop where
  entries : (s.step a).batch.entries = s.batch.entries ++ added
  ended : ∀ entry ∈ added, entry.2.status.terminal = true
  timed_out : (∃ entry ∈ added, entry.2.status = .TIMED_OUT) ↔ ¬s.Untimed a

variable {s : CloudBatch} {a : CloudStep} {job : Nat} {task : JobTask}

theorem added_none (same : (s.step a).batch.entries = s.batch.entries) (untimed : s.Untimed a) : s.Added a [] where
  entries := same.trans (List.append_nil _).symm
  ended := fun entry member => by cases member
  timed_out := by simp [untimed]

theorem added_went (went : s.batch.Went job task (s.step a).batch) (untimed : s.Untimed a) (counts : task.Counts) :
    ∃ added, s.Added a added := by
  refine ⟨task.results job, went.entries, ?_, ?_⟩
  · intro entry member
    cases task with
    | finished result =>
      obtain rfl := List.mem_singleton.mp member
      rcases counts with status | status | status <;> simp [status, JobStatus.terminal]
    | _ => cases member
  · refine iff_of_false ?_ (not_not_intro untimed)
    rintro ⟨entry, member, status⟩
    cases task with
    | finished result =>
      obtain rfl := List.mem_singleton.mp member
      have timed : result.status = .TIMED_OUT := status
      simp [JobTask.Counts, timed] at counts
    | _ => cases member

/-- A poll that does not end the wait of a task with a result finds no work item that timed out. -/
theorem untimed_of_unreturned {expired : Bool} {failure : Option String} (unreturned : ∀ attempt job_id,
    s.batch.tasks[job]? = some (.executing attempt job_id) → ∃ config, ∀ result,
      wait_for_completion job_id config expired failure (s.service job_id) ≠ some (.returned result)) :
    s.Untimed (.poll job expired failure) := by
  cases expired with
  | true => trivial
  | false =>
    cases failure with
    | some e => trivial
    | none =>
      intro attempt job_id found timed
      obtain ⟨config, never⟩ := unreturned attempt job_id found
      obtain ⟨result, answered⟩ := wait_for_completion_timed_out timed job_id config
      exact never result answered

theorem added_poll {jobs : List JobConfig} (recorded : s.batch.Recorded jobs) (job : Nat) (expired : Bool) (failure : Option String) :
    ∃ added, s.Added (.poll job expired failure) added := by
  rcases s.poll_cases job expired failure with ⟨same, waits⟩ | ⟨attempt, job_id, config, answer, found, _, answered, polled⟩
  · refine ⟨[], added_none (congrArg (fun s => s.batch.entries) same) (untimed_of_unreturned fun attempt job_id found => ?_)⟩
    obtain ⟨bound, _⟩ := List.getElem?_eq_some_iff.mp found
    rw [recorded.settled.length] at bound
    have nothing := waits attempt job_id _ found (List.getElem?_eq_getElem bound)
    exact ⟨_, fun result returned => by rw [nothing] at returned; cases returned⟩
  · have batch : (s.step (.poll job expired failure)).batch = s.batch.wait_ends job answer := congrArg CloudBatch.batch polled
    obtain ⟨task, went, place⟩ := BatchRun.wait_turn found answer
    rw [← batch] at went
    have untimed (unreturned : ∀ result, answer ≠ .returned result) : s.Untimed (.poll job expired failure) := by
      refine untimed_of_unreturned fun attempt' job_id' found' => ⟨config, fun result returned => ?_⟩
      cases found.symm.trans found'
      exact unreturned result (Option.some.inj (answered.symm.trans returned))
    rcases place with ⟨result, rfl, rfl⟩ | ⟨message, rfl, _, rfl⟩ | ⟨unreturned, result, rfl, failed⟩
    · obtain ⟨rfl, rfl, status, ended, unfailed⟩ := wait_for_completion_returned answered
      by_cases timed : (s.service job_id).parsed = .TIMED_OUT
      · refine ⟨[(job, result)], went.entries, ?_, iff_of_true ⟨_, List.mem_singleton_self _, status.trans timed⟩ ?_⟩
        · intro entry member
          rw [List.mem_singleton.mp member, status]
          exact ended
        · exact fun untimed => untimed attempt job_id found timed
      · refine added_went went (fun attempt' job_id' found' => ?_) ?_
        · cases found.symm.trans found'
          exact timed
        · show result.status = .COMPLETED ∨ result.status = .FAILED ∨ result.status = .CANCELLED
          rw [status]
          cases parsed : (s.service job_id).parsed <;> simp [parsed, JobStatus.terminal] at ended unfailed timed ⊢
    · exact added_went went (untimed fun _ same => by cases same) trivial
    · exact added_went went (untimed unreturned) (.inr (.inl failed))

theorem added_step {jobs : List JobConfig} (recorded : s.batch.Recorded jobs) (a : CloudStep) : ∃ added, s.Added a added := by
  cases a with
  | run job =>
    rcases s.batch.run_turn job with same | ⟨_, task, _, went, _, place⟩
    · exact ⟨[], added_none (congrArg BatchRun.entries same) trivial⟩
    · refine added_went went trivial ?_
      rcases place with rfl | rfl | ⟨_, rfl, status⟩
      · trivial
      · trivial
      · exact .inr status
  | submit_ends job response =>
    rcases s.submit_cases job response with same | ⟨attempt, config, found, _, batch, _⟩
    · exact ⟨[], added_none (congrArg (fun s => s.batch.entries) same) trivial⟩
    · obtain ⟨task, went, place⟩ := BatchRun.submit_turn found (submit config response)
      rw [← batch] at went
      refine added_went went trivial ?_
      rcases place with ⟨_, _, rfl⟩ | ⟨_, ⟨_, _, rfl⟩ | ⟨_, rfl, failed⟩⟩
      · trivial
      · trivial
      · exact .inr (.inl failed)
  | poll job expired failure => exact added_poll recorded job expired failure
  | sleep_ends job =>
    rcases s.batch.sleep_turn job with ⟨same, _⟩ | ⟨_, _, task, _, went, ⟨_, rfl⟩ | ⟨_, _, rfl, failed⟩⟩
    · exact ⟨[], added_none (congrArg BatchRun.entries same) trivial⟩
    · exact added_went went trivial trivial
    · exact added_went went trivial (.inr (.inl failed))
  | set_cancel => exact ⟨[], added_none rfl trivial⟩
  | collect progress => exact ⟨[], added_none (s.batch.collect_entries progress) trivial⟩
  | change job_id item => exact ⟨[], added_none (congrArg BatchRun.entries (s.change_batch job_id item)) trivial⟩
  | cancel job_id taken => exact ⟨[], added_none (congrArg BatchRun.entries (s.cancel_batch job_id taken)) trivial⟩

theorem recorded_step {jobs : List JobConfig} (recorded : s.batch.Recorded jobs) (a : CloudStep) : (s.step a).batch.Recorded jobs := by
  rcases s.batch_step a with same | ⟨step, stepped⟩
  · rw [same]
    exact recorded
  · rw [stepped]
    exact recorded.step step

/-- A run records results that have ended, and one of them has timed out if a poll of the run finds so. -/
theorem recorded_run (steps : List CloudStep) {s : CloudBatch} {jobs : List JobConfig} (recorded : s.batch.Recorded jobs)
    (ended : ∀ entry ∈ s.batch.entries, entry.2.status.terminal = true) :
    (steps.foldl step s).batch.Recorded jobs ∧ (∀ entry ∈ (steps.foldl step s).batch.entries, entry.2.status.terminal = true) ∧
      ((∃ entry ∈ (steps.foldl step s).batch.entries, entry.2.status = .TIMED_OUT) ↔
        (∃ entry ∈ s.batch.entries, entry.2.status = .TIMED_OUT) ∨ ¬Along step Untimed s steps) := by
  induction steps generalizing s with
  | nil => exact ⟨recorded, ended, by simp [Along]⟩
  | cons a rest ih =>
    obtain ⟨added, grows⟩ := added_step recorded a
    have ended_now : ∀ entry ∈ (s.step a).batch.entries, entry.2.status.terminal = true := by
      intro entry member
      rw [grows.entries] at member
      rcases List.mem_append.mp member with earlier | now
      · exact ended entry earlier
      · exact grows.ended entry now
    obtain ⟨later, ended_later, timed_out⟩ := ih (recorded_step recorded a) ended_now
    refine ⟨later, ended_later, timed_out.trans ?_⟩
    have either : (∃ entry ∈ (s.step a).batch.entries, entry.2.status = .TIMED_OUT) ↔
        (∃ entry ∈ s.batch.entries, entry.2.status = .TIMED_OUT) ∨ ¬s.Untimed a := by
      rw [grows.entries, ← grows.timed_out]
      simp only [List.mem_append, or_and_right, exists_or]
    rw [either, or_assoc, Along, not_and_or]

/-- The numbers of a batch that runs to its end add up to the number of its jobs as long as no work item
    that a task waits for is found to have timed out on the service, and only then. -/
theorem adds_up_iff {config : BatchConfig} (goes_on : config.continue_on_error = true) {jobs : List JobConfig} {cancel : Option Bool}
    {start : BatchRun JobConfig} (started : config.process jobs cancel = .ok start) (service : String → WorkItem) (steps : List CloudStep)
    {report : BatchResult} (returned : (steps.foldl step ⟨start, service, [], []⟩).batch.outcome = some (.ok report)) :
    report.total_jobs = jobs.length ∧ report.results.length = report.total_jobs ∧
      (report.completed + report.failed + report.cancelled = report.total_jobs ↔ Along step Untimed ⟨start, service, [], []⟩ steps) := by
  obtain ⟨recorded, nothing⟩ := recorded_process goes_on started
  have ended : ∀ entry ∈ start.entries, entry.2.status.terminal = true := by simp [nothing]
  obtain ⟨last, ended_last, timed_out⟩ := recorded_run (s := ⟨start, service, [], []⟩) steps recorded ended
  obtain ⟨rfl, all⟩ := last.reported report returned
  generalize (steps.foldl step ⟨start, service, [], []⟩).batch = b at last ended_last timed_out all ⊢
  -- as many results as there are jobs are the results of all finished tasks
  have collected : b.entries = b.results := by
    have fewer := last.settled.entries_le
    unfold BatchRun.entries at fewer ⊢
    rw [List.length_append, all] at fewer
    have none_left : b.done = [] := List.length_eq_zero_iff.mp (by omega)
    rw [none_left, List.append_nil]
  rw [collected] at ended_last timed_out
  have counted : b.count .COMPLETED + b.count .FAILED + b.count .CANCELLED + b.count .TIMED_OUT = b.results.length :=
    BatchRun.counts b.results ended_last
  refine ⟨congrArg List.length last.same_jobs, all, ?_⟩
  show b.count .COMPLETED + b.count .FAILED + b.count .CANCELLED = b.jobs.length ↔ _
  have uncounted : b.count .TIMED_OUT = 0 ↔ ¬∃ entry ∈ b.results, entry.2.status = .TIMED_OUT := by
    simp [BatchRun.count, List.countP_eq_zero]
  have untimed : (¬∃ entry ∈ b.results, entry.2.status = .TIMED_OUT) ↔ Along step Untimed ⟨start, service, [], []⟩ steps := by
    rw [timed_out]
    have unfinished : ¬∃ entry ∈ start.entries, entry.2.status = .TIMED_OUT := by simp [nothing]
    simp [unfinished]
  rw [← untimed, ← uncounted, ← all]
  omega

def one_job : BatchRun JobConfig := { config := {}, jobs := [⟨"RevitPy.Validate+prod", "600.0"⟩], cancel := none, _value := 5 }

/-- The job is submitted, its work item comes to a status, and the job's task and `process` go on. -/
def ends_as (status : String) : List CloudStep :=
  [.run 0, .submit_ends 0 (.ok (some "a")), .change "a" { status := some status }, .poll 0 false none, .collect (.ok ())]

def ended_as (status : JobStatus) (completed : Nat) : BatchResult := ⟨1, completed, 0, 0, [(0, ⟨"a", status, [], "", none⟩)]⟩

theorem completed_counted : (ended_as .COMPLETED 1).total_jobs = 1 ∧ (ended_as .COMPLETED 1).results.length = (ended_as .COMPLETED 1).total_jobs ∧
    ((ended_as .COMPLETED 1).completed + (ended_as .COMPLETED 1).failed + (ended_as .COMPLETED 1).cancelled =
        (ended_as .COMPLETED 1).total_jobs ↔
      Along step Untimed ⟨one_job, fun _ => {}, [], []⟩ (ends_as "completed")) :=
  @adds_up_iff {} rfl one_job.jobs none one_job rfl (fun _ => {}) (ends_as "completed") _ rfl

/-- A job of which the service says that it timed out has a result, and is not counted. -/
theorem timed_out_uncounted : BatchConfig.process {} one_job.jobs none = .ok one_job ∧
    ((ends_as "timed_out").foldl step ⟨one_job, fun _ => {}, [], []⟩).batch.outcome = some (.ok (ended_as .TIMED_OUT 0)) ∧
    (ended_as .TIMED_OUT 0).results.length = (ended_as .TIMED_OUT 0).total_jobs ∧
    (ended_as .TIMED_OUT 0).completed + (ended_as .TIMED_OUT 0).failed + (ended_as .TIMED_OUT 0).cancelled ≠
      (ended_as .TIMED_OUT 0).total_jobs := by
  refine ⟨rfl, rfl, rfl, by decide⟩

end CloudBatch
end RevitPy
