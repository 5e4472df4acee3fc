import RevitPy.BatchConservation

/-!
# Live work items

A task submits its job again after a failure of its work item, or once the timeout for it has passed. In
the first case the work item has ended; in the second it has not been looked at since.
-/

namespace RevitPy
open Runs

/-- A work item that goes on: it has not ended on the service, and was not cancelled. -/
def WorkItem.Live (item : WorkItem) : Prop := item.parsed.terminal = false ∧ item.cancelled = false

/-- A task that has not called `submit`. -/
def JobTask.Unbegun : JobTask → Prop
  | .created | .waiting | .woken => True
  | _ => False

/-- A task between its first call of `submit` and its end. -/
def JobTask.Begun : JobTask → Prop
  | .submitting _ | .executing _ _ | .sleeping _ _ => True
  | _ => False

namespace CloudBatch
open BatchRun

/-- A step submits a job for which `submit` was called before. -/
def Resubmits (s : CloudBatch) (a : CloudStep) (job : Nat) : Prop :=
  (s.step a).batch.submitted = s.batch.submitted ++ [job] ∧ job ∈ s.batch.submitted

/-- No job is submitted again while one of its work items goes on. -/
def OneLive (s : CloudBatch) (a : CloudStep) : Prop :=
  ∀ job, s.Resubmits a job → ∀ job_id, (job, job_id) ∈ s.submissions → ¬(s.service job_id).Live

/-- When the sleep of a task ends, no work item goes on for which it waited until the timeout had passed. -/
def Outwaited (s : CloudBatch) : CloudStep → Prop
  | .sleep_ends job => (∃ attempt last_error, s.batch.tasks[job]? = some (.sleeping attempt last_error)) →
      ∀ job_id, (job, job_id) ∈ s.abandoned → ¬(s.service job_id).Live
  | _ => True

/-- What is known of a work item that `submit` returned: its job has a result, or its task still waits for
    the work item, or has waited until the timeout had passed, or the work item has ended. -/
def Known (s : CloudBatch) (job : Nat) (job_id : String) : Prop :=
  (∃ result, s.batch.tasks[job]? = some (.finished result)) ∨ (∃ attempt, s.batch.tasks[job]? = some (.executing attempt job_id)) ∨
    (job, job_id) ∈ s.abandoned ∨ (s.service job_id).parsed.terminal = true

structure Tracked (s : CloudBatch) : Prop where
  unbegun : ∀ (job : Nat) task, s.batch.tasks[job]? = some task → task.Unbegun → job ∉ s.batch.submitted
  begun : ∀ (job : Nat) task, s.batch.tasks[job]? = some task → task.Begun → job ∈ s.batch.submitted
  tried : ∀ (job attempt : Nat) last_error, s.batch.tasks[job]? = some (.sleeping attempt last_error) → (attempt : Int) < s.batch.config.retry_count
  awaited : ∀ (job attempt : Nat) job_id, s.batch.tasks[job]? = some (.executing attempt job_id) → (job, job_id) ∈ s.submissions
  known : ∀ job job_id, (job, job_id) ∈ s.submissions → s.Known job job_id
  abandoned : ∀ entry ∈ s.abandoned, entry ∈ s.submissions

variable {s s' : CloudBatch} {job : Nat} {old task : JobTask}

/-- A work item of a task that waits for none: the task has given it up, or it has ended. -/
theorem Tracked.given_up_or_ended (tracked : s.Tracked) (found : s.batch.tasks[job]? = some old) (going_on : ∀ result, old ≠ .finished result) {job_id : String}
    (waits : ∀ attempt, old ≠ .executing attempt job_id) (member : (job, job_id) ∈ s.submissions) :
    (job, job_id) ∈ s.abandoned ∨ (s.service job_id).parsed.terminal = true := by
  rcases tracked.known job job_id member with ⟨result, finished⟩ | ⟨attempt, executing⟩ | ended
  · exact absurd (Option.some.inj (found.symm.trans finished)) (going_on result)
  · exact absurd (Option.some.inj (found.symm.trans executing)) (waits attempt)
  · exact ended

/-- Steps that leave the tasks alone. -/
theorem Tracked.same (tracked : s.Tracked) (tasks : s'.batch.tasks = s.batch.tasks) (config : s'.batch.config = s.batch.config)
    (submitted : s'.batch.submitted = s.batch.submitted) (submissions : s'.submissions = s.submissions) (abandoned : s'.abandoned = s.abandoned)
    (ended : ∀ job_id, (s.service job_id).parsed.terminal = true → (s'.service job_id).parsed.terminal = true) : s'.Tracked := by
  constructor
  · rw [tasks, submitted]
    exact tracked.unbegun
  · rw [tasks, submitted]
    exact tracked.begun
  · rw [tasks, config]
    exact tracked.tried
  · rw [tasks, submissions]
    exact tracked.awaited
  · rw [submissions]
    intro job job_id member
    unfold Known
    rw [tasks, abandoned]
    rcases tracked.known job job_id member with finished | executing | given_up | stopped
    · exact .inl finished
    · exact .inr (.inl executing)
    · exact .inr (.inr (.inl given_up))
    · exact .inr (.inr (.inr (ended job_id stopped)))
  · rw [abandoned, submissions]
    exact tracked.abandoned

/-- Steps of the service and of other code. -/
theorem Tracked.same_batch (tracked : s.Tracked) (batch : s'.batch = s.batch) (submissions : s'.submissions = s.submissions)
    (abandoned : s'.abandoned = s.abandoned)
    (ended : ∀ job_id, (s.service job_id).parsed.terminal = true → (s'.service job_id).parsed.terminal = true) : s'.Tracked :=
  tracked.same (by rw [batch]) (by rw [batch]) (by rw [batch]) submissions abandoned ended

/-- A step in which a task goes on. -/
structure Progress (s s' : CloudBatch) (job : Nat) (old task : JobTask) : Prop where
  found : s.batch.tasks[job]? = some old
  went : s.batch.Went job task s'.batch
  service : s'.service = s.service
  submissions : s.submissions ⊆ s'.submissions
  own : ∀ entry ∈ s'.submissions, entry ∈ s.submissions ∨ entry.1 = job
  abandoned : s.abandoned ⊆ s'.abandoned

section
variable (progress : s.Progress s' job old task)
include progress

theorem Progress.others {other : Nat} (different : other ≠ job) {place : JobTask} (found : s'.batch.tasks[other]? = some place) :
    s.batch.tasks[other]? = some place ∨ s.batch.tasks[other]? = some .waiting ∧ place = .woken := by
  rcases progress.went.others other different with same | ⟨waits, woken⟩
  · exact .inl (same.symm.trans found)
  · exact .inr ⟨waits, Option.some.inj (found.symm.trans woken)⟩

theorem Progress.kept {other : Nat} (different : other ≠ job) {place : JobTask} (settled : place ≠ .waiting)
    (found : s.batch.tasks[other]? = some place) : s'.batch.tasks[other]? = some place := by
  rcases progress.went.others other different with same | ⟨waits, _⟩
  · exact same.trans found
  · exact absurd (Option.some.inj (found.symm.trans waits)) settled

theorem Progress.submitted {other : Nat} (member : other ∈ s.batch.submitted) : other ∈ s'.batch.submitted := by
  rw [progress.went.submitted]
  exact List.mem_append_left _ member

theorem Progress.not_submitted {other : Nat} (different : other ≠ job) (never : other ∉ s.batch.submitted) : other ∉ s'.batch.submitted := by
  rw [progress.went.submitted]
  intro member
  rcases List.mem_append.mp member with before | now
  · exact never before
  · cases task with
    | submitting attempt => exact different (List.mem_singleton.mp now)
    | _ => cases now

theorem Progress.submits {attempt : Nat} (submits : task = .submitting attempt) : job ∈ s'.batch.submitted := by
  rw [progress.went.submitted, submits]
  exact List.mem_append_right _ (List.mem_singleton_self job)

/-- A work item that the task had come over before it went on. -/
theorem Progress.known_over (tracked : s.Tracked) (going_on : ∀ result, old ≠ .finished result) {job_id : String}
    (waits : ∀ attempt, old ≠ .executing attempt job_id) (member : (job, job_id) ∈ s.submissions) : s'.Known job job_id := by
  rcases tracked.given_up_or_ended progress.found going_on waits member with given_up | ended
  · exact .inr (.inr (.inl (progress.abandoned given_up)))
  · unfold Known
    rw [progress.service]
    exact .inr (.inr (.inr ended))

/-- What is tracked stays tracked, if it is of the task that went on. -/
theorem Tracked.went (tracked : s.Tracked) (unbegun : task.Unbegun → old.Unbegun ∧ task.submissions job = [])
    (begun : task.Begun → job ∈ s'.batch.submitted)
    (tried : ∀ attempt last_error, task = .sleeping attempt last_error → (attempt : Int) < s.batch.config.retry_count)
    (awaited : ∀ attempt job_id, task = .executing attempt job_id → (job, job_id) ∈ s'.submissions)
    (known : ∀ job_id, (job, job_id) ∈ s'.submissions → s'.Known job job_id) (abandoned : ∀ entry ∈ s'.abandoned, entry ∈ s'.submissions) :
    s'.Tracked := by
  have own {place : JobTask} (found : s'.batch.tasks[job]? = some place) : place = task :=
    Option.some.inj (found.symm.trans progress.went.own)
  constructor
  · intro other place found fresh
    by_cases same : other = job
    · subst same
      obtain rfl := own found
      obtain ⟨fresh_before, none_now⟩ := unbegun fresh
      rw [progress.went.submitted, none_now, List.append_nil]
      exact tracked.unbegun other old progress.found fresh_before
    · refine progress.not_submitted same ?_
      rcases progress.others same found with before | ⟨waits, rfl⟩
      · exact tracked.unbegun other place before fresh
      · exact tracked.unbegun other .waiting waits trivial
  · intro other place found busy
    by_cases same : other = job
    · subst same
      obtain rfl := own found
      exact begun busy
    · rcases progress.others same found with before | ⟨_, rfl⟩
      · exact progress.submitted (tracked.begun other place before busy)
      · cases busy
  · intro other attempt last_error found
    rw [progress.went.config]
    by_cases same : other = job
    · subst same
      exact tried attempt last_error (own found).symm
    · rcases progress.others same found with before | ⟨_, wrong⟩
      · exact tracked.tried other attempt last_error before
      · cases wrong
  · intro other attempt job_id found
    by_cases same : other = job
    · subst same
      exact awaited attempt job_id (own found).symm
    · rcases progress.others same found with before | ⟨_, wrong⟩
      · exact progress.submissions (tracked.awaited other attempt job_id before)
      · cases wrong
  · intro other job_id member
    by_cases same : other = job
    · subst same
      exact known job_id member
    · have before : (other, job_id) ∈ s.submissions := (progress.own _ member).resolve_right same
      unfold Known
      rw [progress.service]
      rcases tracked.known other job_id before with ⟨result, finished⟩ | ⟨attempt, executing⟩ | given_up | ended
      · exact .inl ⟨result, progress.kept same (by simp) finished⟩
      · exact .inr (.inl ⟨attempt, progress.kept same (by simp) executing⟩)
      · exact .inr (.inr (.inl (progress.abandoned given_up)))
      · exact .inr (.inr (.inr ended))
  · exact abandoned

end

section
variable (tracked : s.Tracked) {attempt : Nat} (known : ∀ job_id, (job, job_id) ∈ s'.submissions → s'.Known job job_id)
  (abandoned : ∀ entry ∈ s'.abandoned, entry ∈ s'.submissions)
include tracked abandoned

/-- Whatever was submitted for a job is known once it has a result. -/
theorem Tracked.to_finished {result : JobResult} (progress : s.Progress s' job old (.finished result)) : s'.Tracked :=
  tracked.went progress (fun wrong => wrong.elim) (fun wrong => wrong.elim) (fun _ _ wrong => by cases wrong)
    (fun _ _ wrong => by cases wrong) (fun _ _ => .inl ⟨result, progress.went.own⟩) abandoned

include known

theorem Tracked.to_submitting (progress : s.Progress s' job old (.submitting attempt)) : s'.Tracked :=
  tracked.went progress (fun wrong => wrong.elim) (fun _ => progress.submits rfl) (fun _ _ wrong => by cases wrong)
    (fun _ _ wrong => by cases wrong) known abandoned

theorem Tracked.to_sleeping {last_error : String} (progress : s.Progress s' job old (.sleeping attempt last_error)) (busy : old.Begun)
    (left : (attempt : Int) < s.batch.config.retry_count) : s'.Tracked := by
  refine tracked.went progress (fun wrong => wrong.elim) ?_ ?_ (fun _ _ wrong => by cases wrong) known abandoned
  · exact fun _ => progress.submitted (tracked.begun job old progress.found busy)
  · rintro _ _ ⟨⟩
    exact left

end

/-! ## Steps -/

/-- A step in which nothing but the batch changes. -/
theorem progress_batch {b : BatchRun JobConfig} (found : s.batch.tasks[job]? = some old) (went : s.batch.Went job task b) :
    s.Progress { s with batch := b } job old task :=
  ⟨found, went, rfl, List.Subset.refl _, fun _ member => .inl member, List.Subset.refl _⟩

theorem tracked_run (tracked : s.Tracked) (job : Nat) : (s.step (.run job)).Tracked := by
  rcases s.batch.run_turn job with same | ⟨old, task, found, went, before, place⟩
  · exact tracked.same_batch same rfl rfl fun _ ended => ended
  · have progress : s.Progress (s.step (.run job)) job old task := progress_batch found went
    have fresh : old.Unbegun := by rcases before with rfl | rfl <;> trivial
    have known : ∀ job_id, (job, job_id) ∈ s.submissions → (s.step (.run job)).Known job job_id := by
      intro job_id member
      refine progress.known_over tracked ?_ ?_ member
      · rintro result rfl
        cases fresh
      · rintro attempt rfl
        cases fresh
    rcases place with rfl | rfl | ⟨_, rfl, _⟩
    · exact tracked.went progress (fun _ => ⟨fresh, rfl⟩) (fun wrong => wrong.elim) (fun _ _ wrong => by cases wrong)
        (fun _ _ wrong => by cases wrong) known tracked.abandoned
    · exact tracked.to_submitting known tracked.abandoned progress
    · exact tracked.to_finished tracked.abandoned progress

theorem tracked_submit (tracked : s.Tracked) (job : Nat) (response : Except String (Option String)) :
    (s.submit_ends job response).Tracked := by
  rcases s.submit_cases job response with same | ⟨attempt, config, found, _, batch, service, abandoned, answer⟩
  · rw [same]
    exact tracked
  · obtain ⟨task, went, place⟩ := BatchRun.submit_turn found (submit config response)
    rw [← batch] at went
    have grown : s.abandoned ⊆ (s.submit_ends job response).abandoned := by
      rw [abandoned]
      exact List.Subset.refl _
    rcases answer with ⟨job_id, returned, added⟩ | ⟨unreturned, kept⟩
    · have progress : s.Progress (s.submit_ends job response) job (.submitting attempt) task := by
        refine ⟨found, went, service, ?_, ?_, grown⟩
        · rw [added]
          exact List.subset_append_left _ _
        · intro entry member
          rw [added] at member
          exact (List.mem_append.mp member).imp_right fun now => congrArg Prod.fst (List.mem_singleton.mp now)
      rcases place with ⟨_, same, rfl⟩ | ⟨other, _⟩
      · obtain rfl := ManagerAnswer.returned.inj (returned.symm.trans same)
        have busy : job ∈ s.batch.submitted := tracked.begun job _ found trivial
        refine tracked.went progress (fun wrong => wrong.elim) (fun _ => progress.submitted busy) (fun _ _ wrong => by cases wrong) ?_ ?_ ?_
        · rintro _ _ ⟨⟩
          rw [added]
          exact List.mem_append_right _ (List.mem_singleton_self _)
        · intro other member
          rw [added] at member
          rcases List.mem_append.mp member with before | now
          · exact progress.known_over tracked (fun _ wrong => by cases wrong) (fun _ wrong => by cases wrong) before
          · obtain rfl : other = job_id := congrArg Prod.snd (List.mem_singleton.mp now)
            exact .inr (.inl ⟨attempt, went.own⟩)
        · intro entry member
          rw [abandoned] at member
          exact progress.submissions (tracked.abandoned entry member)
      · exact absurd returned (other job_id)
    · have progress : s.Progress (s.submit_ends job response) job (.submitting attempt) task :=
        ⟨found, went, service, by rw [kept]; exact List.Subset.refl _, fun entry member => .inl (kept ▸ member), grown⟩
      have given_up : ∀ entry ∈ (s.submit_ends job response).abandoned, entry ∈ (s.submit_ends job response).submissions := by
        rw [abandoned, kept]
        exact tracked.abandoned
      rcases place with ⟨job_id, same, _⟩ | ⟨_, ⟨message, left, rfl⟩ | ⟨_, rfl, _⟩⟩
      · exact absurd same (unreturned job_id)
      · refine tracked.to_sleeping (fun job_id member => ?_) given_up progress trivial left
        rw [kept] at member
        exact progress.known_over tracked (fun _ wrong => by cases wrong) (fun _ wrong => by cases wrong) member
      · exact tracked.to_finished given_up progress

/-- A wait that raises has given its work item up, or found that it has ended. -/
theorem tracked_poll (tracked : s.Tracked) (job : Nat) (expired : Bool) (failure : Option String) : (s.poll job expired failure).Tracked := by
  rcases s.poll_cases job expired failure with ⟨same, _⟩ | ⟨attempt, job_id, config, answer, found, _, answered, polled⟩
  · rw [same]
    exact tracked
  · obtain ⟨task, went, place⟩ := BatchRun.wait_turn found answer
    rw [polled]
    have progress : s.Progress { s with
        batch := s.batch.wait_ends job answer
        abandoned := if expired then s.abandoned ++ [(job, job_id)] else s.abandoned } job (.executing attempt job_id) task := by
      refine ⟨found, went, rfl, List.Subset.refl _, fun _ member => .inl member, ?_⟩
      cases expired with
      | true => exact List.subset_append_left _ _
      | false => exact List.Subset.refl _
    have given_up : ∀ entry ∈ (if expired then s.abandoned ++ [(job, job_id)] else s.abandoned), entry ∈ s.submissions := by
      intro entry member
      cases expired with
      | true =>
        rcases List.mem_append.mp member with before | now
        · exact tracked.abandoned entry before
        · rw [List.mem_singleton.mp now]
          exact tracked.awaited job attempt job_id found
      | false => exact tracked.abandoned entry member
    rcases place with ⟨result, _, rfl⟩ | ⟨message, rfl, left, rfl⟩ | ⟨_, result, rfl, _⟩
    · exact tracked.to_finished given_up progress
    · refine tracked.to_sleeping (fun other member => ?_) given_up progress trivial left
      by_cases same : other = job_id
      · subst same
        rcases wait_for_completion_raised answered with rfl | failed
        · exact .inr (.inr (.inl (List.mem_append_right _ (List.mem_singleton_self _))))
        · exact .inr (.inr (.inr (by rw [failed]; rfl)))
      · refine progress.known_over tracked (fun _ wrong => by cases wrong) (fun _ wrong => ?_) member
        cases wrong
        exact same rfl
    · exact tracked.to_finished given_up progress

theorem tracked_sleep (tracked : s.Tracked) (job : Nat) : (s.step (.sleep_ends job)).Tracked := by
  rcases s.batch.sleep_turn job with ⟨same, _⟩ | ⟨attempt, last_error, task, found, went, place⟩
  · exact tracked.same_batch same rfl rfl fun _ ended => ended
  · have progress : s.Progress (s.step (.sleep_ends job)) job (.sleeping attempt last_error) task := progress_batch found went
    rcases place with ⟨_, rfl⟩ | ⟨_, _, rfl, _⟩
    · refine tracked.to_submitting (fun job_id member => ?_) tracked.abandoned progress
      exact progress.known_over tracked (fun _ wrong => by cases wrong) (fun _ wrong => by cases wrong) member
    · exact tracked.to_finished tracked.abandoned progress

theorem ended_change (s : CloudBatch) (changed : String) (item : WorkItem) {job_id : String} (ended : (s.service job_id).parsed.terminal = true) :
    ((s.change changed item).service job_id).parsed.terminal = true := by
  unfold CloudBatch.change
  split
  · exact ended
  · next goes_on =>
    have other : job_id ≠ changed := by
      rintro rfl
      exact goes_on ended
    simpa [Function.update_of_ne other] using ended

theorem ended_cancel (s : CloudBatch) (cancelled : String) (taken : Bool) {job_id : String} (ended : (s.service job_id).parsed.terminal = true) :
    ((s.cancel cancelled taken).service job_id).parsed.terminal = true := by
  cases taken with
  | false => exact ended
  | true =>
    by_cases same : job_id = cancelled
    · subst same
      simpa [CloudBatch.cancel, WorkItem.parsed] using ended
    · simpa [CloudBatch.cancel, Function.update_of_ne same] using ended

theorem tracked_step (tracked : s.Tracked) (a : CloudStep) : (s.step a).Tracked := by
  cases a with
  | run job => exact tracked_run tracked job
  | submit_ends job response => exact tracked_submit tracked job response
  | poll job expired failure => exact tracked_poll tracked job expired failure
  | sleep_ends job => exact tracked_sleep tracked job
  | set_cancel => exact tracked.same rfl rfl rfl rfl rfl fun _ ended => ended
  | collect progress =>
    obtain ⟨tasks, _, config, submitted⟩ := s.batch.collect_tasks progress
    exact tracked.same tasks config submitted rfl rfl fun _ ended => ended
  | change job_id item =>
    refine tracked.same_batch (s.change_batch job_id item) ?_ ?_ fun _ ended => s.ended_change job_id item ended
    · show (s.change job_id item).submissions = s.submissions
      unfold CloudBatch.change
      split <;> rfl
    · show (s.change job_id item).abandoned = s.abandoned
      unfold CloudBatch.change
      split <;> rfl
  | cancel job_id taken =>
    refine tracked.same_batch (s.cancel_batch job_id taken) ?_ ?_ fun _ ended => s.ended_cancel job_id taken ended
    · cases taken <;> rfl
    · cases taken <;> rfl

/-! ## Retries -/

theorem not_resubmits_of_same {a : CloudStep} (same : (s.step a).batch.submitted = s.batch.submitted) : ¬s.Resubmits a job := by
  rintro ⟨submits, _⟩
  have lengths := congrArg List.length (same.symm.trans submits)
  simp at lengths

theorem not_resubmits_of_went {a : CloudStep} {other : Nat} (went : s.batch.Went other task (s.step a).batch)
    (nothing : task.submissions other = []) : ¬s.Resubmits a job := by
  apply not_resubmits_of_same
  rw [went.submitted, nothing, List.append_nil]

/-- Only a task whose sleep ends submits its job again. -/
theorem not_resubmits (tracked : s.Tracked) {a : CloudStep} (awake : ∀ sleeper, a ≠ .sleep_ends sleeper) : ¬s.Resubmits a job := by
  cases a with
  | run beginner =>
    rcases s.batch.run_turn beginner with same | ⟨old, task, found, went, before, place⟩
    · exact not_resubmits_of_same (congrArg BatchRun.submitted same)
    · rcases place with rfl | rfl | ⟨_, rfl, _⟩
      · exact not_resubmits_of_went went rfl
      · rintro ⟨submits, earlier⟩
        have once : s.batch.submitted ++ [beginner] = s.batch.submitted ++ [job] := went.submitted.symm.trans submits
        obtain rfl : beginner = job := List.singleton_inj.mp (List.append_cancel_left once)
        exact tracked.unbegun beginner old found (by rcases before with rfl | rfl <;> trivial) earlier
      · exact not_resubmits_of_went went rfl
  | submit_ends submitter response =>
    rcases s.submit_cases submitter response with same | ⟨attempt, config, found, _, batch, _⟩
    · exact not_resubmits_of_same (congrArg (fun s => s.batch.submitted) same)
    · obtain ⟨task, went, place⟩ := BatchRun.submit_turn found (submit config response)
      rw [← batch] at went
      rcases place with ⟨_, _, rfl⟩ | ⟨_, ⟨_, _, rfl⟩ | ⟨_, rfl, _⟩⟩
      · exact not_resubmits_of_went went rfl
      · exact not_resubmits_of_went went rfl
      · exact not_resubmits_of_went went rfl
  | poll waiter expired failure =>
    rcases s.poll_cases waiter expired failure with ⟨same, _⟩ | ⟨_, _, _, answer, found, _, _, polled⟩
    · exact not_resubmits_of_same (congrArg (fun s => s.batch.submitted) same)
    · obtain ⟨task, went, place⟩ := BatchRun.wait_turn found answer
      have batch : (s.step (.poll waiter expired failure)).batch = s.batch.wait_ends waiter answer := congrArg CloudBatch.batch polled
      rw [← batch] at went
      rcases place with ⟨_, _, rfl⟩ | ⟨_, _, _, rfl⟩ | ⟨_, _, rfl, _⟩
      · exact not_resubmits_of_went went rfl
      · exact not_resubmits_of_went went rfl
      · exact not_resubmits_of_went went rfl
  | sleep_ends sleeper => exact absurd rfl (awake sleeper)
  | set_cancel => exact not_resubmits_of_same rfl
  | collect progress =>
    obtain ⟨_, _, _, submitted⟩ := s.batch.collect_tasks progress
    exact not_resubmits_of_same submitted
  | change job_id item => exact not_resubmits_of_same (congrArg BatchRun.submitted (s.change_batch job_id item))
  | cancel job_id taken => exact not_resubmits_of_same (congrArg BatchRun.submitted (s.cancel_batch job_id taken))

theorem sleep_one_live_iff (tracked : s.Tracked) (sleeper : Nat) : s.OneLive (.sleep_ends sleeper) ↔ s.Outwaited (.sleep_ends sleeper) := by
  rcases s.batch.sleep_turn sleeper with ⟨same, awake⟩ | ⟨attempt, last_error, task, found, went, place⟩
  · refine iff_of_true (fun job again => absurd again (not_resubmits_of_same (congrArg BatchRun.submitted same))) ?_
    rintro ⟨attempt, last_error, found⟩
    exact absurd found (awake attempt last_error)
  · have tried := tracked.tried sleeper attempt last_error found
    rcases place with ⟨_, rfl⟩ | ⟨untried, _⟩
    · constructor
      · intro one_live _ job_id given_up
        exact one_live sleeper ⟨went.submitted, tracked.begun sleeper _ found trivial⟩ job_id (tracked.abandoned _ given_up)
      · rintro outwaited job ⟨submits, _⟩ job_id member
        have once : s.batch.submitted ++ [sleeper] = s.batch.submitted ++ [job] := went.submitted.symm.trans submits
        obtain rfl : sleeper = job := List.singleton_inj.mp (List.append_cancel_left once)
        rcases tracked.given_up_or_ended found (fun _ wrong => by cases wrong) (fun _ wrong => by cases wrong) member with given_up | ended
        · exact outwaited ⟨attempt, last_error, found⟩ job_id given_up
        · rintro ⟨goes_on, _⟩
          rw [ended] at goes_on
          cases goes_on
    · exact absurd tried untried

theorem one_live_iff_outwaited (tracked : s.Tracked) (a : CloudStep) : s.OneLive a ↔ s.Outwaited a := by
  by_cases awake : ∀ sleeper, a ≠ .sleep_ends sleeper
  · refine iff_of_true (fun job again => absurd again (not_resubmits tracked awake)) ?_
    cases a with
    | sleep_ends sleeper => exact absurd rfl (awake sleeper)
    | _ => trivial
  · obtain ⟨sleeper, sleeps⟩ := not_forall.mp awake
    obtain rfl := not_not.mp sleeps
    exact sleep_one_live_iff tracked sleeper

theorem tracked_process {config : BatchConfig} {jobs : List JobConfig} {cancel : Option Bool} {start : BatchRun JobConfig}
    (started : config.process jobs cancel = .ok start) (service : String → WorkItem) : Tracked ⟨start, service, [], []⟩ := by
  have created : start.submitted = [] ∧ ∀ (job : Nat) task, start.tasks[job]? = some task → task = .created := by
    unfold BatchConfig.process at started
    split at started
    · cases started
    · obtain rfl := Except.ok.inj started
      have fresh : ∀ (job : Nat) task, (jobs.map fun _ => JobTask.created)[job]? = some task → task = .created := by
        intro job task found
        obtain ⟨_, _, rfl⟩ := List.mem_map.mp (List.mem_of_getElem? found)
        rfl
      split
      · exact ⟨rfl, fresh⟩
      · exact ⟨rfl, fresh⟩
  obtain ⟨none, fresh⟩ := created
  constructor
  · intro job task _ _ member
    rw [none] at member
    cases member
  · intro job task found busy
    obtain rfl := fresh job task found
    cases busy
  · intro job attempt last_error found
    cases fresh job _ found
  · intro job attempt job_id found
    cases fresh job _ found
  · intro job job_id member
    cases member
  · intro entry member
    cases member

/-- The task of a job waits for a work item until the timeout has passed, and sleeps. -/
def gives_up (ended : List CloudStep) : List CloudStep :=
  [.run 0, .submit_ends 0 (.ok (some "a")), .poll 0 false none, .poll 0 true none] ++ ended ++ [.sleep_ends 0]

end CloudBatch
end RevitPy
