import RevitPy.ElementSet
import RevitPy.ListEntries
import RevitPy.Runs

/-!
# Batches of operations that are added one by one

Callers add operations to a manager, and execute what is left. Each waits where its
batch is gathered and where it pauses before the next one, and the others go on
meanwhile. A task is made of each coroutine in a batch. An operation that is none is
put into the executor, but no task can be made of it, so its caller raises and the
operations behind it in the batch are gone.
-/

namespace RevitPy.BatchOperations
open Runs
variable {ω : Type}

/-- Where a caller is: it waits for a batch, or pauses, or is finished. -/
inductive Phase
  | gathering (batch : Nat)
  | sleeping
  | done
  | raised (batch : Nat)
  deriving DecidableEq

/-- A call of `add_operation`, or of `execute_remaining`, which loops. -/
structure Caller where
  loops : Bool
  phase : Phase
  deriving DecidableEq

/-- Manager for batch operations, with its callers, and with what was taken out of it: what
    was started and what was dropped, in order. -/
structure BatchOperationManager (ω : Type) where
  batch_size : Int
  /-- `delay_between_batches` is positive. -/
  delays : Bool
  operations : List ω := []
  executed_count : Nat := 0
  callers : List Caller := []
  started : List ω := []
  dropped : List ω := []

/-- The operations of a batch that are started: up to the first one that is no coroutine. -/
def start_tasks (is_coroutine : ω → Bool) : List ω → List ω
  | [] => []
  | operation :: rest => if is_coroutine operation then operation :: start_tasks is_coroutine rest else [operation]

/-- The operations behind the first one that is no coroutine. -/
def lose_tasks (is_coroutine : ω → Bool) : List ω → List ω
  | [] => []
  | operation :: rest => if is_coroutine operation then lose_tasks is_coroutine rest else rest

/-- Execute current batch of operations, up to where its caller waits. -/
def execute_batch (is_coroutine : ω → Bool) (m : BatchOperationManager ω) : Phase × BatchOperationManager ω :=
  if m.operations.isEmpty then (.done, m)
  else
    let current_batch := m.operations.take (slice_index m.operations.length m.batch_size)
    (if current_batch.all is_coroutine then .gathering current_batch.length else .raised current_batch.length,
      { m with
        operations := m.operations.drop (slice_index m.operations.length m.batch_size)
        started := m.started ++ start_tasks is_coroutine current_batch
        dropped := m.dropped ++ lose_tasks is_coroutine current_batch })

/-- A new caller that executes a batch. -/
def enter (is_coroutine : ω → Bool) (loops : Bool) (m : BatchOperationManager ω) : BatchOperationManager ω :=
  let next := execute_batch is_coroutine m
  { next.2 with callers := next.2.callers ++ [{ loops := loops, phase := next.1 }] }

/-- Add an operation to the batch. -/
def add_operation (is_coroutine : ω → Bool) (operation : ω) (m : BatchOperationManager ω) : BatchOperationManager ω :=
  let m := { m with operations := m.operations ++ [operation] }
  if m.batch_size ≤ m.operations.length then enter is_coroutine false m else m

/-- A caller goes on after its batch: one that loops executes the next. -/
def resume (is_coroutine : ω → Bool) (i : Nat) (loops : Bool) (m : BatchOperationManager ω) : BatchOperationManager ω :=
  if loops then
    let next := execute_batch is_coroutine m
    { next.2 with callers := next.2.callers.set i { loops := loops, phase := next.1 } }
  else { m with callers := m.callers.set i { loops := loops, phase := .done } }

inductive Event (ω : Type)
  | add_operation (operation : ω)
  | execute_remaining
  | gathered (caller : Nat)
  | slept (caller : Nat)

def step (is_coroutine : ω → Bool) (m : BatchOperationManager ω) : Event ω → BatchOperationManager ω
  | .add_operation operation => add_operation is_coroutine operation m
  | .execute_remaining => enter is_coroutine true m
  | .gathered i => match m.callers[i]? with
    | some { loops, phase := .gathering batch } =>
      let m := { m with executed_count := m.executed_count + batch }
      if !m.operations.isEmpty && m.delays then { m with callers := m.callers.set i { loops, phase := .sleeping } }
      else resume is_coroutine i loops m
    | _ => m
  | .slept i => match m.callers[i]? with
    | some { loops, phase := .sleeping } => resume is_coroutine i loops m
    | _ => m

/-! ## What becomes of the operations -/

/-- The operations that events add, in order. -/
def added : List (Event ω) → List ω := List.filterMap fun
  | .add_operation operation => some operation
  | _ => none

/-- The size of a batch that was taken and is not counted. -/
def Caller.uncounted (caller : Caller) : Nat := match caller.phase with
  | .gathering batch | .raised batch => batch
  | .sleeping | .done => 0

variable {is_coroutine : ω → Bool} {m : BatchOperationManager ω}

theorem perm_tasks (is_coroutine : ω → Bool) (batch : List ω) :
    (start_tasks is_coroutine batch ++ lose_tasks is_coroutine batch) = batch := by
  induction batch with
  | nil => rfl
  | cons operation rest ih =>
    rw [start_tasks, lose_tasks]
    split
    · rw [List.cons_append, ih]
    · rfl

/-- Nothing is dropped from a batch of coroutines. -/
theorem lose_tasks_of_all {batch : List ω} (all : batch.all is_coroutine = true) : lose_tasks is_coroutine batch = [] := by
  induction batch with
  | nil => rfl
  | cons operation rest ih =>
    rw [List.all_cons, Bool.and_eq_true] at all
    rw [lose_tasks, if_pos all.1, ih all.2]

/-- What a manager holds and what was taken out of it, after some operations were added. -/
structure Conserved (is_coroutine : ω → Bool) (operations : List ω) (m : BatchOperationManager ω) : Prop where
  once : (m.started ++ m.dropped ++ m.operations).Perm operations
  counted : m.executed_count + (m.callers.map Caller.uncounted).sum = m.started.length + m.dropped.length
  dropped : operations.all is_coroutine = true → m.dropped = [] ∧ ∀ caller ∈ m.callers, ∀ batch, caller.phase ≠ .raised batch

/-- What a batch takes out of the manager. -/
theorem execute_batch_conserves {operations : List ω} (conserved : Conserved is_coroutine operations m) :
    let next := execute_batch is_coroutine m
    next.2.callers = m.callers ∧ next.2.executed_count = m.executed_count ∧
      (next.2.started ++ next.2.dropped ++ next.2.operations).Perm operations ∧
      next.2.started.length + next.2.dropped.length =
        m.started.length + m.dropped.length + Caller.uncounted { loops := true, phase := next.1 } ∧
      (operations.all is_coroutine = true → next.2.dropped = [] ∧ ∀ batch, next.1 ≠ .raised batch) := by
  unfold execute_batch
  split
  · exact ⟨rfl, rfl, conserved.once, rfl, fun all => ⟨(conserved.dropped all).1, nofun⟩⟩
  · generalize slice_index m.operations.length m.batch_size = cut
    have whole := perm_tasks is_coroutine (m.operations.take cut)
    have sizes := congrArg List.length whole
    rw [List.length_append] at sizes
    refine ⟨rfl, rfl, ?_, ?_, ?_⟩
    · refine List.Perm.trans ?_ conserved.once
      have batch : (m.started ++ start_tasks is_coroutine (m.operations.take cut) ++
          (m.dropped ++ lose_tasks is_coroutine (m.operations.take cut))).Perm (m.started ++ m.dropped ++ m.operations.take cut) := by
        conv_rhs => rw [← whole]
        rw [List.append_assoc, List.append_assoc]
        refine List.Perm.append_left _ ?_
        rw [← List.append_assoc, ← List.append_assoc]
        exact List.Perm.append_right _ List.perm_append_comm
      have rest : m.started ++ m.dropped ++ m.operations = m.started ++ m.dropped ++ m.operations.take cut ++ m.operations.drop cut := by
        rw [List.append_assoc (m.started ++ m.dropped), List.take_append_drop]
      rw [rest]
      exact batch.append_right _
    · have either (all : Bool) (batch : Nat) :
          Caller.uncounted { loops := true, phase := if all then .gathering batch else .raised batch } = batch := by
        cases all <;> rfl
      simp only [List.length_append, either]
      omega
    · intro all
      have coroutines : (m.operations.take cut).all is_coroutine = true := by
        rw [List.all_eq_true] at all ⊢
        intro operation member
        exact all operation (conserved.once.mem_iff.mp (List.mem_append_right _ (List.mem_of_mem_take member)))
      simp only [if_pos coroutines]
      refine ⟨?_, nofun⟩
      simp [(conserved.dropped all).1, lose_tasks_of_all coroutines]

theorem Conserved.enter {operations : List ω} (conserved : Conserved is_coroutine operations m) (loops : Bool) :
    Conserved is_coroutine operations (enter is_coroutine loops m) := by
  obtain ⟨callers, count, once, sizes, dropped⟩ := execute_batch_conserves conserved
  have counted := conserved.counted
  unfold BatchOperations.enter
  simp only
  refine ⟨once, ?_, fun all => ⟨(dropped all).1, fun caller member => ?_⟩⟩
  · rw [callers, List.map_append, List.sum_append, sizes, count]
    show _ + (_ + (Caller.uncounted { loops := true, phase := (execute_batch is_coroutine m).1 } + 0)) = _
    omega
  · rw [callers] at member
    rcases List.mem_append.mp member with before | here
    · exact (conserved.dropped all).2 caller before
    · rw [List.mem_singleton.mp here]
      exact (dropped all).2

theorem Conserved.add_operation {operations : List ω} (conserved : Conserved is_coroutine operations m) (operation : ω) :
    Conserved is_coroutine (operations ++ [operation]) (add_operation is_coroutine operation m) := by
  have longer : Conserved is_coroutine (operations ++ [operation]) { m with operations := m.operations ++ [operation] } := by
    refine ⟨?_, conserved.counted, fun all => conserved.dropped ?_⟩
    · rw [← List.append_assoc]
      exact conserved.once.append_right _
    · rw [List.all_append, Bool.and_eq_true] at all
      exact all.1
  unfold BatchOperations.add_operation
  simp only
  split
  · exact longer.enter false
  · exact longer

theorem Conserved.resume {operations : List ω} (conserved : Conserved is_coroutine operations m) {i : Nat} {caller : Caller}
    (found : m.callers[i]? = some caller) (counted : caller.uncounted = 0) (loops : Bool) :
    Conserved is_coroutine operations (resume is_coroutine i loops m) := by
  obtain ⟨callers, count, once, sizes, dropped⟩ := execute_batch_conserves conserved
  have counts := conserved.counted
  unfold BatchOperations.resume
  simp only
  split
  · have replaced := sum_map_set (b := { loops := loops, phase := (execute_batch is_coroutine m).1 }) found Caller.uncounted
    refine ⟨once, ?_, fun all => ⟨(dropped all).1, fun caller member => ?_⟩⟩
    · rw [callers, sizes, count]
      have same : Caller.uncounted { loops := loops, phase := (execute_batch is_coroutine m).1 } =
          Caller.uncounted { loops := true, phase := (execute_batch is_coroutine m).1 } := rfl
      show m.executed_count + ((m.callers.set i { loops := loops, phase := (execute_batch is_coroutine m).1 }).map Caller.uncounted).sum = _
      omega
    · rw [callers] at member
      rcases List.mem_or_eq_of_mem_set member with before | here
      · exact (conserved.dropped all).2 caller before
      · rw [here]
        exact (dropped all).2
  · have replaced := sum_map_set (b := { loops := loops, phase := .done }) found Caller.uncounted
    refine ⟨conserved.once, ?_, fun all => ⟨(conserved.dropped all).1, fun caller member => ?_⟩⟩
    · have none : Caller.uncounted { loops := loops, phase := .done } = 0 := rfl
      show m.executed_count + ((m.callers.set i { loops := loops, phase := .done }).map Caller.uncounted).sum =
        m.started.length + m.dropped.length
      omega
    · rcases List.mem_or_eq_of_mem_set member with before | here
      · exact (conserved.dropped all).2 caller before
      · rw [here]
        exact nofun

/-- A caller that is counted once its batch is gathered. -/
theorem Conserved.gathered {operations : List ω} (conserved : Conserved is_coroutine operations m) {i batch : Nat} {loops : Bool}
    (found : m.callers[i]? = some { loops := loops, phase := .gathering batch }) :
    Conserved is_coroutine operations
      { m with executed_count := m.executed_count + batch, callers := m.callers.set i { loops := loops, phase := .sleeping } } := by
  have replaced := sum_map_set (b := { loops := loops, phase := .sleeping }) found Caller.uncounted
  have counts := conserved.counted
  refine ⟨conserved.once, ?_, fun all => ⟨(conserved.dropped all).1, fun caller member => ?_⟩⟩
  · have before : Caller.uncounted { loops := loops, phase := .gathering batch } = batch := rfl
    have after : Caller.uncounted { loops := loops, phase := .sleeping } = 0 := rfl
    show m.executed_count + batch + ((m.callers.set i { loops := loops, phase := .sleeping }).map Caller.uncounted).sum =
      m.started.length + m.dropped.length
    omega
  · rcases List.mem_or_eq_of_mem_set member with before | here
    · exact (conserved.dropped all).2 caller before
    · rw [here]
      exact nofun

/-- A pause that is skipped makes no difference. -/
theorem resume_sleeping (i : Nat) (loops : Bool) (m : BatchOperationManager ω) :
    resume is_coroutine i loops { m with callers := m.callers.set i { loops := loops, phase := .sleeping } } =
      resume is_coroutine i loops m := by
  unfold BatchOperations.resume execute_batch
  cases loops with
  | false => simp
  | true =>
    by_cases empty : m.operations.isEmpty = true
    · simp [empty]
    · simp [empty]

theorem Conserved.step {operations : List ω} (conserved : Conserved is_coroutine operations m) (event : Event ω) :
    Conserved is_coroutine (operations ++ added [event]) (step is_coroutine m event) := by
  cases event with
  | add_operation operation => exact conserved.add_operation operation
  | execute_remaining =>
    rw [added, List.filterMap_cons_none rfl, List.filterMap_nil, List.append_nil]
    exact conserved.enter true
  | gathered i =>
    rw [added, List.filterMap_cons_none rfl, List.filterMap_nil, List.append_nil]
    unfold BatchOperations.step
    simp only
    split
    · next loops batch found =>
      have asleep := conserved.gathered found
      split
      · exact asleep
      · have there : (m.callers.set i { loops := loops, phase := .sleeping })[i]? = some ⟨loops, .sleeping⟩ :=
          List.getElem?_set_self (List.getElem?_eq_some_iff.mp found).1
        rw [← resume_sleeping]
        exact asleep.resume there rfl loops
    · exact conserved
  | slept i =>
    rw [added, List.filterMap_cons_none rfl, List.filterMap_nil, List.append_nil]
    unfold BatchOperations.step
    simp only
    split
    · next loops found => exact conserved.resume found rfl loops
    · exact conserved

/-! ## When a caller is finished -/

/-- A caller of `execute_remaining` that ends normally leaves nothing behind. -/
def EndsEmpty (is_coroutine : ω → Bool) (m : BatchOperationManager ω) (event : Event ω) : Prop :=
  ∀ i : Nat, (step is_coroutine m event).callers[i]? = some (⟨true, .done⟩ : Caller) →
    m.callers[i]? = some (⟨true, .done⟩ : Caller) ∨ (step is_coroutine m event).operations = []

theorem callers_execute_batch (is_coroutine : ω → Bool) (m : BatchOperationManager ω) :
    (execute_batch is_coroutine m).2.callers = m.callers := by
  unfold execute_batch
  split
  · rfl
  · rfl

theorem execute_batch_done (finished : (execute_batch is_coroutine m).1 = .done) : (execute_batch is_coroutine m).2.operations = [] := by
  unfold execute_batch at finished ⊢
  split at finished
  · next empty =>
    rw [if_pos empty]
    exact List.isEmpty_iff.mp empty
  · simp only at finished
    split at finished
    · cases finished
    · cases finished

theorem endsEmpty_enter (is_coroutine : ω → Bool) (loops : Bool) (m : BatchOperationManager ω) (i : Nat)
    (finished : (enter is_coroutine loops m).callers[i]? = some (⟨true, .done⟩ : Caller)) :
    m.callers[i]? = some (⟨true, .done⟩ : Caller) ∨ (enter is_coroutine loops m).operations = [] := by
  unfold enter at finished ⊢
  simp only [callers_execute_batch, List.getElem?_append] at finished
  split at finished
  · exact .inl finished
  · have here := List.mem_singleton.mp (List.mem_of_getElem? finished)
    exact .inr (execute_batch_done (congrArg Caller.phase here).symm)

theorem endsEmpty_resume (is_coroutine : ω → Bool) (m : BatchOperationManager ω) (j : Nat) (loops : Bool) (i : Nat)
    (finished : (resume is_coroutine j loops m).callers[i]? = some (⟨true, .done⟩ : Caller)) :
    m.callers[i]? = some (⟨true, .done⟩ : Caller) ∨ (resume is_coroutine j loops m).operations = [] := by
  unfold resume at finished ⊢
  cases loops with
  | true =>
    simp only [if_true, callers_execute_batch, List.getElem?_set] at finished ⊢
    split at finished
    · split at finished
      · exact .inr (execute_batch_done (congrArg Caller.phase (Option.some.inj finished)))
      · cases finished
    · exact .inl finished
  | false =>
    simp only [Bool.false_eq_true, if_false, List.getElem?_set] at finished ⊢
    split at finished
    · split at finished
      · cases finished
      · cases finished
    · exact .inl finished

theorem endsEmpty (is_coroutine : ω → Bool) (m : BatchOperationManager ω) (event : Event ω) : EndsEmpty is_coroutine m event := by
  unfold EndsEmpty
  intro i
  cases event with
  | add_operation operation =>
    unfold step add_operation
    simp only
    split
    · exact endsEmpty_enter is_coroutine false { m with operations := m.operations ++ [operation] } i
    · exact .inl
  | execute_remaining => exact endsEmpty_enter is_coroutine true m i
  | gathered j =>
    unfold step
    simp only
    split
    · next loops batch found =>
      split
      · intro finished
        simp only [List.getElem?_set] at finished
        split at finished
        · split at finished
          · cases finished
          · cases finished
        · exact .inl finished
      · exact endsEmpty_resume is_coroutine { m with executed_count := m.executed_count + batch } j loops i
    · exact .inl
  | slept j =>
    unfold step
    simp only
    split
    · next loops found => exact endsEmpty_resume is_coroutine m j loops i
    · exact .inl

/-- In every interleaving of callers each operation that was added is started once, dropped
    once or still there; what was taken is counted when its batch is gathered, and nothing
    is dropped where all operations are coroutines. `execute_remaining` ends normally only
    where nothing is left. -/
theorem operations_conserved (is_coroutine : ω → Bool) (batch_size : Int) (delays : Bool) (events : List (Event ω)) :
    Conserved is_coroutine (added events) (events.foldl (step is_coroutine) { batch_size, delays }) ∧
      Along (step is_coroutine) (EndsEmpty is_coroutine) { batch_size, delays } events := by
  refine ⟨?_, along_of_mem fun m event _ => endsEmpty is_coroutine m event⟩
  induction events using List.reverseRecOn with
  | nil => exact ⟨List.Perm.refl [], rfl, fun _ => ⟨rfl, fun caller member => absurd member List.not_mem_nil⟩⟩
  | append_singleton events event ih =>
    rw [List.foldl_concat, added, List.filterMap_append]
    exact ih.step event

end RevitPy.BatchOperations
