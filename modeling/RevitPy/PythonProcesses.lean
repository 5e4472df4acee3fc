import Mathlib.Data.List.Induction
import Mathlib.Data.List.Nodup
import Mathlib.Logic.Function.Basic
import RevitPy.Runs

/-!
# The processes of the module reloader

An operation takes a process of the pool, or creates one, and marks it as busy until its code has
been executed. If the execution is rejected, as it is when it takes too long, the process stays busy,
and with as many such processes as the pool may have every later operation waits for ever.
-/

namespace RevitPy.PythonProcesses

structure PythonProcess where
  ready : Bool := false
  busy : Bool := false

/-- What an operation that preserves or reloads a module is about. -/
inductive Phase
  | idle
  /-- Waits until it looks for a process again. -/
  | waiting
  | creating (p : Nat)
  | executing (p : Nat)
  /-- The code was executed, and the process is released next. -/
  | resolved (p : Nat)
  deriving DecidableEq

/-- Processes are numbered as they are spawned. -/
structure State where
  pythonProcessPool : List Nat := []
  process : Nat → PythonProcess := fun _ => {}
  exited : Nat → Bool := fun _ => false
  spawned : Nat := 0
  /-- How many processes `initializeProcessPool` is still to create. -/
  starting : Nat
  phase : Nat → Phase := fun _ => .idle

def maxProcesses : Nat := 3

def init : State := { starting := min maxProcesses 3 }

inductive Event
  /-- `initializeProcessPool` goes on, with a process or without. -/
  | pooled (p : Nat)
  | not_pooled
  /-- An operation calls `getAvailablePythonProcess`, or calls it again when it has waited. -/
  | look (o : Nat)
  | created (o p : Nat)
  | not_created (o : Nat)
  | resolved (o p : Nat)
  | released (o p : Nat)
  /-- The execution took too long or failed. -/
  | rejected (o p : Nat)
  | exited (p : Nat)
  | disposed

namespace State
variable (s : State)

def setPhase (o : Nat) (phase : Phase) : State := { s with phase := Function.update s.phase o phase }
def setProcess (p : Nat) (process : PythonProcess) : State := { s with process := Function.update s.process p process }
def setBusy (p : Nat) (busy : Bool) : State := s.setProcess p { s.process p with busy }

/-- The first process of the pool that is ready and not busy. -/
def available : Option Nat := s.pythonProcessPool.find? fun p => (s.process p).ready && !(s.process p).busy

def getAvailablePythonProcess (o : Nat) : State := match s.available with
  | some p => (s.setBusy p true).setPhase o (.executing p)
  | none =>
    if s.pythonProcessPool.length < maxProcesses then { s.setPhase o (.creating s.spawned) with spawned := s.spawned + 1 }
    else s.setPhase o .waiting

def releasePythonProcess (p : Nat) : State := s.setBusy p false

def removePythonProcess (p : Nat) : State := { s with pythonProcessPool := s.pythonProcessPool.erase p }

/-- What an event does, where it can happen. -/
def step : Event → Option State
  | .pooled p =>
    if 0 < s.starting ∧ p = s.spawned then some { s.setProcess p { ready := true } with
      pythonProcessPool := s.pythonProcessPool ++ [p]
      spawned := s.spawned + 1
      starting := s.starting - 1 }
    else none
  | .not_pooled => if 0 < s.starting then some { s with starting := s.starting - 1 } else none
  | .look o => if s.phase o = .idle ∨ s.phase o = .waiting then some (s.getAvailablePythonProcess o) else none
  | .created o p =>
    if s.phase o = .creating p ∧ s.exited p = false then
      some { (s.setProcess p { ready := true, busy := true }).setPhase o (.executing p) with pythonProcessPool := s.pythonProcessPool ++ [p] }
    else none
  | .not_created o => match s.phase o with
    | .creating _ => some (s.setPhase o .idle)
    | _ => none
  | .resolved o p => if s.phase o = .executing p then some (s.setPhase o (.resolved p)) else none
  | .released o p => if s.phase o = .resolved p then some ((s.releasePythonProcess p).setPhase o .idle) else none
  | .rejected o p => if s.phase o = .executing p then some (s.setPhase o .idle) else none
  | .exited p => if p < s.spawned ∧ s.exited p = false then some { s.removePythonProcess p with exited := Function.update s.exited p true } else none
  | .disposed => some { s with pythonProcessPool := [] }

/-- No operation is in progress. -/
def Idle : Prop := ∀ o, s.phase o = .idle

/-- No process of the pool is busy, and an operation finds a process or creates one. -/
structure Returned : Prop where
  free : ∀ p ∈ s.pythonProcessPool, (s.process p).busy = false
  served : s.available.isSome ∨ s.pythonProcessPool.length < maxProcesses

end State

/-- The states that events lead to, the latest event last. -/
inductive Run : List Event → State → Prop
  | init : Run [] init
  | step {events : List Event} {s t : State} {event : Event} (run : Run events s) (next : s.step event = some t) : Run (events ++ [event]) t

def Event.creates : Event → Option Nat
  | .pooled p => some p
  | .created _ p => some p
  | _ => none

/-- A process was put in the pool. -/
def Pooled (p : Nat) (events : List Event) : Prop := ∃ event ∈ events, event.creates = some p

/-- A process left the pool: it exited or the reloader was disposed after it was created. -/
def Left (p : Nat) (events : List Event) : Prop :=
  ∃ before event after, events = before ++ event :: after ∧ event.creates = some p ∧ (.exited p ∈ after ∨ .disposed ∈ after)

theorem pooled_concat (p : Nat) (events : List Event) (event : Event) :
    Pooled p (events ++ [event]) ↔ Pooled p events ∨ event.creates = some p := by
  simp [Pooled, or_and_right, exists_or]

theorem pooled_of_concat {p : Nat} {events : List Event} {event : Event} (other : event.creates ≠ some p) (pooled : Pooled p (events ++ [event])) :
    Pooled p events := ((pooled_concat p events event).mp pooled).resolve_right other

theorem left_concat (p : Nat) (events : List Event) (event : Event) :
    Left p (events ++ [event]) ↔ Left p events ∨ Pooled p events ∧ (event = .exited p ∨ event = .disposed) := by
  constructor
  · rintro ⟨before, creation, after, same, creates, gone⟩
    rcases Runs.split_concat same with ⟨-, -, rfl⟩ | ⟨between, rfl, rfl⟩
    · simp at gone
    · by_cases now : event = .exited p ∨ event = .disposed
      · exact .inr ⟨⟨creation, by simp, creates⟩, now⟩
      · refine .inl ⟨before, creation, between, rfl, creates, ?_⟩
        simpa [not_or.mp now, eq_comm] using gone
  · rintro (⟨before, creation, after, rfl, creates, gone⟩ | ⟨⟨creation, member, creates⟩, now⟩)
    · exact ⟨before, creation, after ++ [event], by simp, creates, gone.imp (List.mem_append_left _) (List.mem_append_left _)⟩
    · obtain ⟨before, after, rfl⟩ := List.append_of_mem member
      refine ⟨before, creation, after ++ [event], by simp, creates, now.imp ?_ ?_⟩ <;> rintro rfl <;> simp

theorem pooled_of_left {p : Nat} {events : List Event} (left : Left p events) : Pooled p events := by
  obtain ⟨before, creation, after, rfl, creates, -⟩ := left
  exact ⟨creation, by simp, creates⟩

/-! ## Who holds a process -/

/-- The process that an operation holds. -/
def Phase.holds : Phase → Option Nat
  | .executing p => some p
  | .resolved p => some p
  | _ => none

/-- What each event does, and the phase of its operation before. -/
inductive Effect (s : State) : Event → State → Prop
  | pooled : Effect s (.pooled s.spawned) { s.setProcess s.spawned { ready := true } with
      pythonProcessPool := s.pythonProcessPool ++ [s.spawned]
      spawned := s.spawned + 1
      starting := s.starting - 1 }
  | not_pooled : Effect s .not_pooled { s with starting := s.starting - 1 }
  | found {o p : Nat} (rest : (s.phase o).holds = none) (found : s.available = some p) : Effect s (.look o) ((s.setBusy p true).setPhase o (.executing p))
  | creating {o : Nat} (rest : (s.phase o).holds = none) : Effect s (.look o) { s.setPhase o (.creating s.spawned) with spawned := s.spawned + 1 }
  | waiting {o : Nat} (rest : (s.phase o).holds = none) : Effect s (.look o) (s.setPhase o .waiting)
  | created {o p : Nat} (creating : s.phase o = .creating p) : Effect s (.created o p)
      { (s.setProcess p { ready := true, busy := true }).setPhase o (.executing p) with pythonProcessPool := s.pythonProcessPool ++ [p] }
  | not_created {o p : Nat} (creating : s.phase o = .creating p) : Effect s (.not_created o) (s.setPhase o .idle)
  | resolved {o p : Nat} (executing : s.phase o = .executing p) : Effect s (.resolved o p) (s.setPhase o (.resolved p))
  | released {o p : Nat} (executed : s.phase o = .resolved p) : Effect s (.released o p) ((s.releasePythonProcess p).setPhase o .idle)
  | rejected {o p : Nat} (executing : s.phase o = .executing p) : Effect s (.rejected o p) (s.setPhase o .idle)
  | exited {p : Nat} : Effect s (.exited p) { s.removePythonProcess p with exited := Function.update s.exited p true }
  | disposed : Effect s .disposed { s with pythonProcessPool := [] }

theorem effect_of_step {s t : State} {event : Event} (next : s.step event = some t) : Effect s event t := by
  cases event with
  | not_created o =>
    simp only [State.step] at next
    split at next
    · rename_i p creating
      cases next
      exact .not_created creating
    · cases next
  | disposed =>
    cases next
    exact .disposed
  | look o =>
    simp only [State.step, Option.ite_none_right_eq_some, Option.some.injEq, State.getAvailablePythonProcess] at next
    obtain ⟨at_rest, rfl⟩ := next
    have rest : (s.phase o).holds = none := by rcases at_rest with idle | waiting <;> simp [*, Phase.holds]
    split
    · rename_i p found
      exact .found rest found
    · split
      · exact .creating rest
      · exact .waiting rest
  | pooled p =>
    simp only [State.step, Option.ite_none_right_eq_some, Option.some.injEq] at next
    obtain ⟨⟨-, rfl⟩, rfl⟩ := next
    exact .pooled
  | not_pooled | created o p | resolved o p | released o p | rejected o p | exited p =>
    simp only [State.step, Option.ite_none_right_eq_some, Option.some.injEq] at next
    obtain ⟨guard, rfl⟩ := next
    first
      | exact .created guard.1
      | constructor
        assumption
      | constructor

/-- The pool has the processes that were created and have not left. One is busy while an operation
    holds it, and for ever once an execution was rejected. -/
structure Kept (events : List Event) (s : State) : Prop where
  pool : ∀ p, p ∈ s.pythonProcessPool ↔ Pooled p events ∧ ¬Left p events
  distinct : s.pythonProcessPool.Nodup
  ready : ∀ p, Pooled p events → (s.process p).ready = true
  known : ∀ p, Pooled p events → p < s.spawned ∧ ∀ o, s.phase o ≠ .creating p
  creating : ∀ o p, s.phase o = .creating p → p < s.spawned ∧ ∀ o', s.phase o' = .creating p → o' = o
  held : ∀ o p, (s.phase o).holds = some p → Pooled p events ∧ (s.process p).busy = true ∧ (∀ o', .rejected o' p ∉ events) ∧
    ∀ o', (s.phase o').holds = some p → o' = o
  rejected : ∀ o p, .rejected o p ∈ events → Pooled p events ∧ (s.process p).busy = true

/-- A busy process is held by an operation, or an execution was rejected. -/
def Accounted (events : List Event) (s : State) : Prop :=
  ∀ p, Pooled p events → (s.process p).busy = true → (∃ o, (s.phase o).holds = some p) ∨ ∃ o, .rejected o p ∈ events

theorem kept_init : Kept [] init := by
  constructor <;> simp [Pooled, init, Phase.holds]

theorem kept_step {events : List Event} {s t : State} {event : Event} (kept : Kept events s) (effect : Effect s event t) : Kept (events ++ [event]) t := by
  obtain ⟨pool, distinct, ready, known, creating, held, rejected⟩ := kept
  have before {p : Nat} := @pooled_of_left p events
  cases effect with
  | pooled =>
    constructor <;> simp only [pooled_concat, left_concat, State.setProcess, Event.creates] <;> grind [Function.update]
  | found rest found =>
    have listed := List.mem_of_find?_eq_some found
    have free := List.find?_some found
    constructor <;> simp only [pooled_concat, left_concat, Event.creates, State.setBusy, State.setProcess, State.setPhase] <;> grind [Function.update, Phase.holds]
  | created at_creating =>
    constructor <;> simp only [pooled_concat, left_concat, Event.creates, State.setProcess, State.setPhase] <;> grind [Function.update, Phase.holds]
  | released executed =>
    constructor <;> simp only [pooled_concat, left_concat, Event.creates, State.releasePythonProcess, State.setBusy, State.setProcess, State.setPhase] <;>
      grind [Function.update, Phase.holds]
  | creating | waiting | not_created | resolved | rejected =>
    constructor <;> simp only [pooled_concat, left_concat, Event.creates, State.setPhase] <;> grind [Function.update, Phase.holds]
  | exited =>
    constructor <;> simp only [pooled_concat, left_concat, Event.creates, State.removePythonProcess] <;> grind [List.Nodup.mem_erase_iff, List.Nodup.erase]
  | not_pooled | disposed =>
    constructor <;> simp only [pooled_concat, left_concat, Event.creates] <;> grind

/-- An operation that goes on without giving up what it holds leaves the processes held. -/
theorem held_of_update {phase : Nat → Phase} {o : Nat} {new : Phase} {p : Nat} (held : ∃ o', (phase o').holds = some p)
    (keeps : (phase o).holds = some p → new.holds = some p) : ∃ o', (Function.update phase o new o').holds = some p := by
  obtain ⟨o', held⟩ := held
  by_cases same : o' = o
  · subst same
    exact ⟨o', by simpa using keeps held⟩
  · exact ⟨o', by simpa [Function.update_of_ne same] using held⟩

theorem Accounted.concat {events : List Event} {s : State} (accounted : Accounted events s) {p : Nat} (pooled : Pooled p events)
    (busy : (s.process p).busy = true) {event : Event} {held : Prop} (holds : (∃ o, (s.phase o).holds = some p) → held) :
    held ∨ ∃ o, .rejected o p ∈ events ++ [event] :=
  (accounted p pooled busy).imp holds fun ⟨o, rejected⟩ => ⟨o, List.mem_append_left _ rejected⟩

/-- What holds after an event that changes neither what is busy nor what is held. -/
theorem accounted_of_quiet {events : List Event} {s t : State} {event : Event} (accounted : Accounted events s) (creates : event.creates = none)
    (process : t.process = s.process) (phase : ∀ p, (∃ o, (s.phase o).holds = some p) → ∃ o, (t.phase o).holds = some p) :
    Accounted (events ++ [event]) t := fun p listed busy =>
  accounted.concat (pooled_of_concat (creates ▸ nofun) listed) (process ▸ busy) (phase p)

theorem accounted_step {events : List Event} {s t : State} {event : Event} (accounted : Accounted events s) (effect : Effect s event t) :
    Accounted (events ++ [event]) t := by
  cases effect with
  | pooled =>
    intro p listed busy
    rcases eq_or_ne p s.spawned with rfl | other
    · simp [State.setProcess] at busy
    · simp only [State.setProcess, Function.update_of_ne other] at busy
      exact accounted.concat (pooled_of_concat (by simp [Event.creates, other.symm]) listed) busy id
  | found rest found =>
    rename_i o p
    intro p' listed busy
    rcases eq_or_ne p' p with rfl | other
    · exact .inl ⟨o, by simp [State.setPhase, Phase.holds]⟩
    · simp only [State.setPhase, State.setBusy, State.setProcess, Function.update_of_ne other] at busy
      exact accounted.concat (pooled_of_concat (by simp [Event.creates]) listed) busy fun held => held_of_update held fun same => nomatch rest.symm.trans same
  | created at_creating =>
    rename_i o p
    intro p' listed busy
    rcases eq_or_ne p' p with rfl | other
    · exact .inl ⟨o, by simp [State.setPhase, Phase.holds]⟩
    · simp only [State.setPhase, State.setProcess, Function.update_of_ne other] at busy
      exact accounted.concat (pooled_of_concat (by simp [Event.creates, other.symm]) listed) busy fun held => held_of_update held fun same =>
        absurd (show (s.phase o).holds = some p' from same) (by simp [at_creating, Phase.holds])
  | released executed =>
    rename_i o p
    intro p' listed busy
    rcases eq_or_ne p' p with rfl | other
    · simp [State.setPhase, State.releasePythonProcess, State.setBusy, State.setProcess] at busy
    · simp only [State.setPhase, State.releasePythonProcess, State.setBusy, State.setProcess, Function.update_of_ne other] at busy
      exact accounted.concat (pooled_of_concat (by simp [Event.creates]) listed) busy fun held => held_of_update held fun same =>
        absurd (show (s.phase o).holds = some p' from same) (by simp [executed, Phase.holds, other.symm])
  | rejected executing =>
    rename_i o p
    intro p' listed busy
    rcases eq_or_ne p' p with rfl | other
    · exact .inr ⟨o, by simp⟩
    · exact accounted.concat (pooled_of_concat (by simp [Event.creates]) listed) busy fun held => held_of_update held fun same => by simp [executing, Phase.holds, other.symm] at same
  | creating rest | waiting rest =>
    exact accounted_of_quiet accounted rfl rfl fun p held => held_of_update held fun same => nomatch rest.symm.trans same
  | not_created at_creating =>
    exact accounted_of_quiet accounted rfl rfl fun p held => held_of_update held fun same => by simp [at_creating, Phase.holds] at same
  | resolved executing =>
    exact accounted_of_quiet accounted rfl rfl fun p held => held_of_update held fun same => by rwa [executing] at same
  | not_pooled | exited | disposed =>
    exact accounted_of_quiet accounted rfl rfl fun _ => id

/-! ## Runs -/

theorem kept_run {events : List Event} {s : State} (run : Run events s) : Kept events s ∧ Accounted events s := by
  induction run with
  | init => exact ⟨kept_init, fun p ⟨_, member, _⟩ => nomatch member⟩
  | step run next ih => exact ⟨kept_step ih.1 (effect_of_step next), accounted_step ih.2 (effect_of_step next)⟩

def reload : List Event := [.pooled 0, .look 0, .resolved 0 0, .released 0 0]
def slow_reload : List Event := [.pooled 0, .look 0, .rejected 0 0]

theorem run_of_foldlM {events : List Event} {s : State} (steps : events.foldlM State.step init = some s) : Run events s := by
  induction events using List.reverseRecOn generalizing s with
  | nil =>
    cases steps
    exact .init
  | append_singleton events event ih =>
    rw [List.foldlM_append] at steps
    obtain ⟨before, earlier, last⟩ := Option.bind_eq_some_iff.mp steps
    refine (ih earlier).step ?_
    simpa using last

theorem slow_reload_run : ∃ s, Run slow_reload s ∧ s.Idle ∧ 0 ∈ s.pythonProcessPool ∧ (s.process 0).busy = true := by
  refine ⟨_, run_of_foldlM rfl, fun o => ?_, List.mem_singleton.mpr rfl, rfl⟩
  by_cases first : o = 0
  · subst first
    rfl
  · exact (Function.update_of_ne first ..).trans (Function.update_of_ne first ..)

theorem reload_run : ∃ s, Run reload s ∧ s.Idle := by
  refine ⟨_, run_of_foldlM rfl, fun o => ?_⟩
  by_cases first : o = 0
  · subst first
    rfl
  · exact ((Function.update_of_ne first ..).trans (Function.update_of_ne first ..)).trans (Function.update_of_ne first ..)

end RevitPy.PythonProcesses
