import Mathlib.Data.List.Perm.Basic
import RevitPy.FileWatcher
import RevitPy.Runs

/-!
# No queued change is lost

The latest event of a path is to stand in the queue with a timer, or to be processed, or to
be done with. A processing deletes or overwrites the entry of its path at its end, whatever
event stands there by then.
-/

namespace RevitPy
open Runs

def Processing.number (processing : Processing) : Nat := processing.queuedChange.event.number

namespace FileWatcher
variable {H : Type}

/-- The events that are done with, or are being processed. -/
def handled (s : FileWatcher H) : List Nat :=
  s.emitted.map FileChangeEvent.number ++ s.unchanged.map FileChangeEvent.number ++ s.processing.map Processing.number

/-- An event stands in the queue, and its timer will fire. -/
def Waiting (s : FileWatcher H) (number : Nat) : Prop :=
  ∃ queued, s.changeQueue = some queued ∧ queued.event.number = number ∧ queued.timer ∈ s.timers

/-- Each queued event is followed by a later one, or waits, or is handled. -/
def NoneLost (s : FileWatcher H) : Prop :=
  ∀ number < s.arrived, number + 1 < s.arrived ∨ s.Waiting number ∨ number ∈ s.handled

/-- A processing comes to its end when it goes on. -/
def Ends (filePath : String) (s : FileWatcher H) (processing : Processing) (found : Found H) : Prop := match processing.awaits with
  | .fileExists => found.fileExists = false ∧ isSourceFile filePath = false
  | .calculateFileHash => s.fileHashCache = some found.currentHash ∨ isSourceFile filePath = false
  | .updateFileDependencies => True

/-- A processing finds the hash unchanged, or the listeners return, or there is a further
    attempt. -/
def Settles (s : FileWatcher H) (processing : Processing) (found : Found H) : Prop :=
  processing.awaits = .calculateFileHash ∧ s.fileHashCache = some found.currentHash ∨
    found.listenersReturn = true ∨ processing.queuedChange.attempts < 3

/-- Where a processing ends, the latest event is handled elsewhere, or is the one that it
    settles. -/
def Spares (filePath : String) (s : FileWatcher H) (processing : Processing) (found : Found H) : Prop :=
  Ends filePath s processing found → ∀ number, number + 1 = s.arrived →
    number ∈ s.handled ∨ number = processing.number ∧ Settles s processing found

/-- The condition on a step. What is processed without a pause counts as a processing that
    has waited for all. -/
def Careful (filePath : String) (s : FileWatcher H) : WatcherStep H → Prop
  | .fileEvent _ => True
  | .timer id found => ∀ queued, id ∈ s.timers → s.changeQueue = some queued → queued.event.type ≠ .change →
      isSourceFile filePath = false → Spares filePath s ⟨queued, .updateFileDependencies⟩ found
  | .resume index found => ∀ processing, s.processing[index]? = some processing →
      Spares filePath { s with processing := s.processing.eraseIdx index } processing found

variable {shouldIgnoreFile : String → Bool} {filePath : String} {s : FileWatcher H}

/-! ## The end of a processing -/

theorem noneLost_iff (s : FileWatcher H) : s.NoneLost ↔ ∀ number, number + 1 = s.arrived → s.Waiting number ∨ number ∈ s.handled := by
  constructor
  · intro none number latest
    exact (none number (by omega)).resolve_left (by omega)
  · intro latest number known
    by_cases last : number + 1 = s.arrived
    · exact .inr (latest number last)
    · exact .inl (by omega)

theorem waiting_queueChange (event : FileChangeEvent) (number : Nat) : (s.queueChange event).Waiting number ↔ number = event.number := by
  simp [Waiting, queueChange, eq_comm]

theorem noneLost_queueChange {event : FileChangeEvent} (latest : s.arrived = event.number + 1) : (s.queueChange event).NoneLost := by
  refine (noneLost_iff _).mpr fun number last => .inl ((waiting_queueChange event number).mpr ?_)
  have same : number + 1 = s.arrived := last
  omega

/-- The handled events at the end of a processing: its own is one more, where it is emitted
    or left out. -/
theorem mem_handled_emitted (event : FileChangeEvent) (number : Nat) :
    number ∈ ({ s with emitted := s.emitted ++ [event], changeQueue := none } : FileWatcher H).handled ↔
      number ∈ s.handled ∨ number = event.number := by
  simp only [handled, List.map_append, List.mem_append, List.map_cons, List.map_nil, List.mem_singleton]
  tauto

theorem mem_handled_unchanged (event : FileChangeEvent) (number : Nat) :
    number ∈ ({ s with unchanged := s.unchanged ++ [event], changeQueue := none } : FileWatcher H).handled ↔
      number ∈ s.handled ∨ number = event.number := by
  simp only [handled, List.map_append, List.mem_append, List.map_cons, List.map_nil, List.mem_singleton]
  tauto

theorem noneLost_emitFileChanged (queued : QueuedChange) (found : Found H) : (s.emitFileChanged queued found).NoneLost ↔
    ∀ number, number + 1 = s.arrived → number ∈ s.handled ∨
      number = queued.event.number ∧ (found.listenersReturn = true ∨ queued.attempts < 3) := by
  rw [noneLost_iff]
  unfold emitFileChanged
  split
  · next returns => simp [mem_handled_emitted, Waiting, returns]
  · next raises =>
    split
    · next again =>
      have same : (s.queueChange queued.event).handled = s.handled := rfl
      simp only [waiting_queueChange, same, again, or_true, and_true]
      exact forall₂_congr fun _ _ => or_comm
    · next last =>
      have same : ({ s with changeQueue := none } : FileWatcher H).handled = s.handled := rfl
      simp [same, Waiting, raises, last]

/-- The latest event waits, or is handled, or is the one that is taken out of a list. -/
def NoOtherLost (s : FileWatcher H) (event : FileChangeEvent) : Prop :=
  ∀ number, number + 1 = s.arrived → s.Waiting number ∨ number ∈ s.handled ∨ number = event.number

/-- A processing that goes on waiting counts as handled. -/
theorem noneLost_wait {queued : QueuedChange} (awaits : Awaited) (others : s.NoOtherLost queued.event) :
    ({ s with processing := s.processing ++ [⟨queued, awaits⟩] } : FileWatcher H).NoneLost := by
  refine (noneLost_iff _).mpr fun number latest => ?_
  rcases others number latest with waits | there | rfl
  · exact .inl waits
  · simp only [handled, List.map_append, List.mem_append] at there ⊢
    tauto
  · simp [handled, Processing.number]

theorem noneLost_updateDependencies {queued : QueuedChange} (found : Found H) (others : s.NoOtherLost queued.event) :
    (s.updateDependencies filePath queued found).NoneLost ↔ (isSourceFile filePath = false → ∀ number, number + 1 = s.arrived →
      number ∈ s.handled ∨ number = queued.event.number ∧ (found.listenersReturn = true ∨ queued.attempts < 3)) := by
  unfold updateDependencies
  split
  · next source => exact iff_of_true (noneLost_wait _ others) fun other => absurd (source.symm.trans other) Bool.noConfusion
  · next other =>
    rw [noneLost_emitFileChanged, Bool.not_eq_true] at *
    exact ⟨fun all _ => all, fun all => all other⟩

variable [DecidableEq H]

/-- A processing that goes on loses nothing exactly where its end spares the latest event. -/
theorem noneLost_continueProcessing {processing : Processing} (found : Found H) (others : s.NoOtherLost processing.queuedChange.event) :
    (s.continueProcessing filePath processing found).NoneLost ↔ Spares filePath s processing found := by
  obtain ⟨queued, awaits⟩ := processing
  cases awaits with
  | fileExists =>
    simp only [continueProcessing, Spares, Ends, Settles, Processing.number]
    split
    · next there => exact iff_of_true (noneLost_wait _ others) fun ends => absurd (there.symm.trans ends.1) Bool.noConfusion
    · next gone =>
      rw [noneLost_updateDependencies found others]
      simp [gone]
  | calculateFileHash =>
    simp only [continueProcessing, Spares, Ends, Settles, Processing.number]
    split
    · next same =>
      simp only [noneLost_iff, mem_handled_unchanged, Waiting]
      simp [same]
    · next changed =>
      have others' : ({ s with fileHashCache := some found.currentHash } : FileWatcher H).NoOtherLost queued.event := others
      have same : ({ s with fileHashCache := some found.currentHash } : FileWatcher H).handled = s.handled := rfl
      rw [noneLost_updateDependencies found others', same]
      simp [changed]
  | updateFileDependencies =>
    simp only [continueProcessing, Spares, Ends, Settles, Processing.number]
    rw [noneLost_emitFileChanged]
    simp

omit [DecidableEq H] in
/-- What stands in the queue is processed, whether its own timer has fired or another. -/
theorem noneLost_processFileChange (found : Found H) (placed : ∀ number, number + 1 = s.arrived →
      (∃ queued, s.changeQueue = some queued ∧ number = queued.event.number) ∨ number ∈ s.handled) :
    (s.processFileChange filePath found).NoneLost ↔ ∀ queued, s.changeQueue = some queued → queued.event.type ≠ .change →
      isSourceFile filePath = false → Spares filePath s ⟨queued, .updateFileDependencies⟩ found := by
  unfold processFileChange
  split
  · next empty =>
    refine iff_of_true ((noneLost_iff s).mpr fun number latest => .inr ?_) (by simp [empty])
    rcases placed number latest with ⟨queued, entry, _⟩ | done
    · exact absurd (entry.symm.trans empty) (Option.some_ne_none _)
    · exact done
  · next queued entry =>
    have others : s.NoOtherLost queued.event := by
      intro number latest
      rcases placed number latest with ⟨_, same, rfl⟩ | done
      · exact .inr (.inr (Option.some.inj (entry.symm.trans same) ▸ rfl))
      · exact .inr (.inl done)
    split
    · next changed => exact iff_of_true (noneLost_wait _ others) (by simp [entry, changed])
    · next changed =>
      rw [noneLost_updateDependencies found others]
      simp [entry, changed, Spares, Ends, Settles, Processing.number]

/-! ## Runs -/

omit [DecidableEq H] in
/-- The processings other than one, and this one. -/
theorem noOtherLost_eraseIdx {index : Nat} {processing : Processing} (there : s.processing[index]? = some processing) (none : s.NoneLost) :
    ({ s with processing := s.processing.eraseIdx index } : FileWatcher H).NoOtherLost processing.queuedChange.event := by
  intro number latest
  rcases (noneLost_iff s).mp none number latest with waits | done
  · exact .inl waits
  · obtain ⟨inside, rfl⟩ := List.getElem?_eq_some_iff.mp there
    have same := ((List.getElem_cons_eraseIdx_perm inside).map Processing.number).mem_iff (a := number)
    simp only [handled, List.mem_append, ← same, List.map_cons, List.mem_cons, Processing.number] at done ⊢
    tauto

omit [DecidableEq H] in
/-- The latest event stands in the queue, or is handled. -/
theorem queued_or_handled (none : s.NoneLost) {number : Nat} (latest : number + 1 = s.arrived) :
    (∃ queued, s.changeQueue = some queued ∧ number = queued.event.number) ∨ number ∈ s.handled := by
  rcases (noneLost_iff s).mp none number latest with ⟨queued, entry, rfl, _⟩ | done
  · exact .inl ⟨queued, entry, rfl⟩
  · exact .inr done

/-- A step loses nothing exactly where it is careful. -/
theorem noneLost_step (none : s.NoneLost) (input : WatcherStep H) :
    (step shouldIgnoreFile filePath s input).NoneLost ↔ Careful filePath s input := by
  cases input with
  | fileEvent type =>
    refine iff_of_true ?_ trivial
    simp only [step, handleFileEvent]
    split
    · exact none
    · exact noneLost_queueChange rfl
  | timer id found =>
    simp only [step, Careful]
    split
    · next pending =>
      let fired : FileWatcher H := { s with timers := s.timers.erase id }
      have placed (number : Nat) (latest : number + 1 = fired.arrived) :
          (∃ queued, fired.changeQueue = some queued ∧ number = queued.event.number) ∨ number ∈ fired.handled := queued_or_handled none latest
      refine (noneLost_processFileChange found placed).trans ?_
      exact ⟨fun careful queued _ => careful queued, fun careful queued => careful queued pending⟩
    · next gone => simp [gone, none]
  | resume index found =>
    simp only [step, Careful]
    split
    · next processing there =>
      rw [noneLost_continueProcessing found (noOtherLost_eraseIdx there none)]
      simp [there]
    · next gone => simp [gone, none]

/-- In every run, no queued change is lost exactly where all steps are careful. -/
theorem none_lost_iff (shouldIgnoreFile : String → Bool) (filePath : String) (steps : List (WatcherStep H)) :
    Throughout (step shouldIgnoreFile filePath) NoneLost {} steps ↔ Along (step shouldIgnoreFile filePath) (Careful filePath) {} steps := by
  have start : ({} : FileWatcher H).NoneLost := fun _ known => absurd known (Nat.not_lt_zero _)
  constructor
  · exact along_of_throughout (fun _ input none careful => (noneLost_step none input).mpr careful)
      (fun _ input none good => (noneLost_step none input).mp good) start
  · exact throughout_keeps (fun _ input none careful => (noneLost_step none input).mpr careful) start

/-- The second event comes while the hash of the first is calculated, and is queued when the
    first is emitted and the entry of their path deleted. -/
theorem queued_change_lost : ¬Throughout (step (fun _ => false) "app.py") NoneLost ({} : FileWatcher String)
    [.fileEvent .change, .timer 0 ⟨true, "", true⟩, .resume 0 ⟨true, "", true⟩, .fileEvent .change,
      .resume 0 ⟨true, "3b7c212d80544566c82e63f60e1c0b25", true⟩, .resume 0 ⟨true, "", true⟩] := by
  rintro ⟨_, _, _, _, _, _, none⟩
  rcases none 1 (by decide) with later | ⟨queued, entry, _⟩ | done
  · exact absurd later (by decide)
  · cases entry
  · exact absurd done (by decide)

end FileWatcher
end RevitPy
