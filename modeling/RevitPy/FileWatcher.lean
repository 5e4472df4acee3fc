import Mathlib.Data.List.Basic
import Mathlib.Logic.Basic

/-!
# The debounced file watcher, for one path

An event stands in the queue under its path, with a timer, and takes the place of what
stood there. When a timer fires, what stands in the queue is processed, with pauses in
which anything else may happen; at the end the entry under the path is deleted.
-/

namespace RevitPy

inductive FileChangeType
  | add | change | unlink | addDir | unlinkDir
  deriving DecidableEq

structure FileChangeEvent where
  /-- Events are numbered as they arrive. -/
  number : Nat
  type : FileChangeType

structure QueuedChange where
  event : FileChangeEvent
  timer : Nat
  attempts : Nat

/-- What a processing waits for. -/
inductive Awaited
  | fileExists | calculateFileHash | updateFileDependencies

structure Processing where
  queuedChange : QueuedChange
  awaits : Awaited

structure FileWatcher (H : Type) where
  changeQueue : Option QueuedChange := none
  /-- The timers that have neither fired nor been cleared. -/
  timers : List Nat := []
  timeouts : Nat := 0
  processing : List Processing := []
  fileHashCache : Option H := none
  /-- How many events were queued. -/
  arrived : Nat := 0
  /-- The events on which all listeners returned. -/
  emitted : List FileChangeEvent := []
  /-- The events that were left out as their hash was the cached one. -/
  unchanged : List FileChangeEvent := []

/-- What a processing may find when it goes on. The hash of a file that cannot be read is
    the empty text, also for a file that was there before. -/
structure Found (H : Type) where
  fileExists : Bool
  currentHash : H
  listenersReturn : Bool

inductive WatcherStep (H : Type)
  | fileEvent (type : FileChangeType)
  | timer (id : Nat) (found : Found H)
  /-- What one of the processings waits for is there. -/
  | resume (index : Nat) (found : Found H)

def sourceExtensions : List String := [".py", ".js", ".ts", ".jsx", ".tsx", ".vue", ".svelte"]

def isSourceFile (filePath : String) : Bool := sourceExtensions.any fun ext => ext.toList.isSuffixOf filePath.toList

namespace FileWatcher
variable {H : Type} [DecidableEq H] (shouldIgnoreFile : String → Bool) (filePath : String) (s : FileWatcher H)

def queueChange (event : FileChangeEvent) : FileWatcher H := { s with
  timers := s.changeQueue.elim s.timers (fun queued => s.timers.erase queued.timer) ++ [s.timeouts]
  timeouts := s.timeouts + 1
  changeQueue := some ⟨event, s.timeouts, s.changeQueue.elim 0 QueuedChange.attempts + 1⟩ }

def handleFileEvent (type : FileChangeType) : FileWatcher H :=
  if shouldIgnoreFile filePath then s
  else
    let s := if type = .unlink then { s with fileHashCache := none } else s
    { s with arrived := s.arrived + 1 }.queueChange ⟨s.arrived, type⟩

/-- The end of a processing. Only a listener can raise an error. -/
def emitFileChanged (queued : QueuedChange) (found : Found H) : FileWatcher H :=
  if found.listenersReturn then { s with emitted := s.emitted ++ [queued.event], changeQueue := none }
  else if queued.attempts < 3 then s.queueChange queued.event
  else { s with changeQueue := none }

def updateDependencies (queued : QueuedChange) (found : Found H) : FileWatcher H :=
  if isSourceFile filePath then { s with processing := s.processing ++ [⟨queued, .updateFileDependencies⟩] }
  else s.emitFileChanged queued found

/-- What a processing does when what it waits for is there, until it waits again. -/
def continueProcessing (processing : Processing) (found : Found H) : FileWatcher H := match processing.awaits with
  | .fileExists =>
    if found.fileExists then { s with processing := s.processing ++ [{ processing with awaits := .calculateFileHash }] }
    else s.updateDependencies filePath processing.queuedChange found
  | .calculateFileHash =>
    if s.fileHashCache = some found.currentHash then
      { s with unchanged := s.unchanged ++ [processing.queuedChange.event], changeQueue := none }
    else { s with fileHashCache := some found.currentHash }.updateDependencies filePath processing.queuedChange found
  | .updateFileDependencies => s.emitFileChanged processing.queuedChange found

def processFileChange (found : Found H) : FileWatcher H := match s.changeQueue with
  | none => s
  | some queued =>
    if queued.event.type = .change then { s with processing := s.processing ++ [⟨queued, .fileExists⟩] }
    else s.updateDependencies filePath queued found

def step : WatcherStep H → FileWatcher H
  | .fileEvent type => s.handleFileEvent shouldIgnoreFile filePath type
  | .timer id found =>
    if id ∈ s.timers then { s with timers := s.timers.erase id }.processFileChange filePath found else s
  | .resume index found => match s.processing[index]? with
    | some processing => { s with processing := s.processing.eraseIdx index }.continueProcessing filePath processing found
    | none => s

end FileWatcher
end RevitPy
