import RevitPy.Dict
import RevitPy.Runs
import RevitPy.StableSort

/-!
# Files tracked for a hot reload

All watch paths share one map of tracked files, and whether a file is in a watch path is
decided by how their texts begin. A batch keeps one event for each path, the first of
those with the latest timestamp.
-/

namespace RevitPy.Host
open Runs StableSort

inductive FileChangeType
  | Modified | Deleted | Renamed | Created
  deriving DecidableEq

structure FileChangeEvent where
  type : FileChangeType
  filePath : String
  oldPath : Option String := none
  timestamp : Int
  deriving DecidableEq

/-- What a watcher raises. Its paths are full. -/
inductive WatcherEvent
  | changed (fullPath : String)
  | deleted (fullPath : String)
  | renamed (fullPath oldFullPath : String)

/-- `OnFileChanged`, `OnFileDeleted` and `OnFileRenamed` -/
def WatcherEvent.toChange (utcNow : Int) : WatcherEvent → FileChangeEvent
  | .changed fullPath => { type := .Modified, filePath := fullPath, timestamp := utcNow }
  | .deleted fullPath => { type := .Deleted, filePath := fullPath, timestamp := utcNow }
  | .renamed fullPath oldFullPath => { type := .Renamed, filePath := fullPath, oldPath := some oldFullPath, timestamp := utcNow }

/-- What is done for a file of a batch. -/
inductive FileAction
  | reload | untrack
  deriving DecidableEq

/-- Functions on paths and their characters. `Path.GetFullPath` is `none` where it throws. -/
structure WatchPaths where
  isNullOrWhiteSpace : String → Bool
  getFullPath : String → Option String
  separator : Char
  upper : Char → Char

/-- What an addition meets: whether the directory exists, whether a watcher can be made for it, and its files, unless
    they cannot be listed. -/
structure WatchCircumstances where
  directoryExists : Bool := true
  watcherFails : Bool := false
  files : Option (List String) := some []

inductive HotReloadInput
  | addWatchPath (path : String) (recursive : Bool) (met : WatchCircumstances)
  | removeWatchPath (path : String)
  | fileEvent (e : WatcherEvent) (utcNow : Int)
  | processPendingChanges (fileExists : String → Bool)

structure HotReloadManager where
  isEnabled : Bool
  isActive : Bool
  /-- The full paths that are watched, and whether they are watched with what is below them. -/
  watchers : Dict String Bool := ∅
  watchedFiles : List String := []
  pendingChanges : List FileChangeEvent := []
  /-- What the last run over the pending changes did. -/
  processed : List (String × FileAction) := []

namespace HotReloadManager

variable (paths : WatchPaths)

/-- `StartsWith`, ignoring case. -/
def startsWith (file : String) (text : List Char) : Bool := (text.map paths.upper).isPrefixOf (file.toList.map paths.upper)

/-- `TryAdd` and `AddOrUpdate` -/
def track (files : List String) (file : String) : List String := if file ∈ files then files else files ++ [file]

def newerFirst (a b : FileChangeEvent) : Bool := decide (b.timestamp ≤ a.timestamp)

/-- The changes of a path. -/
def own (changes : List FileChangeEvent) (filePath : String) : List FileChangeEvent := changes.filter fun c => c.filePath = filePath

/-- `GroupBy`, and the first of each group by the latest timestamp. -/
def latestChanges (changes : List FileChangeEvent) : List FileChangeEvent :=
  (changes.map (·.filePath)).eraseDups.filterMap fun filePath => ((own changes filePath).mergeSort newerFirst).head?

/-- The full path of a call, if it goes on with one. -/
def fullPath (path : String) : Option String := if paths.isNullOrWhiteSpace path then none else paths.getFullPath path

def addWatchPath (m : HotReloadManager) (path : String) (recursive : Bool) (met : WatchCircumstances) : HotReloadManager :=
  if !m.isEnabled then m
  else match fullPath paths path with
    | none => m
    | some fullPath =>
      if m.watchers.contains fullPath || !met.directoryExists || met.watcherFails then m
      else
        { m with
          watchers := m.watchers.set fullPath recursive
          -- `IndexExistingFilesAsync`
          watchedFiles := if m.isActive then (met.files.getD []).foldl track m.watchedFiles else m.watchedFiles }

def removeWatchPath (m : HotReloadManager) (path : String) : HotReloadManager := match fullPath paths path with
  | none => m
  | some fullPath =>
    if m.watchers.contains fullPath then
      { m with
        watchers := m.watchers.erase fullPath
        watchedFiles := m.watchedFiles.filter fun f => !startsWith paths f fullPath.toList }
    else m

/-- A file that is reloaded is tracked if it exists. -/
def processPendingChanges (m : HotReloadManager) (fileExists : String → Bool) : HotReloadManager :=
  if !m.isActive then { m with processed := [] }
  else
    let latest := latestChanges m.pendingChanges
    let reloaded := (latest.filter fun c => c.type ≠ .Deleted).map (·.filePath)
    let deleted := (latest.filter fun c => c.type = .Deleted).map (·.filePath)
    { m with
      pendingChanges := []
      watchedFiles := ((reloaded.filter fileExists).foldl track m.watchedFiles).filter fun f => f ∉ deleted
      processed := reloaded.map (·, .reload) ++ deleted.map (·, .untrack) }

def step (m : HotReloadManager) : HotReloadInput → HotReloadManager
  | .addWatchPath path recursive met => m.addWatchPath paths path recursive met
  | .removeWatchPath path => m.removeWatchPath paths path
  | .fileEvent e utcNow => if m.isActive then { m with pendingChanges := m.pendingChanges ++ [e.toChange utcNow] } else m
  | .processPendingChanges fileExists => m.processPendingChanges fileExists

/-! ## What the calls are for -/

/-- A file lies inside a directory. -/
def inside (directory file : String) : Bool :=
  startsWith paths file (if directory.toList.getLast? = some paths.separator then directory.toList else directory.toList ++ [paths.separator])

/-- The last change about a file: of its path, or of one that it was renamed from. -/
def lastChange (changes : List FileChangeEvent) (file : String) : Option FileChangeEvent :=
  (changes.filter fun c => c.filePath = file ∨ c.oldPath = some file).getLast?

/-- The last change about a file is its deletion or a rename to another name. -/
def EndsGone (changes : List FileChangeEvent) (file : String) : Prop :=
  ∃ c, lastChange changes file = some c ∧ (c.type = .Deleted ∨ c.filePath ≠ file)

/-- What the last change about a file asks for. -/
def due (changes : List FileChangeEvent) (file : String) : Option FileAction :=
  (lastChange changes file).map fun c => if c.type = .Deleted ∨ c.filePath ≠ file then .untrack else .reload

/-- A removal untracks the files inside the directory that are in no watch path that is left, and a batch does for
    each file what its last change asks for. -/
def StepsRight (m : HotReloadManager) : HotReloadInput → Prop
  | .removeWatchPath path => ∀ p, fullPath paths path = some p → ∀ f,
      f ∈ (m.removeWatchPath paths path).watchedFiles ↔ f ∈ m.watchedFiles ∧
        ¬(inside paths p f = true ∧ ∀ q ∈ (m.removeWatchPath paths path).watchers.keys, inside paths q f = false)
  | .processPendingChanges fileExists =>
    (∀ f action, (f, action) ∈ (m.processPendingChanges fileExists).processed ↔ due m.pendingChanges f = some action) ∧
      ∀ f, due m.pendingChanges f = some .untrack → f ∉ (m.processPendingChanges fileExists).watchedFiles
  | _ => True

/-- The tracked files that begin with a watch path that is removed lie inside it and in no other, and those inside a
    path that is not watched lie in one that is. In a batch the first change of the latest timestamp of a path is a
    deletion exactly where the file ends gone. -/
def Meets (m : HotReloadManager) : HotReloadInput → Prop
  | .removeWatchPath path => ∀ p, fullPath paths path = some p → ∀ f ∈ m.watchedFiles,
      if p ∈ m.watchers.keys then startsWith paths f p.toList = true → inside paths p f = true ∧ ∀ q ∈ m.watchers.keys, q ≠ p → inside paths q f = false
      else inside paths p f = true → ∃ q ∈ m.watchers.keys, inside paths q f = true
  | .processPendingChanges _ => ∀ f,
      (∃ c, IsFirst newerFirst (own m.pendingChanges f) c ∧ c.type = .Deleted) ↔ EndsGone m.pendingChanges f
  | _ => True

end HotReloadManager

end RevitPy.Host
