import RevitPy.Dict
import RevitPy.Runs

/-!
# Extensions that are loaded, unloaded and reloaded

The manager keeps what it knows of an extension under an id that it makes from the path,
and the load context under the same id. A failed load leaves its info in the dictionary
in which the next load looks for what is already loaded.
-/

namespace RevitPy.Host

inductive PluginException
  | argument (message : String)
  | fileNotFound (message : String)
  | invalidOperation (message : String)
  | other (message : String)
  deriving DecidableEq

def PluginException.message : PluginException → String
  | .argument message | .fileNotFound message | .invalidOperation message | .other message => message

inductive ExtensionStatus
  | Loading | Loaded | Failed | Unloading | Unloaded
  deriving DecidableEq

structure ExtensionInfo where
  id : String
  name : String
  path : String
  status : ExtensionStatus
  loadErrors : List String := []
  deriving DecidableEq

structure ExtensionValidationResult where
  isValid : Bool
  errors : List String
  deriving DecidableEq

/-- What a load meets: whether the file exists, what its validation says, the name in its metadata, and what
    comes of loading it by its type. -/
structure LoadOutcome (κ : Type) where
  fileExists : Bool
  validation : ExtensionValidationResult
  name : String
  loadContext : Except PluginException κ

/-- What the manager logs of an extension. -/
inductive LogEntry
  | validated (extensionId : String)
  | loaded (extensionId : String)
  | alreadyLoaded (extensionId : String)
  | loadFailed (extensionId : String)
  | unloaded (extensionId : String)
  deriving DecidableEq

/-- Functions on paths. -/
structure PathFunctions where
  isNullOrWhiteSpace : String → Bool
  /-- `GenerateExtensionId` -/
  generateExtensionId : String → String
  getFileNameWithoutExtension : String → String

structure PluginManager (κ : Type) where
  loadedExtensions : Dict String ExtensionInfo := ∅
  loadContexts : Dict String κ := ∅
  totalLoaded : Nat := 0
  loadFailures : Nat := 0
  /-- The newest entry comes first. -/
  log : List LogEntry := []

namespace PluginManager

variable {κ : Type} (paths : PathFunctions)

/-- `TryAdd` -/
def tryAdd {β : Type} (d : Dict String β) (key : String) (value : β) : Dict String β :=
  if d.contains key then d else d.set key value

/-- What a load does that finds nothing loaded, up to the load context. -/
def attempt (extensionPath : String) (outcome : LoadOutcome κ) : Except PluginException (ExtensionInfo × κ) := do
  if !outcome.validation.isValid then
    throw (.invalidOperation ("Extension validation failed: " ++ "; ".intercalate outcome.validation.errors))
  let extensionInfo : ExtensionInfo :=
    { id := paths.generateExtensionId extensionPath, name := outcome.name, path := extensionPath, status := .Loading }
  let loadContext ← outcome.loadContext
  return (extensionInfo, loadContext)

def loadExtension (manager : PluginManager κ) (extensionPath : String) (outcome : LoadOutcome κ) :
    Except PluginException ExtensionInfo × PluginManager κ :=
  if paths.isNullOrWhiteSpace extensionPath then (.error (.argument "Extension path cannot be empty"), manager)
  else if !outcome.fileExists then (.error (.fileNotFound ("Extension file not found: " ++ extensionPath)), manager)
  else
    let extensionId := paths.generateExtensionId extensionPath
    match manager.loadedExtensions.get? extensionId with
    | some extensionInfo => (.ok extensionInfo, { manager with log := .alreadyLoaded extensionId :: manager.log })
    | none =>
      match attempt paths extensionPath outcome with
      | .ok (extensionInfo, loadContext) =>
        let extensionInfo := { extensionInfo with status := .Loaded }
        (.ok extensionInfo,
          { loadContexts := tryAdd manager.loadContexts extensionId loadContext
            loadedExtensions := tryAdd manager.loadedExtensions extensionId extensionInfo
            totalLoaded := manager.totalLoaded + 1
            loadFailures := manager.loadFailures
            log := .loaded extensionId :: .validated extensionId :: manager.log })
      | .error ex =>
        let failedExtension : ExtensionInfo :=
          { id := extensionId, name := paths.getFileNameWithoutExtension extensionPath, path := extensionPath, status := .Failed,
            loadErrors := ["Failed to load extension " ++ extensionPath ++ ": " ++ ex.message] }
        (.error ex,
          { manager with
            loadedExtensions := tryAdd manager.loadedExtensions extensionId failedExtension
            loadFailures := manager.loadFailures + 1
            log := .loadFailed extensionId :: manager.log })

/-- Nothing between the two removals raises. -/
def unloadExtension (manager : PluginManager κ) (extensionId : String) : Except PluginException Unit × PluginManager κ :=
  if paths.isNullOrWhiteSpace extensionId then (.error (.argument "Extension ID cannot be empty"), manager)
  else
    match manager.loadedExtensions.get? extensionId with
    | none => (.ok (), manager)
    | some _ =>
      (.ok (), { manager with
        loadContexts := manager.loadContexts.erase extensionId
        loadedExtensions := manager.loadedExtensions.erase extensionId
        log := .unloaded extensionId :: manager.log })

def reloadExtension (manager : PluginManager κ) (extensionId : String) (outcome : LoadOutcome κ) :
    Except PluginException Unit × PluginManager κ :=
  match manager.loadedExtensions.get? extensionId with
  | none => (.error (.argument ("Extension not found: " ++ extensionId)), manager)
  | some extensionInfo =>
    match unloadExtension paths manager extensionId with
    | (.error ex, manager) => (.error ex, manager)
    | (.ok (), manager) =>
      let (result, manager) := loadExtension paths manager extensionInfo.path outcome
      (result.map fun _ => (), manager)

inductive Call (κ : Type)
  | load (extensionPath : String) (outcome : LoadOutcome κ)
  | unload (extensionId : String)
  | reload (extensionId : String) (outcome : LoadOutcome κ)

def step (manager : PluginManager κ) : Call κ → PluginManager κ
  | .load extensionPath outcome => (loadExtension paths manager extensionPath outcome).2
  | .unload extensionId => (unloadExtension paths manager extensionId).2
  | .reload extensionId outcome => (reloadExtension paths manager extensionId outcome).2

/-! ## What a load returns -/

/-- The entries of the log since an extension was last unloaded. -/
def sinceUnloaded (extensionId : String) (log : List LogEntry) : List LogEntry := log.takeWhile (· ≠ .unloaded extensionId)

/-- The extension has been validated and loaded since it was last unloaded. -/
structure IsLoaded (manager : PluginManager κ) (extensionId : String) (extensionInfo : ExtensionInfo) : Prop where
  status : extensionInfo.status = .Loaded
  loadContext : ∃ loadContext, manager.loadContexts.get? extensionId = some loadContext
  validated : .validated extensionId ∈ sinceUnloaded extensionId manager.log
  loaded : .loaded extensionId ∈ sinceUnloaded extensionId manager.log

/-- A load that returns shows an extension that is loaded. -/
def LoadsRight (manager : PluginManager κ) (extensionPath : String) (outcome : LoadOutcome κ) : Prop :=
  ∀ extensionInfo, (loadExtension paths manager extensionPath outcome).1 = .ok extensionInfo →
    (loadExtension paths manager extensionPath outcome).2.IsLoaded (paths.generateExtensionId extensionPath) extensionInfo

/-- The load that a call makes is right. -/
def CallRight (manager : PluginManager κ) : Call κ → Prop
  | .load extensionPath outcome => LoadsRight paths manager extensionPath outcome
  | .unload _ => True
  | .reload extensionId outcome => ∀ extensionInfo, manager.loadedExtensions.get? extensionId = some extensionInfo →
      (unloadExtension paths manager extensionId).1 = .ok () →
      LoadsRight paths (unloadExtension paths manager extensionId).2 extensionInfo.path outcome

/-- No file is loaded while a failed load of its extension is remembered. -/
def NoFailureKept (manager : PluginManager κ) : Call κ → Prop
  | .load extensionPath outcome => paths.isNullOrWhiteSpace extensionPath = false → outcome.fileExists = true →
      ∀ extensionInfo, manager.loadedExtensions.get? (paths.generateExtensionId extensionPath) = some extensionInfo →
        extensionInfo.status ≠ .Failed
  | _ => True

/-- Every known extension is loaded, or its load has failed and left no context. -/
structure Kept (manager : PluginManager κ) : Prop where
  known : ∀ extensionId extensionInfo, manager.loadedExtensions.get? extensionId = some extensionInfo →
    paths.generateExtensionId extensionInfo.path = extensionId ∧
      (manager.IsLoaded extensionId extensionInfo ∨
        extensionInfo.status = .Failed ∧ manager.loadContexts.get? extensionId = none)
  unknown : ∀ extensionId, manager.loadedExtensions.get? extensionId = none → manager.loadContexts.get? extensionId = none

variable {paths} {manager after : PluginManager κ} {extensionId : String}

theorem get?_tryAdd {β : Type} {d : Dict String β} {key : String} (fresh : d.get? key = none) (value : β) (other : String) :
    (tryAdd d key value).get? other = if key = other then some value else d.get? other := by
  have absent : d.contains key = false := by simpa [Dict.contains] using (d.get?_none_iff key).mp fresh
  rw [tryAdd, absent]
  exact Dict.get?_set d key value other

theorem sinceUnloaded_append {entries log : List LogEntry} (none : .unloaded extensionId ∉ entries) :
    sinceUnloaded extensionId (entries ++ log) = entries ++ sinceUnloaded extensionId log :=
  List.takeWhile_append_of_pos fun entry member => by
    simpa using fun same : entry = .unloaded extensionId => none (same ▸ member)

/-- What is loaded stays so while its context is kept and it is not unloaded. -/
theorem IsLoaded.later {extensionInfo : ExtensionInfo} (loaded : manager.IsLoaded extensionId extensionInfo)
    (context : after.loadContexts.get? extensionId = manager.loadContexts.get? extensionId) {entries : List LogEntry}
    (log : after.log = entries ++ manager.log) (none : .unloaded extensionId ∉ entries) :
    after.IsLoaded extensionId extensionInfo where
  status := loaded.status
  loadContext := by
    rw [context]
    exact loaded.loadContext
  validated := by
    rw [log, sinceUnloaded_append none]
    exact List.mem_append_right _ loaded.validated
  loaded := by
    rw [log, sinceUnloaded_append none]
    exact List.mem_append_right _ loaded.loaded

/-- What a call does to one extension does not matter to the others. -/
theorem Kept.of_others (kept : manager.Kept paths) (extensionId : String) (entries : List LogEntry)
    (others : ∀ other, other ≠ extensionId → after.loadedExtensions.get? other = manager.loadedExtensions.get? other ∧
      after.loadContexts.get? other = manager.loadContexts.get? other)
    (log : after.log = entries ++ manager.log)
    (own : ∀ other, other ≠ extensionId → .unloaded other ∉ entries)
    (known : ∀ extensionInfo, after.loadedExtensions.get? extensionId = some extensionInfo →
      paths.generateExtensionId extensionInfo.path = extensionId ∧
        (after.IsLoaded extensionId extensionInfo ∨ extensionInfo.status = .Failed ∧ after.loadContexts.get? extensionId = none))
    (unknown : after.loadedExtensions.get? extensionId = none → after.loadContexts.get? extensionId = none) : after.Kept paths := by
  constructor
  · intro other extensionInfo found
    by_cases here : other = extensionId
    · subst here
      exact known extensionInfo found
    · obtain ⟨info, context⟩ := others other here
      rw [info] at found
      obtain ⟨id, loaded | ⟨failed, none⟩⟩ := kept.known other extensionInfo found
      · exact ⟨id, .inl (loaded.later context log (own other here))⟩
      · exact ⟨id, .inr ⟨failed, context.trans none⟩⟩
  · intro other absent
    by_cases here : other = extensionId
    · subst here
      exact unknown absent
    · obtain ⟨info, context⟩ := others other here
      rw [info] at absent
      exact context.trans (kept.unknown other absent)

theorem kept_empty : ({} : PluginManager κ).Kept paths where
  known _ _ found := by cases found
  unknown _ _ := rfl

/-! ### Loads -/

/-- The manager after a load that succeeds. -/
def afterLoad (paths : PathFunctions) (manager : PluginManager κ) (extensionPath : String) (extensionInfo : ExtensionInfo) (loadContext : κ) :
    PluginManager κ :=
  let extensionId := paths.generateExtensionId extensionPath
  { loadContexts := tryAdd manager.loadContexts extensionId loadContext
    loadedExtensions := tryAdd manager.loadedExtensions extensionId extensionInfo
    totalLoaded := manager.totalLoaded + 1
    loadFailures := manager.loadFailures
    log := [.loaded extensionId, .validated extensionId] ++ manager.log }

/-- The manager after a load that fails. -/
def afterFailure (paths : PathFunctions) (manager : PluginManager κ) (extensionPath : String) (ex : PluginException) : PluginManager κ :=
  let extensionId := paths.generateExtensionId extensionPath
  { manager with
    loadedExtensions := tryAdd manager.loadedExtensions extensionId
      { id := extensionId, name := paths.getFileNameWithoutExtension extensionPath, path := extensionPath, status := .Failed,
        loadErrors := ["Failed to load extension " ++ extensionPath ++ ": " ++ ex.message] }
    loadFailures := manager.loadFailures + 1
    log := [.loadFailed extensionId] ++ manager.log }

/-- The four ways of a load: it raises at once, finds the extension known, succeeds, or fails. -/
theorem loadExtension_cases (paths : PathFunctions) (manager : PluginManager κ) (extensionPath : String) (outcome : LoadOutcome κ) :
    (∃ ex, loadExtension paths manager extensionPath outcome = (.error ex, manager)) ∨
    (∃ extensionInfo, paths.isNullOrWhiteSpace extensionPath = false ∧ outcome.fileExists = true ∧
      manager.loadedExtensions.get? (paths.generateExtensionId extensionPath) = some extensionInfo ∧
      loadExtension paths manager extensionPath outcome =
        (.ok extensionInfo, { manager with log := [.alreadyLoaded (paths.generateExtensionId extensionPath)] ++ manager.log })) ∨
    (∃ extensionInfo loadContext, manager.loadedExtensions.get? (paths.generateExtensionId extensionPath) = none ∧
      extensionInfo.path = extensionPath ∧ extensionInfo.status = .Loaded ∧
      loadExtension paths manager extensionPath outcome =
        (.ok extensionInfo, afterLoad paths manager extensionPath extensionInfo loadContext)) ∨
    (∃ ex, manager.loadedExtensions.get? (paths.generateExtensionId extensionPath) = none ∧
      loadExtension paths manager extensionPath outcome = (.error ex, afterFailure paths manager extensionPath ex)) := by
  unfold loadExtension
  cases blank : paths.isNullOrWhiteSpace extensionPath with
  | true => exact .inl ⟨_, rfl⟩
  | false =>
    cases fileExists : outcome.fileExists with
    | false => exact .inl ⟨_, rfl⟩
    | true =>
      refine .inr ?_
      cases found : manager.loadedExtensions.get? (paths.generateExtensionId extensionPath) with
      | some extensionInfo => exact .inl ⟨extensionInfo, rfl, rfl, rfl, by simp [found]⟩
      | none =>
        refine .inr ?_
        cases attempted : attempt paths extensionPath outcome with
        | error ex => exact .inr ⟨ex, rfl, by simp [found, afterFailure]⟩
        | ok result =>
          obtain ⟨extensionInfo, loadContext⟩ := result
          have path : extensionInfo.path = extensionPath := by
            unfold attempt at attempted
            cases valid : outcome.validation.isValid <;> cases context : outcome.loadContext <;>
              simp [valid, context, bind, Except.bind, pure, Except.pure, throw, throwThe, MonadExceptOf.throw] at attempted
            rw [← attempted.1]
          exact .inl ⟨{ extensionInfo with status := .Loaded }, loadContext, rfl, path, rfl, by simp [found, afterLoad]⟩

theorem afterLoad_isLoaded {extensionPath : String} {extensionInfo : ExtensionInfo} (loadContext : κ)
    (status : extensionInfo.status = .Loaded) (absent : manager.loadContexts.get? (paths.generateExtensionId extensionPath) = none) :
    (afterLoad paths manager extensionPath extensionInfo loadContext).IsLoaded (paths.generateExtensionId extensionPath) extensionInfo where
  status := status
  loadContext := ⟨loadContext, by rw [afterLoad, get?_tryAdd absent, if_pos rfl]⟩
  validated := by
    rw [afterLoad, sinceUnloaded_append (by simp)]
    simp
  loaded := by
    rw [afterLoad, sinceUnloaded_append (by simp)]
    simp

theorem loadExtension_kept (kept : manager.Kept paths) (extensionPath : String) (outcome : LoadOutcome κ) :
    (loadExtension paths manager extensionPath outcome).2.Kept paths := by
  rcases loadExtension_cases paths manager extensionPath outcome with
    ⟨ex, raised⟩ | ⟨extensionInfo, -, -, found, known⟩ | ⟨extensionInfo, loadContext, unknown, path, status, done⟩ | ⟨ex, unknown, failed⟩
  · rw [raised]
    exact kept
  · rw [known]
    refine kept.of_others (paths.generateExtensionId extensionPath) [.alreadyLoaded (paths.generateExtensionId extensionPath)]
      (fun _ _ => ⟨rfl, rfl⟩) rfl (by simp) (fun info stored => ?_) (kept.unknown _)
    obtain ⟨id, loaded | failed⟩ := kept.known _ info stored
    · exact ⟨id, .inl (loaded.later rfl rfl (by simp))⟩
    · exact ⟨id, .inr failed⟩
  · rw [done]
    have absent := kept.unknown _ unknown
    refine kept.of_others (paths.generateExtensionId extensionPath)
      [.loaded (paths.generateExtensionId extensionPath), .validated (paths.generateExtensionId extensionPath)]
      (fun other elsewhere => ?_) rfl (by simp) (fun info stored => ?_) fun none => ?_
    · rw [afterLoad, get?_tryAdd unknown, get?_tryAdd absent, if_neg elsewhere.symm, if_neg elsewhere.symm]
      exact ⟨rfl, rfl⟩
    · rw [afterLoad, get?_tryAdd unknown, if_pos rfl] at stored
      cases stored
      exact ⟨by rw [path], .inl (afterLoad_isLoaded loadContext status absent)⟩
    · rw [afterLoad, get?_tryAdd unknown, if_pos rfl] at none
      cases none
  · rw [failed]
    refine kept.of_others (paths.generateExtensionId extensionPath) [.loadFailed (paths.generateExtensionId extensionPath)]
      (fun other elsewhere => ?_) rfl (by simp) (fun info stored => ?_) fun _ => kept.unknown _ unknown
    · rw [afterFailure, get?_tryAdd unknown, if_neg elsewhere.symm]
      exact ⟨rfl, rfl⟩
    · rw [afterFailure, get?_tryAdd unknown, if_pos rfl] at stored
      cases stored
      exact ⟨rfl, .inr ⟨rfl, kept.unknown _ unknown⟩⟩

/-- A load of an extension whose failure is not remembered is right. -/
theorem loadExtension_right (kept : manager.Kept paths) {extensionPath : String} {outcome : LoadOutcome κ}
    (clear : NoFailureKept paths manager (.load extensionPath outcome)) : LoadsRight paths manager extensionPath outcome := by
  intro info returned
  rcases loadExtension_cases paths manager extensionPath outcome with
    ⟨ex, raised⟩ | ⟨extensionInfo, named, fileExists, found, known⟩ | ⟨extensionInfo, loadContext, unknown, path, status, done⟩ | ⟨ex, unknown, failed⟩
  · rw [raised] at returned
    cases returned
  · rw [known] at returned ⊢
    cases returned
    rcases (kept.known _ _ found).2 with loaded | ⟨failed, none⟩
    · exact loaded.later rfl rfl (by simp)
    · exact absurd failed (clear named fileExists _ found)
  · rw [done] at returned ⊢
    cases returned
    exact afterLoad_isLoaded loadContext status (kept.unknown _ unknown)
  · rw [failed] at returned
    cases returned

/-! ### Unloads and reloads -/

theorem unloadExtension_kept (kept : manager.Kept paths) (extensionId : String) :
    (unloadExtension paths manager extensionId).2.Kept paths := by
  unfold unloadExtension
  split
  · exact kept
  · split
    · exact kept
    · refine kept.of_others extensionId [.unloaded extensionId] (fun other elsewhere => ?_) rfl ?_ (fun info stored => ?_) fun _ => ?_
      · exact ⟨Dict.get?_erase_ne _ elsewhere.symm, Dict.get?_erase_ne _ elsewhere.symm⟩
      · intro other elsewhere
        simpa using elsewhere
      · rw [Dict.get?_erase, if_pos rfl] at stored
        cases stored
      · rw [Dict.get?_erase, if_pos rfl]

/-- What has been unloaded is not known any more. -/
theorem get?_of_unloaded {extensionInfo : ExtensionInfo} (found : manager.loadedExtensions.get? extensionId = some extensionInfo)
    (unloaded : (unloadExtension paths manager extensionId).1 = .ok ()) :
    (unloadExtension paths manager extensionId).2.loadedExtensions.get? extensionId = none := by
  unfold unloadExtension at unloaded ⊢
  cases blank : paths.isNullOrWhiteSpace extensionId with
  | true => simp [blank] at unloaded
  | false => simp [found]

theorem reloadExtension_kept (kept : manager.Kept paths) (extensionId : String) (outcome : LoadOutcome κ) :
    (reloadExtension paths manager extensionId outcome).2.Kept paths := by
  have unloaded := unloadExtension_kept kept extensionId
  unfold reloadExtension
  split
  · exact kept
  · split
    · rename_i same
      rw [same] at unloaded
      exact unloaded
    · rename_i same
      rw [same] at unloaded
      exact loadExtension_kept unloaded _ outcome

theorem step_kept (kept : manager.Kept paths) (call : Call κ) : (manager.step paths call).Kept paths := by
  cases call with
  | load extensionPath outcome => exact loadExtension_kept kept extensionPath outcome
  | unload extensionId => exact unloadExtension_kept kept extensionId
  | reload extensionId outcome => exact reloadExtension_kept kept extensionId outcome

/-- The load of a call is right exactly if it does not find a failure that is kept. -/
theorem callRight_iff (kept : manager.Kept paths) (call : Call κ) : CallRight paths manager call ↔ NoFailureKept paths manager call := by
  cases call with
  | load extensionPath outcome =>
    refine ⟨fun right named fileExists info found failed => ?_, loadExtension_right kept⟩
    have known : loadExtension paths manager extensionPath outcome =
        (.ok info, { manager with log := .alreadyLoaded (paths.generateExtensionId extensionPath) :: manager.log }) := by
      simp [loadExtension, named, fileExists, found]
    have loaded := (right info (by rw [known])).status
    rw [failed] at loaded
    cases loaded
  | unload extensionId => exact Iff.rfl
  | reload extensionId outcome =>
    refine ⟨fun _ => trivial, fun _ info found unloaded => ?_⟩
    refine loadExtension_right (unloadExtension_kept kept extensionId) fun _ _ other stored => ?_
    rw [(kept.known _ _ found).1, get?_of_unloaded found unloaded] at stored
    cases stored

/-- In every run, the loads are right exactly if none is called while a failed load of the file is remembered. -/
theorem loads_right_iff (paths : PathFunctions) (calls : List (Call κ)) :
    Runs.Along (step paths) (CallRight paths) {} calls ↔ Runs.Along (step paths) (NoFailureKept paths) {} calls :=
  Runs.along_congr (fun _ call (kept : Kept paths _) => step_kept kept call) (fun _ call kept => callRight_iff kept call) kept_empty

/-! Paths that are their own ids. -/

def plain : PathFunctions where
  isNullOrWhiteSpace path := path = ""
  generateExtensionId path := path
  getFileNameWithoutExtension path := path

def refused : LoadOutcome String := ⟨true, ⟨false, ["Extension file is empty"]⟩, "tool", .ok "context"⟩

/-- The second load does not attempt anything and returns the info of the failed one. -/
theorem failed_load_returned :
    (loadExtension plain (loadExtension plain {} "tool.py" refused).2 "tool.py" refused).1 =
        .ok ⟨"tool.py", "tool.py", "tool.py", .Failed,
          ["Failed to load extension tool.py: Extension validation failed: Extension file is empty"]⟩ ∧
      ¬Runs.Along (step plain) (CallRight plain) {} [.load "tool.py" refused, .load "tool.py" refused] := by
  have returned : (loadExtension plain (loadExtension plain {} "tool.py" refused).2 "tool.py" refused).1 =
      .ok ⟨"tool.py", "tool.py", "tool.py", .Failed,
        ["Failed to load extension tool.py: Extension validation failed: Extension file is empty"]⟩ := rfl
  refine ⟨returned, fun right => ?_⟩
  cases (right.2.1 _ returned).status

end PluginManager

end RevitPy.Host
