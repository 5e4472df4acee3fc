import RevitPy.LoadOrder

/-!
# Loading an extension with its dependencies

The manager holds a lock while it loads an extension. It loads the missing dependencies
by the same method, which waits for the lock, and the lock cannot be taken twice.
-/

namespace RevitPy

/-- The code of an extension: whether its class is found and constructed, and its hooks. -/
structure ExtensionCode where
  available : Bool
  load : LoadHooks
  activation : ActivationHooks

/-- An extension of the manager, and the time at which it was loaded. -/
structure StoredExtension extends Extension where
  load_time : Nat

structure ExtensionManager where
  registry : ExtensionRegistry
  dependency_resolution : Bool := true
  auto_activate_extensions : Bool := true
  _extensions : Dict String StoredExtension
  _extension_order : List String
  /-- Whether the lock is held. -/
  _load_lock : Bool
  now : Nat
  past : ∀ key x, _extensions.get? key = some x → x.load_time < now

/-- How a call ends. A call that waits for a lock which its own caller holds does not end. -/
inductive LoadEnding
  | ended (result : Outcome Bool)
  | waiting
  | unfinished

/-- Load an extension from metadata. -/
def ExtensionLoader.load_extension (code : ExtensionCode) (metadata : ExtensionMetadata) : Outcome (Option Extension) :=
  if ¬code.available then .returned none
  else match ({ metadata } : Extension).load_extension code.load with
    | (.returned true, extension) => .returned (some extension)
    | (.interrupted e, _) => .interrupted e
    | _ => .returned none

namespace ExtensionManager

/-- Whether an extension is kept under a key and is loaded. -/
def is_loaded (m : ExtensionManager) (key : String) : Bool := (m._extensions.get? key).any fun x => x.is_loaded

/-- Keep a loaded extension under its id and its name, and its id in the order. -/
def store (m : ExtensionManager) (extension : Extension) : ExtensionManager :=
  let stored : StoredExtension :=
    { extension with
      load_time := m.now }
  { m with
    _extensions := (m._extensions.set extension.metadata.extension_id stored).set extension.metadata.name stored
    _extension_order :=
      if extension.metadata.extension_id ∈ m._extension_order then m._extension_order
      else m._extension_order ++ [extension.metadata.extension_id]
    now := m.now + 1
    past := by
      intro key x found
      rw [Dict.get?_set, Dict.get?_set] at found
      split at found
      · cases found
        exact Nat.lt_succ_self _
      · split at found
        · cases found
          exact Nat.lt_succ_self _
        · exact Nat.lt_succ_of_lt (m.past key x found) }

/-- The end of an automatic activation, which changes the extension under both its keys. -/
def auto_activate (m : ExtensionManager) (code : ExtensionCode) (extension : Extension) : Outcome Bool × Extension :=
  if m.auto_activate_extensions then extension.activate_extension code.load code.activation
  else (.returned true, extension)

/-- What `load_extension` does once the dependencies are resolved. -/
def load_resolved (code : ExtensionMetadata → ExtensionCode) (m : ExtensionManager) (metadata : ExtensionMetadata) :
    Outcome Bool × ExtensionManager :=
  match ExtensionLoader.load_extension (code metadata) metadata with
  | .returned (some extension) => match m.auto_activate (code metadata) extension with
    | (.interrupted e, extension) => (.interrupted e, m.store extension)
    | (_, extension) => (.returned true, m.store extension)
  | .interrupted e => (.interrupted e, m)
  | _ => (.returned false, m)

/-- Resolve dependencies for an extension, by the method that loads an extension. -/
def _resolve_dependencies (load_extension : ExtensionManager → String → LoadEnding × ExtensionManager) :
    ExtensionManager → List String → LoadEnding × ExtensionManager
  | m, [] => (.ended (.returned true), m)
  | m, dependency :: rest =>
    if dependency ∈ m._extensions.keys then _resolve_dependencies load_extension m rest
    else match load_extension m dependency with
      | (.ended (.returned true), left) => _resolve_dependencies load_extension left rest
      | failed => failed

/-- What `load_extension` does while it holds the lock. -/
def load_locked (load_extension : ExtensionManager → String → LoadEnding × ExtensionManager)
    (code : ExtensionMetadata → ExtensionCode) (m : ExtensionManager) (name_or_id : String) : LoadEnding × ExtensionManager :=
  if m.is_loaded name_or_id then (.ended (.returned true), m)
  else match m.registry.get_extension name_or_id with
    | none => (.ended (.returned false), m)
    | some metadata =>
      match if m.dependency_resolution then _resolve_dependencies load_extension m metadata.dependencies
        else (.ended (.returned true), m) with
      | (.ended (.returned true), left) => ((load_resolved code left metadata).1 |> .ended, (load_resolved code left metadata).2)
      | (.ended (.interrupted e), left) => (.ended (.interrupted e), left)
      | (.ended _, left) => (.ended (.returned false), left)
      | (endless, left) => (endless, left)

/-- Load an extension by name or ID, with calls nested up to a depth. -/
def load_extension (code : ExtensionMetadata → ExtensionCode) : Nat → ExtensionManager → String → LoadEnding × ExtensionManager
  | 0, m, _ => (.unfinished, m)
  | depth + 1, m, name_or_id =>
    if m._load_lock then (.waiting, m)
    else match load_locked (load_extension code depth) code { m with _load_lock := true } name_or_id with
      | (.ended result, left) => (.ended result, { left with _load_lock := false })
      | endless => endless

/-- A key needs a dependency by what the registry knows of it. -/
def Requires (r : ExtensionRegistry) (key dependency : String) : Prop :=
  ∃ metadata, r.get_extension key = some metadata ∧ dependency ∈ metadata.dependencies

def Needs (r : ExtensionRegistry) : String → String → Prop := Relation.TransGen (Requires r)

/-- A key's extension is loaded, and was before another's. -/
def LoadedBefore (m : ExtensionManager) (dependency key : String) : Prop :=
  ∃ x y, m._extensions.get? dependency = some x ∧ x.is_loaded ∧ m._extensions.get? key = some y ∧ x.load_time < y.load_time

/-- Loading ends, and where it answers `True` all that is needed was loaded before. -/
def LoadsInOrder (code : ExtensionMetadata → ExtensionCode) (m : ExtensionManager) (name_or_id : String) : Prop :=
  ∃ depth result left, load_extension code depth m name_or_id = (.ended result, left) ∧
    (result = .returned true → ∀ dependency, Needs m.registry name_or_id dependency → left.LoadedBefore dependency name_or_id)

/-- The code of an extension loads it, and its automatic activation is not interrupted. -/
def Loads (m : ExtensionManager) (code : ExtensionCode) (metadata : ExtensionMetadata) : Prop :=
  ∃ extension, ExtensionLoader.load_extension code metadata = .returned (some extension) ∧
    (m.auto_activate code extension).1.is_interrupted = false

/-- The lock is free, and the call has no dependency to load itself. -/
def Ready (code : ExtensionMetadata → ExtensionCode) (m : ExtensionManager) (name_or_id : String) : Prop :=
  m._load_lock = false ∧
    if m.is_loaded name_or_id then ∀ dependency, Needs m.registry name_or_id dependency → m.LoadedBefore dependency name_or_id
    else ∀ metadata, m.registry.get_extension name_or_id = some metadata →
      (m.dependency_resolution → ∀ dependency ∈ metadata.dependencies, dependency ∈ m._extensions.keys) ∧
      (m.Loads (code metadata) metadata → ∀ dependency, Needs m.registry name_or_id dependency →
        m.is_loaded dependency ∧ dependency ≠ metadata.extension_id ∧ dependency ≠ metadata.name)

/-! ## The lock -/

variable {code : ExtensionMetadata → ExtensionCode} {m : ExtensionManager}

/-- A call under a lock that is held does not end. -/
theorem load_extension_held (held : m._load_lock = true) (depth : Nat) (name_or_id : String) (result : Outcome Bool)
    (left : ExtensionManager) : load_extension code depth m name_or_id ≠ (.ended result, left) := by
  cases depth with
  | zero => exact fun ended => by cases ended
  | succ depth =>
    rw [load_extension, if_pos held]
    exact fun ended => by cases ended

section
variable {load : ExtensionManager → String → LoadEnding × ExtensionManager}

theorem resolve_known {dependencies : List String} (known : ∀ dependency ∈ dependencies, dependency ∈ m._extensions.keys) :
    _resolve_dependencies load m dependencies = (.ended (.returned true), m) := by
  induction dependencies with
  | nil => rfl
  | cons dependency rest ih =>
    rw [_resolve_dependencies, if_pos (known dependency List.mem_cons_self)]
    exact ih fun later member => known later (List.mem_cons_of_mem _ member)

/-- A dependency that is missing is loaded by a call, and where that does not end nothing does. -/
theorem resolve_missing (endless : ∀ dependency result left, load m dependency ≠ (.ended result, left))
    {dependencies : List String} (missing : ∃ dependency ∈ dependencies, dependency ∉ m._extensions.keys)
    (result : Outcome Bool) (left : ExtensionManager) : _resolve_dependencies load m dependencies ≠ (.ended result, left) := by
  induction dependencies with
  | nil =>
    obtain ⟨_, member, _⟩ := missing
    exact absurd member List.not_mem_nil
  | cons dependency rest ih =>
    rw [_resolve_dependencies]
    by_cases known : dependency ∈ m._extensions.keys
    · rw [if_pos known]
      obtain ⟨other, member, absent⟩ := missing
      rcases List.mem_cons.mp member with rfl | later
      · exact absurd known absent
      · exact ih ⟨other, later, absent⟩
    · rw [if_neg known]
      split
      · next answer => exact absurd answer (endless dependency _ _)
      · exact endless dependency result left

end

/-! ## One load -/

theorem conclude_metadata (x : Extension) (done : ExtensionStatus) (ending : Outcome Unit) :
    (x.conclude done ending).2.metadata = x.metadata := by cases ending <;> rfl

theorem load_metadata (x : Extension) (hooks : LoadHooks) : (x.load_extension hooks).2.metadata = x.metadata := by
  unfold Extension.load_extension
  split
  · rfl
  · split
    · split <;> exact conclude_metadata ..
    · exact conclude_metadata ..

theorem activate_loaded_metadata (x : Extension) (hooks : ActivationHooks) : (x.activate_loaded hooks).2.metadata = x.metadata := by
  unfold Extension.activate_loaded
  split
  · rfl
  · split
    · split <;> exact conclude_metadata ..
    · exact conclude_metadata ..

theorem activate_metadata (x : Extension) (load_hooks : LoadHooks) (hooks : ActivationHooks) :
    (x.activate_extension load_hooks hooks).2.metadata = x.metadata := by
  unfold Extension.activate_extension
  split
  · exact activate_loaded_metadata x hooks
  · have loaded := load_metadata x load_hooks
    split
    · next answer =>
      rw [answer] at loaded
      exact (activate_loaded_metadata _ hooks).trans loaded
    · exact loaded

theorem loader_metadata {code : ExtensionCode} {metadata : ExtensionMetadata} {extension : Extension}
    (loaded : ExtensionLoader.load_extension code metadata = .returned (some extension)) : extension.metadata = metadata := by
  have kept := load_metadata { metadata } code.load
  unfold ExtensionLoader.load_extension at loaded
  split at loaded
  · cases loaded
  · split at loaded
    · next answer =>
      rw [answer] at kept
      cases loaded
      exact kept
    · cases loaded
    · cases loaded

theorem auto_activate_metadata (m : ExtensionManager) (code : ExtensionCode) (extension : Extension) :
    (m.auto_activate code extension).2.metadata = extension.metadata := by
  unfold auto_activate
  split
  · exact activate_metadata ..
  · rfl

/-- A load answers `True` exactly where the code loads the extension, which is then stored. -/
theorem load_resolved_cases (code : ExtensionMetadata → ExtensionCode) (m : ExtensionManager) (metadata : ExtensionMetadata) :
    (m.Loads (code metadata) metadata ∧
      ∃ extension, extension.metadata = metadata ∧ load_resolved code m metadata = (.returned true, m.store extension)) ∨
    (¬m.Loads (code metadata) metadata ∧ (load_resolved code m metadata).1 ≠ .returned true) := by
  unfold load_resolved
  split
  · next extension loaded =>
    have kept := (auto_activate_metadata m (code metadata) extension).trans (loader_metadata loaded)
    match activated : m.auto_activate (code metadata) extension with
    | (.interrupted e, active) =>
      refine Or.inr ⟨?_, nofun⟩
      rintro ⟨other, loaded', quiet⟩
      rw [loaded] at loaded'
      cases loaded'
      rw [activated] at quiet
      cases quiet
    | (.returned _, active) =>
      rw [activated] at kept
      exact Or.inl ⟨⟨extension, loaded, by rw [activated]; rfl⟩, active, kept, rfl⟩
    | (.raised _, active) =>
      rw [activated] at kept
      exact Or.inl ⟨⟨extension, loaded, by rw [activated]; rfl⟩, active, kept, rfl⟩
  · next interrupted =>
    refine Or.inr ⟨?_, nofun⟩
    rintro ⟨other, loaded, _⟩
    rw [interrupted] at loaded
    cases loaded
  · next unloaded _ =>
    refine Or.inr ⟨?_, by simp⟩
    rintro ⟨other, loaded, _⟩
    exact unloaded other loaded

/-- What is stored is kept under the key by which the registry found it. -/
theorem store_key {extension : Extension} {name_or_id : String}
    (found : m.registry.get_extension name_or_id = some extension.metadata) :
    name_or_id = extension.metadata.extension_id ∨ name_or_id = extension.metadata.name := by
  unfold ExtensionRegistry.get_extension at found
  split at found
  · next present =>
    cases found
    exact Or.inl (m.registry.by_id _ _ present).symm
  · exact Or.inr (m.registry.by_name _ _ found).symm

theorem get?_store (m : ExtensionManager) (extension : Extension) (key : String) :
    (m.store extension)._extensions.get? key =
      if key = extension.metadata.extension_id ∨ key = extension.metadata.name then
        some { extension with load_time := m.now }
      else m._extensions.get? key := by
  unfold store
  simp only [Dict.get?_set]
  by_cases named : extension.metadata.name = key
  · simp [named]
  · by_cases identified : extension.metadata.extension_id = key
    · simp [identified]
    · simp [named, identified, Ne.symm named, Ne.symm identified]

/-- What was loaded before a store, and is kept by it, was loaded before what is stored. -/
theorem loadedBefore_store {extension : Extension} {name_or_id dependency : String}
    (found : m.registry.get_extension name_or_id = some extension.metadata) :
    (m.store extension).LoadedBefore dependency name_or_id ↔
      m.is_loaded dependency ∧ dependency ≠ extension.metadata.extension_id ∧ dependency ≠ extension.metadata.name := by
  unfold LoadedBefore is_loaded
  rw [get?_store, get?_store, if_pos (store_key found)]
  by_cases own : dependency = extension.metadata.extension_id ∨ dependency = extension.metadata.name
  · rw [if_pos own]
    constructor
    · rintro ⟨x, y, first, _, second, earlier⟩
      cases first
      cases second
      exact absurd earlier (Nat.lt_irrefl _)
    · rintro ⟨_, other, another⟩
      exact absurd own (not_or.mpr ⟨other, another⟩)
  · rw [if_neg own]
    constructor
    · rintro ⟨x, y, present, loaded, _, _⟩
      exact ⟨by simp [present, loaded], not_or.mp own⟩
    · rintro ⟨loaded, _⟩
      obtain ⟨x, present, loaded⟩ := Option.any_eq_true _ _ |>.mp loaded
      exact ⟨x, _, present, loaded, rfl, m.past dependency x present⟩

/-! ## The call -/

theorem load_locked_known {load : ExtensionManager → String → LoadEnding × ExtensionManager} {name_or_id : String}
    {metadata : ExtensionMetadata} (unloaded : m.is_loaded name_or_id = false)
    (found : m.registry.get_extension name_or_id = some metadata)
    (known : m.dependency_resolution → ∀ dependency ∈ metadata.dependencies, dependency ∈ m._extensions.keys) :
    load_locked load code m name_or_id = (.ended (load_resolved code m metadata).1, (load_resolved code m metadata).2) := by
  have resolved : (if m.dependency_resolution then _resolve_dependencies load m metadata.dependencies
      else (.ended (.returned true), m)) = (.ended (.returned true), m) := by
    split
    · next resolution => exact resolve_known (known resolution)
    · rfl
  simp [load_locked, unloaded, found, resolved]

theorem load_locked_missing {load : ExtensionManager → String → LoadEnding × ExtensionManager} {name_or_id : String}
    {metadata : ExtensionMetadata} (unloaded : m.is_loaded name_or_id = false)
    (found : m.registry.get_extension name_or_id = some metadata) (resolution : m.dependency_resolution = true)
    (missing : ∃ dependency ∈ metadata.dependencies, dependency ∉ m._extensions.keys)
    (endless : ∀ dependency result left, load m dependency ≠ (.ended result, left)) (result : Outcome Bool)
    (left : ExtensionManager) : load_locked load code m name_or_id ≠ (.ended result, left) := by
  have stuck := resolve_missing endless missing
  rw [load_locked, unloaded, found, resolution]
  simp only [Bool.false_eq_true, if_false, if_true]
  split
  · next answer => exact absurd answer (stuck _ _)
  · next answer => exact absurd answer (stuck _ _)
  · next answer => exact absurd answer (stuck _ _)
  · next never answer =>
    intro same
    obtain ⟨rfl, rfl⟩ := Prod.mk.inj same
    exact stuck _ _ answer

def hold (m : ExtensionManager) : ExtensionManager := { m with _load_lock := true }

/-- With the lock free, a call does what it does under the lock. -/
theorem loadsInOrder_free (code : ExtensionMetadata → ExtensionCode) (free : m._load_lock = false) (name_or_id : String) :
    LoadsInOrder code m name_or_id ↔ ∃ depth result left,
      load_locked (load_extension code depth) code m.hold name_or_id = (.ended result, left) ∧
        (result = .returned true → ∀ dependency, Needs m.registry name_or_id dependency →
          left.LoadedBefore dependency name_or_id) := by
  constructor
  · rintro ⟨depth, result, left, ended, ordered⟩
    cases depth with
    | zero => cases ended
    | succ depth =>
      rw [load_extension, free] at ended
      simp only [Bool.false_eq_true, if_false] at ended
      split at ended
      · next inner answer =>
        cases ended
        exact ⟨depth, result, inner, answer, ordered⟩
      · next endless =>
        exact absurd ended (endless result left)
  · rintro ⟨depth, result, left, answer, ordered⟩
    refine ⟨depth + 1, result, { left with _load_lock := false }, ?_, ordered⟩
    rw [load_extension, free]
    simp only [Bool.false_eq_true, if_false]
    show (match load_locked (load_extension code depth) code m.hold name_or_id with
      | (.ended result, left) => (LoadEnding.ended result, { left with _load_lock := false })
      | endless => endless) = _
    rw [answer]

/-- A loaded extension is only looked up. -/
theorem loadsInOrder_loaded (code : ExtensionMetadata → ExtensionCode) (free : m._load_lock = false) {name_or_id : String}
    (loaded : m.is_loaded name_or_id = true) :
    LoadsInOrder code m name_or_id ↔ ∀ dependency, Needs m.registry name_or_id dependency → m.LoadedBefore dependency name_or_id := by
  have answer (depth : Nat) : load_locked (load_extension code depth) code m.hold name_or_id =
      (.ended (.returned true), m.hold) := if_pos loaded
  rw [loadsInOrder_free code free]
  constructor
  · rintro ⟨depth, result, left, ended, ordered⟩
    rw [answer depth] at ended
    cases ended
    exact ordered rfl
  · exact fun ordered => ⟨0, _, _, answer 0, fun _ => ordered⟩

theorem loadsInOrder_unknown (code : ExtensionMetadata → ExtensionCode) (free : m._load_lock = false) {name_or_id : String}
    (unloaded : m.is_loaded name_or_id = false) (unknown : m.registry.get_extension name_or_id = none) :
    LoadsInOrder code m name_or_id := by
  have answer : load_locked (load_extension code 0) code m.hold name_or_id = (.ended (.returned false), m.hold) := by
    have unloaded : m.hold.is_loaded name_or_id = false := unloaded
    have unknown : m.hold.registry.get_extension name_or_id = none := unknown
    simp [load_locked, unloaded, unknown]
  exact (loadsInOrder_free code free name_or_id).mpr ⟨0, _, _, answer, nofun⟩

/-- An extension that is not loaded needs its direct dependencies in the manager, and all
    that it needs loaded where it loads itself. -/
theorem loadsInOrder_found (code : ExtensionMetadata → ExtensionCode) (free : m._load_lock = false) {name_or_id : String}
    (unloaded : m.is_loaded name_or_id = false) {metadata : ExtensionMetadata}
    (found : m.registry.get_extension name_or_id = some metadata) :
    LoadsInOrder code m name_or_id ↔
      (m.dependency_resolution → ∀ dependency ∈ metadata.dependencies, dependency ∈ m._extensions.keys) ∧
      (m.Loads (code metadata) metadata → ∀ dependency, Needs m.registry name_or_id dependency →
        m.is_loaded dependency ∧ dependency ≠ metadata.extension_id ∧ dependency ≠ metadata.name) := by
  rw [loadsInOrder_free code free]
  by_cases known : m.dependency_resolution → ∀ dependency ∈ metadata.dependencies, dependency ∈ m._extensions.keys
  · have answer (depth : Nat) : load_locked (load_extension code depth) code m.hold name_or_id =
        (.ended (load_resolved code m.hold metadata).1, (load_resolved code m.hold metadata).2) :=
      load_locked_known unloaded found known
    rcases load_resolved_cases code m.hold metadata with ⟨loads, x, rfl, resolved⟩ | ⟨fails, resolved⟩
    · simp only [resolved] at answer
      have before (dependency : String) : (m.hold.store x).LoadedBefore dependency name_or_id ↔
          m.hold.is_loaded dependency ∧ dependency ≠ x.metadata.extension_id ∧ dependency ≠ x.metadata.name :=
        loadedBefore_store found
      constructor
      · rintro ⟨depth, result, left, ended, ordered⟩
        rw [answer depth] at ended
        cases ended
        exact ⟨known, fun _ dependency needed => (before dependency).mp (ordered rfl dependency needed)⟩
      · rintro ⟨_, ready⟩
        exact ⟨0, _, _, answer 0, fun _ dependency needed => (before dependency).mpr (ready loads dependency needed)⟩
    · constructor
      · exact fun _ => ⟨known, fun loads => absurd loads fails⟩
      · exact fun _ => ⟨0, _, _, answer 0, fun same => absurd same resolved⟩
  · refine ⟨?_, fun ready => absurd ready.1 known⟩
    rintro ⟨depth, result, left, ended, _⟩
    push Not at known
    obtain ⟨resolution, missing⟩ := known
    exact absurd ended (load_locked_missing (m := m.hold) unloaded found resolution missing
      (fun dependency => load_extension_held rfl depth dependency) result left)

def two_extensions : ExtensionManager where
  registry := [⟨"core", [], "1"⟩, ⟨"views", ["core"], "2"⟩].foldl ExtensionRegistry.register_extension ExtensionRegistry.empty
  _extensions := ∅
  _extension_order := []
  _load_lock := false
  now := 0
  past := by simp

theorem requires_two {key dependency : String} (needed : Requires two_extensions.registry key dependency) :
    dependency = "core" ∧ key ≠ "core" := by
  obtain ⟨metadata, found, member⟩ := needed
  have listed : metadata = ⟨"core", [], "1"⟩ ∨ metadata = ⟨"views", ["core"], "2"⟩ := by
    unfold ExtensionRegistry.get_extension at found
    split at found
    · next present =>
      cases found
      have entry := (Dict.get?_some_iff ..).mp present
      exact (List.mem_pair.mp entry).imp (fun same => (Prod.mk.inj same).2) fun same => (Prod.mk.inj same).2
    · have entry := (Dict.get?_some_iff ..).mp found
      exact (List.mem_pair.mp entry).imp (fun same => (Prod.mk.inj same).2) fun same => (Prod.mk.inj same).2
  rcases listed with rfl | rfl
  · exact absurd member List.not_mem_nil
  · refine ⟨List.mem_singleton.mp member, ?_⟩
    rintro rfl
    exact absurd found (by decide)

end ExtensionManager

end RevitPy
