import RevitPy.ExtensionManager

/-!
# Runs of the extension manager

The manager keeps each extension under two keys, its id and its name, and the ids in an
order. An extension is an object with a state of its own, known here by a number, that a
call finds by one of the keys. Over whole runs no active extension is lost from under its
keys, and a shutdown leaves nothing active, as long as no two registered extensions
share a key.
-/

namespace RevitPy.ExtensionRuns

/-- How the code of an extension ends in a call. -/
structure Code extends ExtensionCode where
  deactivation : DeactivationHooks
  disposal : DisposalHooks

/-- The manager, with all extensions that were ever loaded. -/
structure ExtensionManager where
  registry : ExtensionRegistry
  dependency_resolution : Bool
  auto_activate_extensions : Bool
  objects : List Extension := []
  _extensions : Dict String Nat := ∅
  _extension_order : List String := []
  _is_initialized : Bool := false
  /-- A call holds the lock for ever. -/
  _load_lock : Bool := false

namespace ExtensionManager
variable (m : ExtensionManager)

/-- The extension under a key. -/
def get? (key : String) : Option (Nat × Extension) :=
  (m._extensions.get? key).bind fun o => m.objects[o]?.map fun x => (o, x)

/-- An extension is left as a call leaves it. -/
def replace (o : Nat) (x : Extension) : ExtensionManager := { m with objects := m.objects.set o x }

/-- Safely activate an extension with error handling. -/
def _activate_extension_safe (code : Code) (extension_id : String) : Outcome Bool × ExtensionManager := match m.get? extension_id with
  | none => (.returned false, m)
  | some (o, x) =>
    let (answer, left) := x.activate_extension code.load code.activation
    (match answer with
      | .raised _ => .returned false
      | answer => answer, m.replace o left)

/-- Safely deactivate an extension with error handling. -/
def _deactivate_extension_safe (code : Code) (extension_id : String) : Outcome Bool × ExtensionManager := match m.get? extension_id with
  | none => (.returned false, m)
  | some (o, x) =>
    let (answer, left) := x.deactivate_extension code.deactivation
    (match answer with
      | .raised _ => .returned false
      | answer => answer, m.replace o left)

/-- Keep a loaded extension under its id and its name, and its id in the order. -/
def store (extension : Extension) : ExtensionManager :=
  let metadata := extension.metadata
  { m with
    objects := m.objects ++ [extension]
    _extensions := (m._extensions.set metadata.extension_id m.objects.length).set metadata.name m.objects.length
    _extension_order := if metadata.extension_id ∈ m._extension_order then m._extension_order else m._extension_order ++ [metadata.extension_id] }

/-- What `load_extension` does with the metadata of an extension whose dependencies are there. -/
def load_found (code : Code) (metadata : ExtensionMetadata) : Outcome Bool × ExtensionManager :=
  match ExtensionLoader.load_extension code.toExtensionCode metadata with
  | .returned (some extension) =>
    let m := m.store extension
    if m.auto_activate_extensions then match m._activate_extension_safe code metadata.extension_id with
      | (.interrupted e, left) => (.interrupted e, left)
      | (_, left) => (.returned true, left)
    else (.returned true, m)
  | .interrupted e => (.interrupted e, m)
  | _ => (.returned false, m)

/-- Load an extension by name or ID. A call without an answer waits for ever: for its own
    lock, where a dependency is not there, or for that of another such call. -/
def load_extension (code : Code) (name_or_id : String) : Option (Outcome Bool) × ExtensionManager :=
  if m._load_lock then (none, m)
  else if (m.get? name_or_id).any fun found => found.2.is_loaded then (some (.returned true), m)
  else match m.registry.get_extension name_or_id with
    | none => (some (.returned false), m)
    | some metadata =>
      if m.dependency_resolution ∧ ∃ dependency ∈ metadata.dependencies, dependency ∉ m._extensions.keys then
        (none, { m with _load_lock := true })
      else (some (m.load_found code metadata).1, (m.load_found code metadata).2)

/-- Remove an extension from the collections. -/
def forget (metadata : ExtensionMetadata) : ExtensionManager :=
  { m with
    _extensions := (m._extensions.erase metadata.extension_id).erase metadata.name
    _extension_order := m._extension_order.erase metadata.extension_id }

/-- Deactivation if it is active, and disposal. -/
def retire (code : Code) (x : Extension) : Outcome Unit × Extension :=
  if x.is_active then match x.deactivate_extension code.deactivation with
    | (.interrupted e, left) => (.interrupted e, left)
    | (_, left) => left.dispose_extension code.deactivation code.disposal
  else x.dispose_extension code.deactivation code.disposal

/-- Unload an extension by name or ID. -/
def unload_extension (code : Code) (name_or_id : String) : Option (Outcome Bool) × ExtensionManager :=
  if m._load_lock then (none, m)
  else match m.get? name_or_id with
    | none => (some (.returned false), m)
    | some (o, x) => match retire code x with
      | (.returned (), left) => (some (.returned true), (m.replace o left).forget left.metadata)
      | (.raised _, left) => (some (.returned false), m.replace o left)
      | (.interrupted e, left) => (some (.interrupted e), m.replace o left)

/-- Activate an extension by name or ID. -/
def activate_extension (code : Code) (name_or_id : String) : Option (Outcome Bool) × ExtensionManager :=
  match m.get? name_or_id with
  | some (_, x) =>
    if x.is_active then (some (.returned true), m)
    else (some (m._activate_extension_safe code x.metadata.extension_id).1, (m._activate_extension_safe code x.metadata.extension_id).2)
  | none => match m.load_extension code name_or_id with
    | (some (.returned true), left) => match left.get? name_or_id with
      | none => (some (.returned false), left)
      | some (_, x) =>
        if x.is_active then (some (.returned true), left)
        else
          (some (left._activate_extension_safe code x.metadata.extension_id).1,
            (left._activate_extension_safe code x.metadata.extension_id).2)
    | (some (.raised _), left) => (some (.returned false), left)
    | answer => answer

/-- Deactivate an extension by name or ID. -/
def deactivate_extension (code : Code) (name_or_id : String) : Outcome Bool × ExtensionManager := match m.get? name_or_id with
  | some (_, x) => if x.is_active then m._deactivate_extension_safe code x.metadata.extension_id else (.returned true, m)
  | none => (.returned true, m)

/-- Deactivate extensions one after the other. What code does may differ from call to call. -/
def deactivate_all (code : Nat → Code) : Nat → ExtensionManager → List String → Outcome Unit × ExtensionManager
  | _, m, [] => (.returned (), m)
  | n, m, extension_id :: rest =>
    if extension_id ∈ m._extensions.keys then match m._deactivate_extension_safe (code n) extension_id with
      | (.interrupted e, left) => (.interrupted e, left)
      | (_, left) => deactivate_all code (n + 1) left rest
    else deactivate_all code n m rest

/-- Dispose extensions one after the other, each under every key that it has. -/
def dispose_all (code : Nat → Code) : Nat → ExtensionManager → List Nat → Outcome Unit × ExtensionManager
  | _, m, [] => (.returned (), m)
  | n, m, o :: rest => match m.objects[o]? with
    | none => dispose_all code n m rest
    | some x => match x.dispose_extension (code n).deactivation (code n).disposal with
      | (.interrupted e, left) => (.interrupted e, m.replace o left)
      | (_, left) => dispose_all code (n + 1) (m.replace o left) rest

/-- Shutdown the extension manager. -/
def shutdown (code : Nat → Code) : Outcome Unit × ExtensionManager :=
  if ¬m._is_initialized then (.returned (), m)
  else match deactivate_all code 0 m m._extension_order.reverse with
    | (.returned (), left) => match dispose_all code m._extension_order.length left left._extensions.values with
      | (.returned (), left) =>
        (.returned (), { left with registry := .empty, _extensions := ∅, _extension_order := [], _is_initialized := false })
      | (answer, left) => (answer, { left with _is_initialized := false })
    | (answer, left) => (answer, { left with _is_initialized := false })

end ExtensionManager

/-- A call of the manager, with what the code of the extensions does. -/
inductive Call
  | initialize_manager
  | register_extension (metadata : ExtensionMetadata)
  | unregister_extension (name_or_id : String)
  | load_extension (code : Code) (name_or_id : String)
  | unload_extension (code : Code) (name_or_id : String)
  | activate_extension (code : Code) (name_or_id : String)
  | deactivate_extension (code : Code) (name_or_id : String)
  | shutdown (code : Nat → Code)

def Call.registers : Call → Option ExtensionMetadata
  | .register_extension metadata => some metadata
  | _ => none

def ExtensionManager.call (m : ExtensionManager) : Call → ExtensionManager
  | .initialize_manager => { m with _is_initialized := true }
  | .register_extension metadata => { m with registry := m.registry.register_extension metadata }
  | .unregister_extension name_or_id => { m with registry := (m.registry.unregister_extension name_or_id).2 }
  | .load_extension code name_or_id => (m.load_extension code name_or_id).2
  | .unload_extension code name_or_id => (m.unload_extension code name_or_id).2
  | .activate_extension code name_or_id => (m.activate_extension code name_or_id).2
  | .deactivate_extension code name_or_id => (m.deactivate_extension code name_or_id).2
  | .shutdown code => (m.shutdown code).2

/-! ## What a call leaves of one extension -/

section
variable {x : Extension}

theorem conclude_inactive (x : Extension) {done : ExtensionStatus} (ended : done ≠ .ACTIVE) (ending : Outcome Unit) (inactive : x.is_active = false) :
    (x.conclude done ending).2.is_active = false := by
  cases ending with
  | returned _ => exact decide_eq_false ended
  | raised _ => rfl
  | interrupted _ => exact inactive

theorem deactivate_metadata (x : Extension) (hooks : DeactivationHooks) : (x.deactivate_extension hooks).2.metadata = x.metadata := by
  unfold Extension.deactivate_extension
  split
  · rfl
  · split
    · split <;> exact ExtensionManager.conclude_metadata ..
    · exact ExtensionManager.conclude_metadata ..

theorem deactivate_inactive (x : Extension) (hooks : DeactivationHooks) : (x.deactivate_extension hooks).2.is_active = false := by
  unfold Extension.deactivate_extension
  split
  · rename_i inactive
    simpa using inactive
  · split
    · split <;> exact conclude_inactive _ (by decide) _ rfl
    · exact conclude_inactive _ (by decide) _ rfl

/-- What a disposal keeps of an extension and what it leaves. -/
def Retires (x y : Extension) : Prop := y.metadata = x.metadata ∧ y.is_active = false

theorem dispose_inactive_retires (inactive : x.is_active = false) (hooks : DisposalHooks) : Retires x (x.dispose_inactive hooks).2 := by
  have concluded (ending : Outcome Unit) : Retires x (x.conclude .DISPOSED ending).2 :=
    ⟨ExtensionManager.conclude_metadata .., conclude_inactive x (by decide) ending inactive⟩
  unfold Extension.dispose_inactive
  cases callbacks : Outcome.run_callbacks hooks.callbacks with
  | returned _ =>
    have left := concluded hooks.dispose
    cases ended : (x.conclude .DISPOSED hooks.dispose).1 <;> simpa [ended] using left
  | raised e =>
    have left := concluded (.raised e)
    cases ended : (x.conclude .DISPOSED (.raised e)).1 <;> simpa [ended] using left
  | interrupted e =>
    have left := concluded (.interrupted e)
    cases ended : (x.conclude .DISPOSED (.interrupted e)).1 <;> simpa [ended] using left

theorem dispose_retires (x : Extension) (deactivation : DeactivationHooks) (hooks : DisposalHooks) :
    Retires x (x.dispose_extension deactivation hooks).2 := by
  have kept := deactivate_metadata x deactivation
  have inactive := deactivate_inactive x deactivation
  unfold Extension.dispose_extension
  split
  · rename_i disposed
    exact ⟨rfl, by simp [Extension.is_active, disposed]⟩
  · split
    · split
      · rename_i answer
        rw [answer] at kept inactive
        exact ⟨kept, inactive⟩
      · rename_i answer
        rw [answer] at kept inactive
        have retired := dispose_inactive_retires inactive hooks
        exact ⟨retired.1.trans kept, retired.2⟩
    · rename_i active
      exact dispose_inactive_retires (by simpa using active) hooks

theorem retire_retires (code : Code) (x : Extension) : Retires x (ExtensionManager.retire code x).2 := by
  have kept := deactivate_metadata x code.deactivation
  have inactive := deactivate_inactive x code.deactivation
  unfold ExtensionManager.retire
  split
  · split
    · rename_i answer
      rw [answer] at kept inactive
      exact ⟨kept, inactive⟩
    · rename_i answer
      rw [answer] at kept inactive
      have retired := dispose_retires (x.deactivate_extension code.deactivation).2 code.deactivation code.disposal
      rw [answer] at retired
      exact ⟨retired.1.trans kept, retired.2⟩
  · exact dispose_retires x code.deactivation code.disposal

end

/-! ## What the manager holds -/

/-- Two records have a key in common. -/
def Shares (a b : ExtensionMetadata) : Prop :=
  a.extension_id = b.extension_id ∨ a.extension_id = b.name ∨ a.name = b.extension_id ∨ a.name = b.name

/-- Records with a key in common are versions of one extension. -/
def Distinct (records : List ExtensionMetadata) : Prop :=
  ∀ a ∈ records, ∀ b ∈ records, Shares a b → a.extension_id = b.extension_id ∧ a.name = b.name

def IsKey (metadata : ExtensionMetadata) (key : String) : Prop := key = metadata.extension_id ∨ key = metadata.name

theorem shares_of_isKey {a b : ExtensionMetadata} {key : String} (left : IsKey a key) (right : IsKey b key) : Shares a b := by
  rcases left with rfl | rfl
  · exact right.elim .inl fun same => .inr (.inl same)
  · exact right.elim (fun same => .inr (.inr (.inl same))) fun same => .inr (.inr (.inr same))

/-- An extension is found under both its keys. -/
def Found (m : ExtensionManager) (o : Nat) (metadata : ExtensionMetadata) : Prop :=
  m._extensions.get? metadata.extension_id = some o ∧ m._extensions.get? metadata.name = some o

structure Held (records : List ExtensionMetadata) (m : ExtensionManager) : Prop where
  by_id : ∀ key metadata, m.registry._extensions.get? key = some metadata → metadata ∈ records
  by_name : ∀ key metadata, m.registry._extensions_by_name.get? key = some metadata → metadata ∈ records
  known : ∀ x ∈ m.objects, x.metadata ∈ records
  keys : ∀ key o, m._extensions.get? key = some o →
    ∃ x, m.objects[o]? = some x ∧ IsKey x.metadata key ∧ Found m o x.metadata ∧ x.metadata.extension_id ∈ m._extension_order
  active : ∀ (o : Nat) x, m.objects[o]? = some x → x.is_active = true → Found m o x.metadata

namespace ExtensionManager
variable {m : ExtensionManager}

theorem get?_some {key : String} {o : Nat} {x : Extension} (found : m.get? key = some (o, x)) :
    m._extensions.get? key = some o ∧ m.objects[o]? = some x := by
  obtain ⟨p, present, object⟩ := Option.bind_eq_some_iff.mp found
  obtain ⟨y, here, same⟩ := Option.map_eq_some_iff.mp object
  cases same
  exact ⟨present, here⟩

theorem get?_of {key : String} {o : Nat} {x : Extension} (present : m._extensions.get? key = some o) (object : m.objects[o]? = some x) :
    m.get? key = some (o, x) := by
  simp [ExtensionManager.get?, present, object]

end ExtensionManager

section
variable {records : List ExtensionMetadata} {m : ExtensionManager}

/-- A key leads to an extension that has it. -/
theorem Held.key_of (held : Held records m) {key : String} {o : Nat} {x : Extension} (present : m._extensions.get? key = some o)
    (object : m.objects[o]? = some x) : IsKey x.metadata key ∧ Found m o x.metadata ∧ x.metadata.extension_id ∈ m._extension_order := by
  obtain ⟨y, here, rest⟩ := held.keys key o present
  obtain rfl : y = x := Option.some.inj (here.symm.trans object)
  exact rest

/-- What is found under a key of a record is a version of it. -/
theorem Held.same (distinct : Distinct records) (held : Held records m) {metadata : ExtensionMetadata} (member : metadata ∈ records) {key : String}
    (isKey : IsKey metadata key) {o : Nat} {x : Extension} (present : m._extensions.get? key = some o) (object : m.objects[o]? = some x) :
    x.metadata.extension_id = metadata.extension_id ∧ x.metadata.name = metadata.name :=
  distinct _ (held.known x (List.mem_of_getElem? object)) _ member (shares_of_isKey (held.key_of present object).1 isKey)

/-- An extension may change, but it becomes active only under its keys. -/
theorem Held.replace (held : Held records m) {o : Nat} {x y : Extension} (object : m.objects[o]? = some x) (same : y.metadata = x.metadata)
    (active : y.is_active = true → Found m o x.metadata) : Held records (m.replace o y) where
  by_id := held.by_id
  by_name := held.by_name
  known z member := by
    rcases List.mem_or_eq_of_mem_set member with before | rfl
    · exact held.known z before
    · rw [same]
      exact held.known x (List.mem_of_getElem? object)
  keys key p present := by
    obtain ⟨z, here, isKey, found, ordered⟩ := held.keys key p present
    by_cases moved : o = p
    · subst moved
      obtain rfl : z = x := Option.some.inj (here.symm.trans object)
      refine ⟨y, ?_, by rw [same]; exact isKey, by rw [same]; exact found, by rw [same]; exact ordered⟩
      simp [ExtensionManager.replace, List.getElem?_set_self (List.getElem?_eq_some_iff.mp object).1]
    · exact ⟨z, by rw [ExtensionManager.replace, List.getElem?_set_ne moved]; exact here, isKey, found, ordered⟩
  active p z here alive := by
    by_cases moved : o = p
    · subst moved
      have now : y = z := by
        rw [ExtensionManager.replace, List.getElem?_set_self (List.getElem?_eq_some_iff.mp object).1] at here
        exact Option.some.inj here
      subst now
      rw [same]
      exact active alive
    · rw [ExtensionManager.replace, List.getElem?_set_ne moved] at here
      exact held.active p z here alive

theorem Held.activate_safe (held : Held records m) (code : Code) (extension_id : String) :
    Held records (m._activate_extension_safe code extension_id).2 := by
  unfold ExtensionManager._activate_extension_safe
  split
  · exact held
  · rename_i o x found
    obtain ⟨present, object⟩ := ExtensionManager.get?_some found
    exact held.replace object (ExtensionManager.activate_metadata x code.load code.activation) fun _ => (held.key_of present object).2.1

theorem Held.deactivate_safe (held : Held records m) (code : Code) (extension_id : String) :
    Held records (m._deactivate_extension_safe code extension_id).2 := by
  unfold ExtensionManager._deactivate_extension_safe
  split
  · exact held
  · rename_i o x found
    obtain ⟨present, object⟩ := ExtensionManager.get?_some found
    exact held.replace object (deactivate_metadata x code.deactivation) fun _ => (held.key_of present object).2.1

/-- Storing an extension hides none that is active. -/
theorem Held.store (distinct : Distinct records) (held : Held records m) {extension : Extension} (member : extension.metadata ∈ records)
    (free : ∀ (o : Nat) x, m._extensions.get? extension.metadata.extension_id = some o → m.objects[o]? = some x → x.is_active = false) :
    Held records (m.store extension) := by
  have stored (key : String) (isKey : IsKey extension.metadata key) : (m.store extension)._extensions.get? key = some m.objects.length := by
    simp only [ExtensionManager.store, Dict.get?_set]
    rcases isKey with rfl | rfl <;> simp
  have elsewhere (key : String) (other : ¬IsKey extension.metadata key) : (m.store extension)._extensions.get? key = m._extensions.get? key := by
    obtain ⟨no_id, no_name⟩ := not_or.mp other
    simp only [ExtensionManager.store]
    rw [Dict.get?_set_ne _ _ (Ne.symm no_name), Dict.get?_set_ne _ _ (Ne.symm no_id)]
  have ordered (id : String) (before : id ∈ m._extension_order) : id ∈ (m.store extension)._extension_order := by
    simp only [ExtensionManager.store]
    split
    · exact before
    · exact List.mem_append_left _ before
  have last : (m.store extension).objects[m.objects.length]? = some extension := by simp [ExtensionManager.store]
  have earlier {o : Nat} {x : Extension} (object : m.objects[o]? = some x) : (m.store extension).objects[o]? = some x := by
    simp only [ExtensionManager.store]
    rw [List.getElem?_append_left (List.getElem?_eq_some_iff.mp object).1]
    exact object
  -- an extension with a key of the stored one has both of them
  have apart {x : Extension} (known : x.metadata ∈ records) {key : String} (own : IsKey x.metadata key)
      (shared : IsKey extension.metadata key) : x.metadata.extension_id = extension.metadata.extension_id ∧ x.metadata.name = extension.metadata.name :=
    distinct _ known _ member (shares_of_isKey own shared)
  refine ⟨held.by_id, held.by_name, fun x inside => ?_, fun key o present => ?_, fun o x object alive => ?_⟩
  · rcases List.mem_append.mp inside with before | now
    · exact held.known x before
    · rw [List.mem_singleton.mp now]
      exact member
  · by_cases own : IsKey extension.metadata key
    · rw [stored key own] at present
      obtain rfl := Option.some.inj present
      refine ⟨extension, last, own, ⟨stored _ (.inl rfl), stored _ (.inr rfl)⟩, ?_⟩
      simp only [ExtensionManager.store]
      split
      · assumption
      · exact List.mem_append_right _ (List.mem_singleton_self _)
    · rw [elsewhere key own] at present
      obtain ⟨x, object, isKey, found, before⟩ := held.keys key o present
      have known := held.known x (List.mem_of_getElem? object)
      have other (k : String) (mine : IsKey x.metadata k) : ¬IsKey extension.metadata k := by
        intro shared
        obtain ⟨same_id, same_name⟩ := apart known mine shared
        exact own (isKey.imp (fun e => e.trans same_id) fun e => e.trans same_name)
      exact ⟨x, earlier object, isKey, ⟨by rw [elsewhere _ (other _ (.inl rfl))]; exact found.1, by rw [elsewhere _ (other _ (.inr rfl))]; exact found.2⟩,
        ordered _ before⟩
  · rcases Nat.lt_or_ge o m.objects.length with before | after
    · have object : m.objects[o]? = some x := by
        simp only [ExtensionManager.store] at object
        rwa [List.getElem?_append_left before] at object
      have found := held.active o x object alive
      have known := held.known x (List.mem_of_getElem? object)
      have other (k : String) (mine : IsKey x.metadata k) : ¬IsKey extension.metadata k := by
        intro shared
        have present : m._extensions.get? extension.metadata.extension_id = some o := by
          rw [← (apart known mine shared).1]
          exact found.1
        rw [free o x present object] at alive
        cases alive
      exact ⟨by rw [elsewhere _ (other _ (.inl rfl))]; exact found.1, by rw [elsewhere _ (other _ (.inr rfl))]; exact found.2⟩
    · have here := (List.getElem?_eq_some_iff.mp object).1
      simp only [ExtensionManager.store, List.length_append, List.length_singleton] at here
      obtain rfl : o = m.objects.length := by omega
      obtain rfl : extension = x := Option.some.inj (last.symm.trans object)
      exact ⟨stored _ (.inl rfl), stored _ (.inr rfl)⟩

/-- What the loader returns is an extension with the metadata, which is loaded. -/
theorem Held.load_found (distinct : Distinct records) (held : Held records m) (code : Code) {metadata : ExtensionMetadata} (member : metadata ∈ records)
    (free : ∀ (o : Nat) x, m._extensions.get? metadata.extension_id = some o → m.objects[o]? = some x → x.is_active = false) :
    Held records (m.load_found code metadata).2 := by
  unfold ExtensionManager.load_found
  split
  · rename_i extension loaded
    have same := ExtensionManager.loader_metadata loaded
    have stored : Held records (m.store extension) := by
      refine held.store distinct (by rw [same]; exact member) ?_
      rw [same]
      exact free
    have activated := stored.activate_safe code metadata.extension_id
    simp only
    split
    · split
      · rename_i answer
        rw [answer] at activated
        exact activated
      · rename_i answer
        rw [answer] at activated
        exact activated
    · exact stored
  · exact held
  · exact held

theorem Held.registered (held : Held records m) {key : String} {metadata : ExtensionMetadata} (found : m.registry.get_extension key = some metadata) :
    metadata ∈ records ∧ IsKey metadata key := by
  unfold ExtensionRegistry.get_extension at found
  split at found
  · rename_i present
    cases found
    exact ⟨held.by_id _ _ present, .inl (m.registry.by_id _ _ present).symm⟩
  · exact ⟨held.by_name _ _ found, .inr (m.registry.by_name _ _ found).symm⟩

theorem active_is_loaded {x : Extension} (active : x.is_active = true) : x.is_loaded = true := by
  have status : x.status = .ACTIVE := of_decide_eq_true active
  simp [Extension.is_loaded, status]

theorem Held.load (distinct : Distinct records) (held : Held records m) (code : Code) (name_or_id : String) :
    Held records (m.load_extension code name_or_id).2 := by
  unfold ExtensionManager.load_extension
  split
  · exact held
  · split
    · exact held
    · rename_i unloaded
      split
      · exact held
      · rename_i metadata found
        obtain ⟨member, isKey⟩ := held.registered found
        split
        · exact ⟨held.by_id, held.by_name, held.known, held.keys, held.active⟩
        · refine held.load_found distinct code member fun o x present object => ?_
          by_contra active
          have active : x.is_active = true := by simpa using active
          -- it would be found under the key of the call as well
          obtain ⟨same_id, same_name⟩ := held.same distinct member (.inl rfl) present object
          have both := held.active o x object active
          have here : m._extensions.get? name_or_id = some o := by
            rcases isKey with rfl | rfl
            · exact same_id ▸ both.1
            · exact same_name ▸ both.2
          rw [ExtensionManager.get?_of here object] at unloaded
          exact unloaded (by simpa using active_is_loaded active)

/-- Forgetting an extension hides none that is active, if it is not active itself. -/
theorem Held.forget (distinct : Distinct records) (held : Held records m) {o : Nat} {x : Extension} (object : m.objects[o]? = some x)
    (found : Found m o x.metadata) (inactive : x.is_active = false) : Held records (m.forget x.metadata) := by
  have member := held.known x (List.mem_of_getElem? object)
  have elsewhere (key : String) (other : ¬IsKey x.metadata key) : (m.forget x.metadata)._extensions.get? key = m._extensions.get? key := by
    obtain ⟨no_id, no_name⟩ := not_or.mp other
    simp only [ExtensionManager.forget]
    rw [Dict.get?_erase_ne _ (Ne.symm no_name), Dict.get?_erase_ne _ (Ne.symm no_id)]
  have gone (key : String) (own : IsKey x.metadata key) : (m.forget x.metadata)._extensions.get? key = none := by
    simp only [ExtensionManager.forget, Dict.get?_erase]
    rcases own with rfl | rfl <;> simp
  have only {p : Nat} {y : Extension} (here : m.objects[p]? = some y) (kept : Found m p y.metadata) {key : String} (own : IsKey y.metadata key)
      (shared : IsKey x.metadata key) : p = o := by
    have same := distinct _ (held.known y (List.mem_of_getElem? here)) _ member (shares_of_isKey own shared)
    have both := kept.1
    rw [same.1, found.1] at both
    exact (Option.some.inj both).symm
  refine ⟨held.by_id, held.by_name, held.known, fun key p present => ?_, fun p y here alive => ?_⟩
  · have other : ¬IsKey x.metadata key := fun own => by simp [gone key own] at present
    rw [elsewhere key other] at present
    obtain ⟨y, here, isKey, kept, ordered⟩ := held.keys key p present
    have apart (k : String) (own : IsKey y.metadata k) : ¬IsKey x.metadata k := by
      intro shared
      obtain rfl := only here kept own shared
      obtain rfl : y = x := Option.some.inj (here.symm.trans object)
      exact other isKey
    refine ⟨y, here, isKey, ⟨by rw [elsewhere _ (apart _ (.inl rfl))]; exact kept.1, by rw [elsewhere _ (apart _ (.inr rfl))]; exact kept.2⟩, ?_⟩
    have differs : y.metadata.extension_id ≠ x.metadata.extension_id := fun same => apart _ (.inl rfl) (.inl same)
    exact (List.mem_erase_of_ne differs).mpr ordered
  · have kept := held.active p y here alive
    have apart (k : String) (own : IsKey y.metadata k) : ¬IsKey x.metadata k := by
      intro shared
      obtain rfl := only here kept own shared
      obtain rfl : y = x := Option.some.inj (here.symm.trans object)
      rw [inactive] at alive
      cases alive
    exact ⟨by rw [elsewhere _ (apart _ (.inl rfl))]; exact kept.1, by rw [elsewhere _ (apart _ (.inr rfl))]; exact kept.2⟩

theorem Held.unload (distinct : Distinct records) (held : Held records m) (code : Code) (name_or_id : String) :
    Held records (m.unload_extension code name_or_id).2 := by
  unfold ExtensionManager.unload_extension
  split
  · exact held
  · split
    · exact held
    · rename_i o x present
      obtain ⟨present, object⟩ := ExtensionManager.get?_some present
      have retired := retire_retires code x
      have found := (held.key_of present object).2.1
      have replaced := held.replace object retired.1 fun _ => found
      have object' : (m.replace o (ExtensionManager.retire code x).2).objects[o]? = some (ExtensionManager.retire code x).2 :=
        List.getElem?_set_self (List.getElem?_eq_some_iff.mp object).1
      split
      · rename_i left answer
        rw [answer] at retired replaced object'
        exact replaced.forget distinct object' (by rw [retired.1]; exact found) retired.2
      · rename_i answer
        rw [answer] at replaced
        exact replaced
      · rename_i answer
        rw [answer] at replaced
        exact replaced

theorem Held.activate (distinct : Distinct records) (held : Held records m) (code : Code) (name_or_id : String) :
    Held records (m.activate_extension code name_or_id).2 := by
  have loaded := held.load distinct code name_or_id
  unfold ExtensionManager.activate_extension
  split
  · split
    · exact held
    · exact held.activate_safe code _
  · split
    · rename_i left answer
      rw [answer] at loaded
      split
      · exact loaded
      · split
        · exact loaded
        · exact Held.activate_safe loaded code _
    · rename_i answer
      rw [answer] at loaded
      exact loaded
    · exact loaded

theorem Held.deactivate (held : Held records m) (code : Code) (name_or_id : String) : Held records (m.deactivate_extension code name_or_id).2 := by
  unfold ExtensionManager.deactivate_extension
  split
  · split
    · exact held.deactivate_safe code _
    · exact held
  · exact held

/-! ## The shutdown -/

theorem Held.deactivate_all (code : Nat → Code) (ids : List String) {m : ExtensionManager} (held : Held records m) (n : Nat) :
    Held records (ExtensionManager.deactivate_all code n m ids).2 := by
  induction ids generalizing m n with
  | nil => exact held
  | cons extension_id rest ih =>
    unfold ExtensionManager.deactivate_all
    have left := held.deactivate_safe (code n) extension_id
    split
    · split
      · rename_i answer
        rw [answer] at left
        exact left
      · rename_i answer
        rw [answer] at left
        exact ih left (n + 1)
    · exact ih held n

/-- What the disposal of some extensions keeps, and what it has done if it comes to its end. -/
structure Disposes (records : List ExtensionMetadata) (m : ExtensionManager) (listed : List Nat) (result : Outcome Unit × ExtensionManager) : Prop where
  held : Held records result.2
  keys : result.2._extensions = m._extensions
  length : result.2.objects.length = m.objects.length
  inactive : ∀ (o : Nat) x y, m.objects[o]? = some x → result.2.objects[o]? = some y → x.is_active = false → y.is_active = false
  disposed : result.1 = .returned () → ∀ o ∈ listed, ∀ y, result.2.objects[o]? = some y → y.is_active = false

theorem Held.dispose_all (code : Nat → Code) (listed : List Nat) {m : ExtensionManager} (held : Held records m) (n : Nat) :
    Disposes records m listed (ExtensionManager.dispose_all code n m listed) := by
  induction listed generalizing m n with
  | nil => exact ⟨held, rfl, rfl, fun o x y here there quiet => Option.some.inj (here.symm.trans there) ▸ quiet, fun _ o member => nomatch member⟩
  | cons o rest ih =>
    unfold ExtensionManager.dispose_all
    cases object : m.objects[o]? with
    | none =>
      simp only
      have later := ih held n
      refine ⟨later.held, later.keys, later.length, later.inactive, fun ended p member y here => ?_⟩
      rcases List.mem_cons.mp member with rfl | after
      · have outside := List.getElem?_eq_none_iff.mp object
        have inside := (List.getElem?_eq_some_iff.mp here).1
        rw [later.length] at inside
        omega
      · exact later.disposed ended p after y here
    | some x =>
      have retired := dispose_retires x (code n).deactivation (code n).disposal
      simp only
      generalize x.dispose_extension (code n).deactivation (code n).disposal = result at retired
      obtain ⟨answer, left⟩ := result
      have replaced := held.replace object retired.1 fun alive => absurd alive (by simp [retired.2])
      -- one extension is inactive now, and the others are as they were
      have quiet (p : Nat) (y z : Extension) (before : m.objects[p]? = some y) (after : (m.replace o left).objects[p]? = some z)
          (calm : y.is_active = false) : z.is_active = false := by
        by_cases moved : o = p
        · subst moved
          rw [ExtensionManager.replace, List.getElem?_set_self (List.getElem?_eq_some_iff.mp object).1] at after
          rw [← Option.some.inj after]
          exact retired.2
        · rw [ExtensionManager.replace, List.getElem?_set_ne moved] at after
          rw [← Option.some.inj (before.symm.trans after)]
          exact calm
      have gone (y : Extension) (after : (m.replace o left).objects[o]? = some y) : y.is_active = false := by
        rw [ExtensionManager.replace, List.getElem?_set_self (List.getElem?_eq_some_iff.mp object).1] at after
        rw [← Option.some.inj after]
        exact retired.2
      have same_length : (m.replace o left).objects.length = m.objects.length := List.length_set
      have goes_on (later : Disposes records (m.replace o left) rest (ExtensionManager.dispose_all code (n + 1) (m.replace o left) rest)) :
          Disposes records m (o :: rest) (ExtensionManager.dispose_all code (n + 1) (m.replace o left) rest) := by
        refine ⟨later.held, later.keys, later.length.trans same_length, fun p y z before after calm => ?_, fun ended p member y here => ?_⟩
        · have inside : p < (m.replace o left).objects.length := same_length ▸ (List.getElem?_eq_some_iff.mp before).1
          have between := List.getElem?_eq_getElem inside
          exact later.inactive p _ z between after (quiet p y _ before between calm)
        · rcases List.mem_cons.mp member with rfl | after
          · have inside : p < (m.replace p left).objects.length := same_length ▸ (List.getElem?_eq_some_iff.mp object).1
            have between := List.getElem?_eq_getElem inside
            exact later.inactive p _ y between here (gone _ between)
          · exact later.disposed ended p after y here
      cases answer with
      | interrupted e => exact ⟨replaced, rfl, same_length, quiet, nofun⟩
      | returned _ => exact goes_on (ih replaced (n + 1))
      | raised _ => exact goes_on (ih replaced (n + 1))

/-- What a shutdown that comes to its end leaves. -/
structure ShutDown (m : ExtensionManager) : Prop where
  inactive : ∀ x ∈ m.objects, x.is_active = false
  no_extensions : m._extensions = ∅
  no_order : m._extension_order = []

theorem Held.shutdown (held : Held records m) (code : Nat → Code) :
    Held records (m.shutdown code).2 ∧ (m._is_initialized = true → (m.shutdown code).1 = .returned () → ShutDown (m.shutdown code).2) := by
  unfold ExtensionManager.shutdown
  split
  · rename_i off
    exact ⟨held, fun on => absurd on off⟩
  · have deactivated := held.deactivate_all code m._extension_order.reverse 0
    split
    · rename_i left answer
      rw [answer] at deactivated
      have disposed := deactivated.dispose_all code left._extensions.values m._extension_order.length
      split
      · rename_i ended last
        rw [last] at disposed
        -- what was active had a key, so that it was disposed
        have inactive (x : Extension) (member : x ∈ ended.objects) : x.is_active = false := by
          obtain ⟨o, object⟩ := List.mem_iff_getElem?.mp member
          have inside : o < left.objects.length := disposed.length ▸ (List.getElem?_eq_some_iff.mp object).1
          have before := List.getElem?_eq_getElem inside
          by_cases active : left.objects[o].is_active = true
          · have found := (deactivated.active o _ before active).1
            have listed : o ∈ left._extensions.values := List.mem_map_of_mem ((Dict.get?_some_iff ..).mp found)
            exact disposed.disposed rfl o listed x object
          · exact disposed.inactive o _ x before object (by simpa using active)
        refine ⟨⟨nofun, nofun, disposed.held.known, nofun, fun o x object alive => ?_⟩, fun _ _ => ⟨inactive, rfl, rfl⟩⟩
        rw [inactive x (List.mem_of_getElem? object)] at alive
        cases alive
      · rename_i unfinished last
        rw [last] at disposed
        have held := disposed.held
        exact ⟨⟨held.by_id, held.by_name, held.known, held.keys, held.active⟩, fun _ ended => (unfinished ended).elim⟩
    · rename_i unfinished answer
      rw [answer] at deactivated
      exact ⟨⟨deactivated.by_id, deactivated.by_name, deactivated.known, deactivated.keys, deactivated.active⟩,
        fun _ ended => (unfinished ended).elim⟩

/-! ## Runs -/

theorem Held.call (distinct : Distinct records) (held : Held records m) (call : Call) (registers : ∀ metadata ∈ call.registers, metadata ∈ records) :
    Held records (m.call call) := by
  cases call with
  | initialize_manager => exact ⟨held.by_id, held.by_name, held.known, held.keys, held.active⟩
  | register_extension metadata =>
    have member := registers metadata rfl
    refine ⟨fun key other found => ?_, fun key other found => ?_, held.known, held.keys, held.active⟩
    · simp only [ExtensionManager.call, ExtensionRegistry.register_extension, Dict.get?_set] at found
      split at found
      · exact Option.some.inj found ▸ member
      · exact held.by_id key other found
    · simp only [ExtensionManager.call, ExtensionRegistry.register_extension, Dict.get?_set] at found
      split at found
      · exact Option.some.inj found ▸ member
      · exact held.by_name key other found
  | unregister_extension name_or_id =>
    have fewer : (∀ key other, (m.registry.unregister_extension name_or_id).2._extensions.get? key = some other → other ∈ records) ∧
        ∀ key other, (m.registry.unregister_extension name_or_id).2._extensions_by_name.get? key = some other → other ∈ records := by
      unfold ExtensionRegistry.unregister_extension
      split
      · exact ⟨held.by_id, held.by_name⟩
      · exact ⟨fun key other found => held.by_id key other (Dict.get?_of_erase found), fun key other found => held.by_name key other (Dict.get?_of_erase found)⟩
    exact ⟨fewer.1, fewer.2, held.known, held.keys, held.active⟩
  | load_extension code name_or_id => exact held.load distinct code name_or_id
  | unload_extension code name_or_id => exact held.unload distinct code name_or_id
  | activate_extension code name_or_id => exact held.activate distinct code name_or_id
  | deactivate_extension code name_or_id => exact held.deactivate code name_or_id
  | shutdown code => exact (held.shutdown code).1

end

/-- A manager that was just made. -/
def new (dependency_resolution auto_activate_extensions : Bool) : ExtensionManager :=
  { registry := .empty, dependency_resolution, auto_activate_extensions }

theorem held_new (records : List ExtensionMetadata) (dependency_resolution auto_activate_extensions : Bool) :
    Held records (new dependency_resolution auto_activate_extensions) :=
  ⟨nofun, nofun, nofun, nofun, nofun⟩

theorem held_run {records : List ExtensionMetadata} (distinct : Distinct records) {m : ExtensionManager} (held : Held records m) (calls : List Call)
    (registers : ∀ call ∈ calls, ∀ metadata ∈ call.registers, metadata ∈ records) : Held records (calls.foldl ExtensionManager.call m) := by
  induction calls generalizing m with
  | nil => exact held
  | cons call rest ih =>
    exact ih (held.call distinct call (registers call List.mem_cons_self)) fun later member => registers later (List.mem_cons_of_mem _ member)

/-- After every run whose registered extensions share no keys, whatever the code of the
    extensions does, an active extension is found under its id and its name and is in the
    order; and a shutdown that is not interrupted leaves no extension active that was ever
    loaded, and no key. -/
theorem nothing_active_is_lost (dependency_resolution auto_activate_extensions : Bool) (calls : List Call)
    (distinct : Distinct (calls.filterMap Call.registers)) :
    let m := calls.foldl ExtensionManager.call (new dependency_resolution auto_activate_extensions)
    (∀ (o : Nat) x, m.objects[o]? = some x → x.is_active = true → Found m o x.metadata ∧ x.metadata.extension_id ∈ m._extension_order) ∧
      ∀ code, m._is_initialized = true → (m.shutdown code).1 = .returned () → ShutDown (m.shutdown code).2 := by
  have held := held_run distinct (held_new _ dependency_resolution auto_activate_extensions) calls fun call member metadata registered =>
    List.mem_filterMap.mpr ⟨call, member, registered⟩
  refine ⟨fun o x object active => ?_, fun code => (held.shutdown code).2⟩
  have found := held.active o x object active
  exact ⟨found, (held.key_of found.1 object).2.2⟩

def willing : Code := ⟨⟨true, Extension.quiet, ⟨.returned (), .returned (), []⟩⟩, ⟨[], .returned (), .returned ()⟩, ⟨[], .returned ()⟩⟩

/-- An extension that is loaded, activated and shut down. -/
theorem shut_down_tools :
    let m := [.initialize_manager, .register_extension ⟨"tools", [], "1"⟩, .load_extension willing "tools"].foldl ExtensionManager.call (new true true)
    (∀ (o : Nat) x, m.objects[o]? = some x → x.is_active = true → Found m o x.metadata ∧ x.metadata.extension_id ∈ m._extension_order) ∧
      ∀ code, m._is_initialized = true → (m.shutdown code).1 = .returned () → ShutDown (m.shutdown code).2 :=
  nothing_active_is_lost true true _ fun a in_a b in_b _ => by
    obtain rfl := List.mem_singleton.mp in_a
    obtain rfl := List.mem_singleton.mp in_b
    exact ⟨rfl, rfl⟩

end RevitPy.ExtensionRuns
