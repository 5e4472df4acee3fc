import RevitPy.Outcome
import RevitPy.Runs

/-!
# The life cycle of an extension

The methods guard themselves with `is_loaded` and `is_active`. A disposed extension
is neither, like one that was never loaded, so that it can be loaded again.
-/

namespace RevitPy

inductive ExtensionStatus
  | UNLOADED
  | LOADING
  | LOADED
  | INITIALIZING
  | ACTIVE
  | DEACTIVATING
  | DEACTIVATED
  | ERROR
  | DISPOSED
  deriving DecidableEq

/-- Metadata for an extension. -/
structure ExtensionMetadata where
  name : String
  dependencies : List String := []
  extension_id : String
  deriving DecidableEq

/-- An extension, and how often its `load()` and its `activate()` were called. -/
structure Extension where
  metadata : ExtensionMetadata
  status : ExtensionStatus := .UNLOADED
  last_error : Option String := none
  load_calls : Nat := 0
  activate_calls : Nat := 0

/-- How the code ends that a load calls: the preparation of the container and of the
    configuration, `load()`, and the callbacks. -/
structure LoadHooks where
  prepare : Outcome Unit
  load : Outcome Unit
  callbacks : List (Outcome Unit)

structure ActivationHooks where
  activate : Outcome Unit
  discover : Outcome Unit
  callbacks : List (Outcome Unit)

structure DeactivationHooks where
  callbacks : List (Outcome Unit)
  unregister : Outcome Unit
  deactivate : Outcome Unit

structure DisposalHooks where
  callbacks : List (Outcome Unit)
  dispose : Outcome Unit

namespace Extension

/-- Check if extension is loaded. -/
def is_loaded (x : Extension) : Bool := x.status ∉ [.UNLOADED, .ERROR, .DISPOSED]

/-- Check if extension is active. -/
def is_active (x : Extension) : Bool := x.status = .ACTIVE

/-- The end of the `try` of a method: an `Exception` is kept as the last error. -/
def conclude (x : Extension) (done : ExtensionStatus) : Outcome Unit → Outcome Bool × Extension
  | .returned () => (.returned true, { x with status := done })
  | .raised e =>
    (.returned false,
      { x with
        last_error := some e
        status := .ERROR })
  | .interrupted e => (.interrupted e, x)

/-- Load the extension with error handling. -/
def load_extension (x : Extension) (hooks : LoadHooks) : Outcome Bool × Extension :=
  if x.is_loaded then (.returned true, x)
  else
    let loading :=
      { x with
        status := .LOADING
        last_error := none }
    match hooks.prepare with
    | .returned () =>
      let called := { loading with load_calls := x.load_calls + 1 }
      match hooks.load with
      | .returned () => called.conclude .LOADED (Outcome.run_callbacks hooks.callbacks)
      | failed => called.conclude .LOADED failed
    | failed => loading.conclude .LOADED failed

/-- What `activate_extension` does with a loaded extension. -/
def activate_loaded (x : Extension) (hooks : ActivationHooks) : Outcome Bool × Extension :=
  if x.is_active then (.returned true, x)
  else
    let called :=
      { x with
        status := .INITIALIZING
        activate_calls := x.activate_calls + 1 }
    match hooks.activate with
    | .returned () => match hooks.discover with
      | .returned () => called.conclude .ACTIVE (Outcome.run_callbacks hooks.callbacks)
      | failed => called.conclude .ACTIVE failed
    | failed => called.conclude .ACTIVE failed

/-- Activate the extension with error handling. -/
def activate_extension (x : Extension) (load_hooks : LoadHooks) (hooks : ActivationHooks) : Outcome Bool × Extension :=
  if x.is_loaded then x.activate_loaded hooks
  else match x.load_extension load_hooks with
    | (.returned true, loaded) => loaded.activate_loaded hooks
    | failed => failed

/-- Deactivate the extension with error handling. -/
def deactivate_extension (x : Extension) (hooks : DeactivationHooks) : Outcome Bool × Extension :=
  if ¬x.is_active then (.returned true, x)
  else
    let deactivating := { x with status := .DEACTIVATING }
    match Outcome.run_callbacks hooks.callbacks with
    | .returned () => match hooks.unregister with
      | .returned () => deactivating.conclude .DEACTIVATED hooks.deactivate
      | failed => deactivating.conclude .DEACTIVATED failed
    | failed => deactivating.conclude .DEACTIVATED failed

/-- What `dispose_extension` does once the extension is not active. -/
def dispose_inactive (x : Extension) (hooks : DisposalHooks) : Outcome Unit × Extension :=
  let (result, left) := match Outcome.run_callbacks hooks.callbacks with
    | .returned () => x.conclude .DISPOSED hooks.dispose
    | failed => x.conclude .DISPOSED failed
  match result with
  | .interrupted e => (.interrupted e, left)
  | _ => (.returned (), left)

/-- Dispose the extension with error handling. What a deactivation answers is ignored. -/
def dispose_extension (x : Extension) (deactivation : DeactivationHooks) (hooks : DisposalHooks) : Outcome Unit × Extension :=
  if x.status = .DISPOSED then (.returned (), x)
  else if x.is_active then match x.deactivate_extension deactivation with
    | (.interrupted e, left) => (.interrupted e, left)
    | (_, left) => left.dispose_inactive hooks
  else x.dispose_inactive hooks

end Extension

/-- A call of a method, with the ends of the code that it would call. -/
inductive LifecycleCall
  | load_extension (hooks : LoadHooks)
  | activate_extension (load_hooks : LoadHooks) (hooks : ActivationHooks)
  | deactivate_extension (hooks : DeactivationHooks)
  | dispose_extension (deactivation : DeactivationHooks) (hooks : DisposalHooks)

namespace Extension

def step (x : Extension) : LifecycleCall → Extension
  | .load_extension hooks => (x.load_extension hooks).2
  | .activate_extension load_hooks hooks => (x.activate_extension load_hooks hooks).2
  | .deactivate_extension hooks => (x.deactivate_extension hooks).2
  | .dispose_extension deactivation hooks => (x.dispose_extension deactivation hooks).2

def run (x : Extension) (calls : List LifecycleCall) : Extension := calls.foldl step x

/-- The extension stays disposed, and its `load()` and `activate()` are not called. -/
def StaysDisposed (x y : Extension) : Prop :=
  y.status = .DISPOSED ∧ y.load_calls = x.load_calls ∧ y.activate_calls = x.activate_calls

/-- Wherever a run disposes the extension, it stays disposed through the rest of the run. -/
def DisposalFinal (x : Extension) (calls : List LifecycleCall) : Prop :=
  ∀ before after, before ++ after <+: calls → (x.run before).status = .DISPOSED →
    (x.run before).StaysDisposed (x.run (before ++ after))

/-- A disposed extension is neither loaded nor activated. -/
def Respects (x : Extension) : LifecycleCall → Prop
  | .load_extension _ | .activate_extension _ _ => x.status ≠ .DISPOSED
  | .deactivate_extension _ | .dispose_extension _ _ => True

/-! ## What a call does with a disposed extension -/

variable {x : Extension}

theorem conclude_status (x : Extension) {done : ExtensionStatus} (failed : done ≠ .DISPOSED) (ending : Outcome Unit)
    (kept : x.status ≠ .DISPOSED) : (x.conclude done ending).2.status ≠ .DISPOSED := by
  cases ending with
  | returned _ => exact failed
  | raised _ => simp [conclude]
  | interrupted _ => exact kept

/-- A disposed extension that is loaded again is not disposed any more. -/
theorem load_disposed (disposed : x.status = .DISPOSED) (hooks : LoadHooks) : (x.load_extension hooks).2.status ≠ .DISPOSED := by
  have unloaded : x.is_loaded = false := by simp [is_loaded, disposed]
  unfold load_extension
  rw [unloaded]
  simp only [Bool.false_eq_true, if_false]
  split
  · split
    · exact conclude_status _ (by decide) _ (by simp)
    · exact conclude_status _ (by decide) _ (by simp)
  · exact conclude_status _ (by decide) _ (by simp)

theorem activate_loaded_status (kept : x.status ≠ .DISPOSED) (hooks : ActivationHooks) :
    (x.activate_loaded hooks).2.status ≠ .DISPOSED := by
  unfold activate_loaded
  split
  · exact kept
  · split
    · split
      · exact conclude_status _ (by decide) _ (by simp)
      · exact conclude_status _ (by decide) _ (by simp)
    · exact conclude_status _ (by decide) _ (by simp)

theorem activate_disposed (disposed : x.status = .DISPOSED) (load_hooks : LoadHooks) (hooks : ActivationHooks) :
    (x.activate_extension load_hooks hooks).2.status ≠ .DISPOSED := by
  have unloaded : x.is_loaded = false := by simp [is_loaded, disposed]
  have revived := load_disposed disposed load_hooks
  unfold activate_extension
  rw [unloaded]
  simp only [Bool.false_eq_true, if_false]
  split
  · next loaded answer =>
    rw [answer] at revived
    exact activate_loaded_status revived hooks
  · exact revived

/-- A call keeps a disposed extension as it is exactly if it neither loads nor activates it. -/
theorem stays_disposed_iff (disposed : x.status = .DISPOSED) (call : LifecycleCall) :
    x.StaysDisposed (x.step call) ↔ x.Respects call := by
  cases call with
  | load_extension hooks => exact ⟨fun stays => absurd stays.1 (load_disposed disposed hooks), fun other => absurd disposed other⟩
  | activate_extension load_hooks hooks =>
    exact ⟨fun stays => absurd stays.1 (activate_disposed disposed load_hooks hooks), fun other => absurd disposed other⟩
  | deactivate_extension hooks =>
    have inactive : x.is_active = false := by simp [is_active, disposed]
    have same : x.step (.deactivate_extension hooks) = x := by simp [step, deactivate_extension, inactive]
    rw [same]
    exact ⟨fun _ => trivial, fun _ => ⟨disposed, rfl, rfl⟩⟩
  | dispose_extension deactivation hooks =>
    have same : x.step (.dispose_extension deactivation hooks) = x := by simp [step, dispose_extension, disposed]
    rw [same]
    exact ⟨fun _ => trivial, fun _ => ⟨disposed, rfl, rfl⟩⟩

theorem StaysDisposed.trans {y z : Extension} (left : x.StaysDisposed y) (right : y.StaysDisposed z) : x.StaysDisposed z :=
  ⟨right.1, right.2.1.trans left.2.1, right.2.2.trans left.2.2⟩

/-! ## Runs -/

theorem run_append (x : Extension) (before after : List LifecycleCall) : x.run (before ++ after) = (x.run before).run after :=
  List.foldl_append

/-- A run in which every call respects a disposed extension leaves it disposed. -/
theorem stays_disposed_run (disposed : x.status = .DISPOSED) {calls : List LifecycleCall}
    (respects : Runs.Along step Respects x calls) : x.StaysDisposed (x.run calls) := by
  have keeps : ∀ (y : Extension) (call : LifecycleCall), x.StaysDisposed y → y.Respects call → x.StaysDisposed (y.step call) :=
    fun y call stays respected => stays.trans ((stays_disposed_iff stays.1 call).mpr respected)
  exact Runs.foldl_keeps keeps ⟨disposed, rfl, rfl⟩ respects

/-- Disposal is final in a run exactly if no call loads or activates a disposed extension. -/
theorem disposal_final_iff (x : Extension) (calls : List LifecycleCall) :
    x.DisposalFinal calls ↔ Runs.Along step Respects x calls := by
  constructor
  · intro final
    refine Runs.along_iff_split.mpr fun before call after same => ?_
    by_cases disposed : (x.run before).status = .DISPOSED
    · have stays := final before [call] ⟨after, by simp [same]⟩ disposed
      rw [run_append] at stays
      exact (stays_disposed_iff disposed call).mp stays
    · cases call with
      | load_extension _ => exact disposed
      | activate_extension _ _ => exact disposed
      | deactivate_extension _ => trivial
      | dispose_extension _ _ => trivial
  · intro respects before after ⟨rest, split⟩ disposed
    rw [← split, List.append_assoc] at respects
    have later := (Runs.along_append.mp (Runs.along_append.mp respects).2).1
    rw [run_append]
    exact stays_disposed_run disposed later

def quiet : LoadHooks := ⟨.returned (), .returned (), []⟩

/-- A disposed extension that is activated becomes active. -/
theorem disposed_activated :
    ¬∀ (metadata : ExtensionMetadata) (calls : List LifecycleCall), DisposalFinal { metadata } calls := by
  intro final
  have stays := final ⟨"tools", [], "1"⟩ _
    [.dispose_extension ⟨[], .returned (), .returned ()⟩ ⟨[], .returned ()⟩]
    [.activate_extension quiet ⟨.returned (), .returned (), []⟩] (List.prefix_refl _) rfl
  exact absurd stays.1 (by decide)

end Extension

end RevitPy
