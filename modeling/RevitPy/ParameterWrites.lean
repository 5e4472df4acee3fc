import RevitPy.Dict

/-!
# Writing the parameters of an element

A write goes to the Revit element first. The change is tracked and the cache is filled
after it, so that a later step that raises leaves the model half updated. The tracking
itself raises for every parameter that is cached.
-/

namespace RevitPy.Api

/-- What the code asks of values that it does not know; Python's `None` is none of them. -/
structure Values (ν : Type) where
  /-- `!=`, as the condition of an `if`. -/
  ne : Option ν → Option ν → Except String Bool
  str : Option ν → String
  type_name : Option ν → String
  is_float : Option ν → Bool
  is_int : Option ν → Bool
  float : Option ν → Option (Option ν)
  int : Option ν → Option (Option ν)
  /-- `str(value.StorageType)`, where the value has such an attribute. -/
  StorageType : Option ν → Except String (Option String)
  /-- `AsString`, `AsDouble`, `AsInteger`, `AsValueString` or `str`. -/
  as_python : ν → Except String (Option ν)

/-- The interface of a Revit element in a model that a write changes. -/
structure IRevitElement (σ ν : Type) where
  Id : σ → Except String Int
  GetParameterValue : String → σ → Except String (Option ν)
  SetParameterValue : String → Option ν → σ → Except String σ

/-- Type-safe parameter value container. -/
structure ParameterValue (ν : Type) where
  name : String
  value : Option ν
  type_name : String
  is_read_only : Bool := false
  storage_type : String := "String"

/-- A tracked change. -/
structure Change (ν : Type) where
  old : Option ν
  new : Option ν

inductive ElementException (ν : Type)
  | ElementNotFoundError (element_id : Int) (element_type : String) (cause : String)
  | ValidationError (message field : String) (value : Option ν) (cause : String)
  /-- What is raised while another exception is reported. -/
  | other (message : String)

structure Element (σ ν : Type) where
  revit_element : σ
  _parameter_cache : Dict String (ParameterValue ν) := ∅
  _change_tracker : Dict String (Change ν) := ∅
  _is_dirty : Bool := false

variable {σ ν : Type}

/-- Validate parameter value based on storage type. -/
def ParameterValue.validate_value (v : Values ν) (value : Option ν) (validated : Option String) : Except String (Option ν) :=
  let storage_type := validated.getD "String"
  if storage_type = "Double" ∧ ¬(v.is_int value ∨ v.is_float value) then match v.float value with
    | some number => .ok number
    | none => .error ("Cannot convert " ++ v.str value ++ " to double")
  else if storage_type = "Integer" ∧ ¬v.is_int value then match v.int value with
    | some number => .ok number
    | none => .error ("Cannot convert " ++ v.str value ++ " to integer")
  else .ok value

/-- The value is validated before the storage type, which its validator then does not see. -/
def ParameterValue.create (v : Values ν) (name : String) (value : Option ν) (storage_type : String) :
    Except String (ParameterValue ν) :=
  match ParameterValue.validate_value v value none with
  | .error e => .error e
  | .ok validated =>
    .ok
      { name
        value := validated
        type_name := v.type_name value
        storage_type }

namespace Element
variable (v : Values ν) (r : IRevitElement σ ν)

/-- Get the element ID. -/
def id (e : Element σ ν) : Except String Int := r.Id e.revit_element

/-- Convert Revit value to appropriate Python type. -/
def _convert_from_revit : Option ν → Except String (Option ν)
  | none => .ok none
  | some value => v.as_python value

/-- Convert Python value to Revit type. -/
def _convert_to_revit (value : Option ν) : Option ν := value

/-- Determine storage type from Revit value. -/
def _get_storage_type (value : Option ν) : Except String String :=
  match v.StorageType value with
  | .error e => .error e
  | .ok (some storage_type) => .ok storage_type
  | .ok none => .ok "String"

/-- The value that Revit has for a parameter, with the entry that the cache gets. -/
def read (e : Element σ ν) (parameter_name : String) : Except String (ParameterValue ν × Option ν) :=
  match r.GetParameterValue parameter_name e.revit_element with
  | .error cause => .error cause
  | .ok raw_value => match _convert_from_revit v raw_value with
    | .error cause => .error cause
    | .ok converted_value => match _get_storage_type v raw_value with
      | .error cause => .error cause
      | .ok storage_type => match ParameterValue.create v parameter_name converted_value storage_type with
        | .error cause => .error cause
        | .ok param_value => .ok (param_value, converted_value)

/-- Get parameter value with caching and type conversion. -/
def get_parameter_value (e : Element σ ν) (parameter_name : String) (use_cache : Bool) :
    Except (ElementException ν) (Option ν) × Element σ ν :=
  match if use_cache then e._parameter_cache.get? parameter_name else none with
  | some cached => (.ok cached.value, e)
  | none => match e.read v r parameter_name with
    | .error cause => match e.id r with
      | .error message => (.error (.other message), e)
      | .ok element_id => (.error (.ElementNotFoundError element_id parameter_name cause), e)
    | .ok (param_value, converted_value) =>
      (.ok converted_value,
        if use_cache then { e with _parameter_cache := e._parameter_cache.set parameter_name param_value } else e)

/-- Track a change. What is cached is no dictionary and has no method `get`. -/
def track (e : Element σ ν) (parameter_name : String) (value : Option ν) : Except String (Element σ ν) :=
  match e._parameter_cache.get? parameter_name with
  | some _ => .error "'ParameterValue' object has no attribute 'get'"
  | none => match v.ne none value with
    | .error cause => .error cause
    | .ok false => .ok e
    | .ok true =>
      .ok
        { e with
          _change_tracker := e._change_tracker.set parameter_name ⟨none, value⟩
          _is_dirty := true }

/-- The exception of a write that failed. -/
def set_failed (e : Element σ ν) (parameter_name : String) (value : Option ν) (cause : String) : ElementException ν :=
  match e.id r with
  | .error message => .other message
  | .ok _ => .ValidationError ("Failed to set parameter " ++ parameter_name) parameter_name value cause

/-- Set parameter value with type conversion and change tracking. -/
def set_parameter_value (e : Element σ ν) (parameter_name : String) (value : Option ν) (track_changes : Bool) :
    Except (ElementException ν) Unit × Element σ ν :=
  let failed (left : Element σ ν) (cause : String) : Except (ElementException ν) Unit × Element σ ν :=
    (.error (left.set_failed r parameter_name value cause), left)
  match r.SetParameterValue parameter_name (_convert_to_revit value) e.revit_element with
  | .error cause => failed e cause
  | .ok revit_element =>
    let written := { e with revit_element }
    match if track_changes then written.track v parameter_name value else .ok written with
    | .error cause => failed written cause
    | .ok tracked => match _get_storage_type v (_convert_to_revit value) with
      | .error cause => failed tracked cause
      | .ok storage_type => match ParameterValue.create v parameter_name value storage_type with
        | .error cause => failed tracked cause
        | .ok param_value =>
          let cached := { tracked with _parameter_cache := tracked._parameter_cache.set parameter_name param_value }
          match cached.id r with
          | .error cause => failed cached cause
          | .ok _ => (.ok (), cached)

/-- Discard all tracked changes. -/
def discard_changes (e : Element σ ν) : Element σ ν :=
  if ¬e._is_dirty then e
  else
    { e with
      _parameter_cache := e._change_tracker.keys.foldl Dict.erase e._parameter_cache
      _change_tracker := ∅
      _is_dirty := false }

/-- Refresh element data from Revit. -/
def refresh (e : Element σ ν) : Element σ ν :=
  { e with
    _parameter_cache := ∅
    _change_tracker := ∅
    _is_dirty := false }

end Element

/-- A call of a method of an element. -/
inductive ElementCall (ν : Type)
  | get_parameter_value (parameter_name : String) (use_cache : Bool)
  | set_parameter_value (parameter_name : String) (value : Option ν) (track_changes : Bool)
  | discard_changes
  | refresh

namespace Element
variable (v : Values ν) (r : IRevitElement σ ν)

def call (e : Element σ ν) : ElementCall ν → Element σ ν
  | .get_parameter_value parameter_name use_cache => (e.get_parameter_value v r parameter_name use_cache).2
  | .set_parameter_value parameter_name value track_changes => (e.set_parameter_value v r parameter_name value track_changes).2
  | .discard_changes => e.discard_changes
  | .refresh => e.refresh

/-- An element after calls of its methods. -/
def run (revit_element : σ) (calls : List (ElementCall ν)) : Element σ ν := calls.foldl (call v r) { revit_element }

/-- The parameter, the cache and the tracked changes are as they were. -/
def Unchanged (parameter_name : String) (e left : Element σ ν) : Prop :=
  r.GetParameterValue parameter_name left.revit_element = r.GetParameterValue parameter_name e.revit_element ∧
    left._parameter_cache = e._parameter_cache ∧ left._change_tracker = e._change_tracker

/-- The value is read back, and the change is tracked with the value from before. -/
def Written (parameter_name : String) (value : Option ν) (e left : Element σ ν) : Prop :=
  (left.get_parameter_value v r parameter_name true).1 = .ok value ∧
    ∃ change, left._change_tracker.get? parameter_name = some change ∧
      (e.get_parameter_value v r parameter_name true).1 = .ok change.old

/-- A write changes nothing where it raises, and does all that it should where it returns. -/
def Atomic (e : Element σ ν) (parameter_name : String) (value : Option ν) : Prop :=
  match e.set_parameter_value v r parameter_name value true with
  | (.error _, left) => Unchanged r parameter_name e left
  | (.ok (), left) => Written v r parameter_name value e left

/-- What a write needs, where the Revit element has been written. What raises after that, for
    a parameter that is cached or a value that cannot be compared or stored, must find the
    parameter as it was. Else the id can be read, and a value that is not `None` replaces
    `None`, or `None` is written where a change from the value of before is tracked already. -/
def Safe (e : Element σ ν) (parameter_name : String) (value : Option ν) (written : σ) : Prop :=
  let same := r.GetParameterValue parameter_name written = r.GetParameterValue parameter_name e.revit_element
  let before := (e.get_parameter_value v r parameter_name true).1
  match e._parameter_cache.get? parameter_name, v.ne none value, v.StorageType value with
  | some _, _, _ => same
  | none, .error _, _ => same
  | none, .ok false, .error _ => same
  | none, .ok true, .error _ => same ∧ e._change_tracker.get? parameter_name = some ⟨none, value⟩
  | none, .ok true, .ok _ => (r.Id written).isOk ∧ before = .ok none
  | none, .ok false, .ok _ => (r.Id written).isOk ∧
      ∃ change, e._change_tracker.get? parameter_name = some change ∧ before = .ok change.old

/-! ## One write -/

variable {v r}

/-- The validator leaves every value as it is. -/
theorem create_eq (parameter_name : String) (value : Option ν) (storage_type : String) :
    ParameterValue.create v parameter_name value storage_type =
      .ok
        { name := parameter_name
          value
          type_name := v.type_name value
          storage_type } := by
  simp [ParameterValue.create, ParameterValue.validate_value]

/-- A write that the Revit element refuses changes nothing. -/
theorem atomic_refused {e : Element σ ν} {parameter_name : String} {value : Option ν} {cause : String}
    (refused : r.SetParameterValue parameter_name value e.revit_element = .error cause) : Atomic v r e parameter_name value := by
  unfold Atomic set_parameter_value _convert_to_revit
  rw [refused]
  exact ⟨rfl, rfl, rfl⟩

section
variable {e : Element σ ν} {parameter_name : String} {value : Option ν} {written : σ}
  (accepted : r.SetParameterValue parameter_name value e.revit_element = .ok written)
include accepted

/-- A write whose tracking raises leaves the parameter written, and nothing else. -/
theorem atomic_untracked {cause : String} (raises : ({ e with revit_element := written } : Element σ ν).track v parameter_name value = .error cause) :
    Atomic v r e parameter_name value ↔
      r.GetParameterValue parameter_name written = r.GetParameterValue parameter_name e.revit_element := by
  unfold Atomic set_parameter_value _convert_to_revit
  rw [accepted]
  simp only [if_true, raises]
  exact ⟨fun unchanged => unchanged.1, fun same => ⟨same, rfl, rfl⟩⟩

/-- A write that is tracked, and whose value cannot be stored. -/
theorem atomic_unstored {cause : String} {tracked : Element σ ν}
    (tracks : ({ e with revit_element := written } : Element σ ν).track v parameter_name value = .ok tracked)
    (raises : v.StorageType value = .error cause) :
    Atomic v r e parameter_name value ↔ Unchanged r parameter_name e tracked := by
  unfold Atomic set_parameter_value _convert_to_revit
  rw [accepted]
  simp only [if_true, tracks, _get_storage_type, raises]

/-- A write that is tracked and stored. It returns exactly if the id can be read. -/
theorem atomic_stored {tracked : Element σ ν} {storage_type : Option String}
    (tracks : ({ e with revit_element := written } : Element σ ν).track v parameter_name value = .ok tracked)
    (stored : v.StorageType value = .ok storage_type) (uncached : e._parameter_cache.get? parameter_name = none)
    (kept : tracked.revit_element = written ∧ tracked._parameter_cache = e._parameter_cache) :
    Atomic v r e parameter_name value ↔ (r.Id written).isOk ∧
      ∃ change, tracked._change_tracker.get? parameter_name = some change ∧
        (e.get_parameter_value v r parameter_name true).1 = .ok change.old := by
  have storage : ∃ name, _get_storage_type v value = .ok name := by
    rw [_get_storage_type, stored]
    cases storage_type with
    | none => exact ⟨_, rfl⟩
    | some name => exact ⟨name, rfl⟩
  obtain ⟨storage, named⟩ := storage
  unfold Atomic set_parameter_value _convert_to_revit
  rw [accepted]
  simp only [if_true, tracks, named, create_eq, id, kept.1]
  cases known : r.Id written with
  | error cause =>
    -- The cache has got an entry that it had not.
    simp only [Except.isOk, Except.toBool, Bool.false_eq_true, false_and, iff_false]
    rintro ⟨_, cache, _⟩
    simp only [kept.2] at cache
    have entry := Dict.get?_set_self e._parameter_cache parameter_name
      (⟨parameter_name, value, v.type_name value, false, storage⟩ : ParameterValue ν)
    rw [cache, uncached] at entry
    cases entry
  | ok element_id =>
    have read_back (left : Element σ ν) (param_value : ParameterValue ν) (same : param_value.value = value)
        (found : left._parameter_cache.get? parameter_name = some param_value) :
        (left.get_parameter_value v r parameter_name true).1 = .ok value := by
      rw [get_parameter_value, if_pos rfl, found, ← same]
    simp only [Except.isOk, Except.toBool, true_and]
    constructor
    · exact fun done => done.2
    · exact fun change => ⟨read_back _ _ rfl (Dict.get?_set_self ..), change⟩

end

/-- A write is atomic exactly if the Revit element refuses it, or finds what it needs. -/
theorem atomic_iff (v : Values ν) (r : IRevitElement σ ν) (e : Element σ ν) (parameter_name : String) (value : Option ν) :
    Atomic v r e parameter_name value ↔
      ∀ written, r.SetParameterValue parameter_name value e.revit_element = .ok written → Safe v r e parameter_name value written := by
  cases accepted : r.SetParameterValue parameter_name value e.revit_element with
  | error cause => exact ⟨fun _ => nofun, fun _ => atomic_refused accepted⟩
  | ok written =>
    simp only [Except.ok.injEq, forall_eq']
    unfold Safe
    cases cached : e._parameter_cache.get? parameter_name with
    | some entry => exact atomic_untracked accepted (by rw [track, cached])
    | none => cases compared : v.ne none value with
      | error cause =>
        have raises : ({ e with revit_element := written } : Element σ ν).track v parameter_name value = .error cause := by
          simp only [track, cached, compared]
        exact atomic_untracked accepted raises
      | ok differs => cases differs with
        | false =>
          have tracks : ({ e with revit_element := written } : Element σ ν).track v parameter_name value =
              .ok { e with revit_element := written } := by simp only [track, cached, compared]
          cases stored : v.StorageType value with
          | error cause =>
            rw [atomic_unstored accepted tracks stored]
            exact ⟨fun unchanged => unchanged.1, fun same => ⟨same, rfl, rfl⟩⟩
          | ok storage_type =>
            have returns := atomic_stored accepted tracks stored cached ⟨rfl, rfl⟩
            exact returns
        | true =>
          have tracks : ({ e with revit_element := written } : Element σ ν).track v parameter_name value =
              .ok
                { e with
                  revit_element := written
                  _change_tracker := e._change_tracker.set parameter_name ⟨none, value⟩
                  _is_dirty := true } := by simp only [track, cached, compared]
          cases stored : v.StorageType value with
          | error cause =>
            rw [atomic_unstored accepted tracks stored]
            constructor
            · rintro ⟨same, _, changes⟩
              refine ⟨same, ?_⟩
              rw [← changes]
              exact Dict.get?_set_self ..
            · rintro ⟨same, tracked⟩
              exact ⟨same, rfl, Dict.set_of_get? tracked⟩
          | ok storage_type =>
            rw [atomic_stored accepted tracks stored cached ⟨rfl, rfl⟩]
            simp only [Dict.get?_set_self, Option.some.injEq, exists_eq_left']

/-! ## A parameter that is written twice -/

/-- Numbers as values, which Python compares and Revit reads. -/
def numbers : Values Nat where
  ne a b := .ok (decide (a ≠ b))
  str value := toString (value.getD 0)
  type_name _ := "int"
  is_float _ := false
  is_int _ := true
  float value := some value
  int value := some value
  StorageType _ := .ok none
  as_python value := .ok (some value)

/-- A wall with one parameter. -/
def wall : IRevitElement (Option Nat) Nat where
  Id _ := .ok 1
  GetParameterValue _ height := .ok height
  SetParameterValue _ value _ := .ok value

/-- The second write of a parameter reaches Revit and raises. -/
theorem second_write_raises :
    ¬∀ (v : Values Nat) (r : IRevitElement (Option Nat) Nat) (revit_element : Option Nat) (calls : List (ElementCall Nat))
      (parameter_name : String) (value : Option Nat), Atomic v r (run v r revit_element calls) parameter_name value := by
  intro atomic
  have unchanged := (atomic numbers wall none [.set_parameter_value "Height" (some 3) true] "Height" (some 4)).1
  exact absurd unchanged (by decide)

end Element

end RevitPy.Api
