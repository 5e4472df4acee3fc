import RevitPy.ChangeTracker

/-!
# Rollback

The values that a tracker restores are the ones that the entity had when tracking
began. An entity is attached by its first tracked change only after the change was
made, and a snapshot leaves out private attributes and unmapped properties.
-/

namespace RevitPy
variable {ν : Type}

/-- An object as it lives: its own attributes (its `__dict__`), the attributes of its
    class that they hide, the properties of its class that are computed, with the value
    of each or a failing getter, and the names of the mapped ones. -/
structure LiveEntity (ν : Type) where
  type : ElementType
  hash : Option Int := none
  attributes : Dict String ν := ∅
  class_attributes : Dict String ν := ∅
  computed : Dict String (Option ν) := ∅
  property_mappings : List String := []
  separate : ∀ p ∈ computed.keys, p ∉ attributes.keys

namespace LiveEntity

/-- `getattr(entity, name)`, where there is one. -/
def getattr (o : LiveEntity ν) (name : String) : Option ν := match o.computed.get? name with
  | some value => value
  | none => (o.attributes.get? name).or (o.class_attributes.get? name)

/-- `setattr(entity, name, value)`. -/
def setattr (o : LiveEntity ν) (name : String) (value : ν) : LiveEntity ν :=
  if known : name ∈ o.computed.keys then
    { o with
      computed := o.computed.set name (some value)
      separate := by rw [Dict.keys_set_of_mem known]; exact o.separate }
  else
    { o with
      attributes := o.attributes.set name value
      separate := by
        intro p computed own
        rcases (Dict.mem_keys_set _ _ _ _).mp own with rfl | own
        · exact known computed
        · exact o.separate p computed own }

theorem getattr_setattr (o : LiveEntity ν) (name : String) (value : ν) (p : String) :
    (o.setattr name value).getattr p = if name = p then some value else o.getattr p := by
  unfold setattr getattr
  by_cases known : name ∈ o.computed.keys
  · simp only [known, dite_true, Dict.get?_set]
    by_cases same : name = p <;> simp [same]
  · simp only [known, dite_false, Dict.get?_set]
    by_cases same : name = p
    · rw [same] at known
      simp [(Dict.get?_none_iff _ _).mpr known, same]
    · simp [same]

theorem getattr_edited (o : LiveEntity ν) (name : String) (value : ν) :
    (o.setattr name value).getattr = Function.update o.getattr name (some value) := by
  funext p
  rw [getattr_setattr, Function.update_apply]
  simp only [eq_comm]

/-- What a tracker sees of an object, where ids are read from values. -/
def entity (as_id : ν → Option ElementId) (o : LiveEntity ν) (address : Int) : Entity ν where
  address := address
  type := o.type
  id := (o.getattr "id").map as_id
  Id := (o.getattr "Id").map as_id
  hash := o.hash
  attributes := o.attributes
  property_mappings := o.property_mappings.map fun name => (name, o.getattr name)

/-- The assignments of a revert, to the attributes that the object has. -/
def assign (o : LiveEntity ν) (values : List (String × ν)) : LiveEntity ν :=
  values.foldl (fun o item => if (o.getattr item.1).isSome then o.setattr item.1 item.2 else o) o

/-- A snapshot holds values that the object has. -/
theorem getattr_of_snapshot {as_id : ν → Option ElementId} {o : LiveEntity ν} {address : Int} {id : Option ElementId}
    {p : String} {value : ν}
    (captured : (EntityTracker.new (o.entity as_id address) id).snapshot_current_state.original_values.get? p = some value) :
    o.getattr p = some value := by
  rcases Dict.mem_of_get?_update captured with member | before
  · rcases List.mem_append.mp member with own | mapped
    · have found : o.attributes.get? p = some value := (Dict.get?_some_iff _ _ _).mpr (List.mem_filter.mp own).1
      have uncomputed : o.computed.get? p = none := (Dict.get?_none_iff _ _).mpr fun computed =>
        o.separate p computed (Dict.mem_keys_of_get? found)
      rw [getattr, uncomputed, found, Option.some_or]
    · obtain ⟨⟨name, read⟩, listed, readable⟩ := List.mem_filterMap.mp mapped
      obtain ⟨_, _, same⟩ := List.mem_map.mp listed
      obtain ⟨rfl, rfl⟩ := Prod.mk.inj same
      obtain ⟨_, found, same⟩ := Option.map_eq_some_iff.mp readable
      obtain ⟨rfl, rfl⟩ := Prod.mk.inj same
      exact found
  · cases before

/-- A revert gives an attribute the value that is assigned to it. -/
theorem getattr_assign (o : LiveEntity ν) (values : Dict String ν) (p : String) :
    (o.assign values.entries).getattr p = if (o.getattr p).isSome then (values.get? p).or (o.getattr p) else none := by
  have assigned (items : List (String × ν)) (distinct : (items.map Prod.fst).Nodup) (o : LiveEntity ν) :
      (o.assign items).getattr p = if (o.getattr p).isSome then (Dict.find items p).or (o.getattr p) else none := by
    induction items generalizing o with
    | nil => cases found : o.getattr p <;> simp [assign, Dict.find, found]
    | cons item rest ih =>
      obtain ⟨fresh, distinct⟩ := List.nodup_cons.mp distinct
      refine (ih distinct _).trans ?_
      by_cases same : item.1 = p
      · subst same
        have absent : Dict.find rest item.1 = none := (Dict.find_none_iff rest item.1).mpr fresh
        cases found : o.getattr item.1 <;> simp [absent, Dict.find, found, getattr_setattr]
      · have kept : (if (o.getattr item.1).isSome then o.setattr item.1 item.2 else o).getattr p = o.getattr p := by
          split
          · rw [getattr_setattr, if_neg same]
          · rfl
        rw [kept, Dict.find, if_neg same]
  exact assigned values.entries values.nodup o

end LiveEntity

inductive RollbackEvent (ν : Type)
  | attach (address : Int) (entity_id : Option ElementId)
  | edit (address : Int) (property_name : String) (new_value : ν)
  | accept_changes (entity_id : Option ElementId)
  | reject_changes (entity_id : Option ElementId)

/-- A change tracker and the objects in use, by address. Of each object it is
    remembered which values it had at its last accept, or when tracking began, and
    which properties were changed since. -/
structure EditSession (ν : Type) where
  change_tracker : ChangeTracker ν := {}
  objects : Int → LiveEntity ν
  original : Int → String → Option ν
  changed : Int → String → Bool := fun _ _ => false

/-- The trackers that a call for one entity or for all is about. -/
def ChangeTracker.trackers (c : ChangeTracker ν) (entity_id : Option ElementId) : List (EntityTracker ν) :=
  (c.targets entity_id).filterMap c.tracked_entities.get?

theorem ChangeTracker.mem_trackers {c : ChangeTracker ν} {entity_id : Option ElementId} {t : EntityTracker ν} :
    t ∈ c.trackers entity_id ↔ ∃ k, c.tracked_entities.get? k = some t ∧ (entity_id = none ∨ entity_id = k) := by
  unfold trackers targets
  rw [List.mem_filterMap]
  by_cases all : entity_id = none
  · simp only [all, if_true, true_or, and_true]
    constructor
    · rintro ⟨k, _, found⟩
      exact ⟨k, found⟩
    · rintro ⟨k, found⟩
      exact ⟨k, Dict.mem_keys_of_get? found, found⟩
  · simp [all]

namespace EditSession

/-- No entity is tracked yet. -/
def start (objects : Int → LiveEntity ν) : EditSession ν := { objects := objects, original := fun a => (objects a).getattr }

/-- An object is tracked by a tracker that a call is about. -/
def covered (s : EditSession ν) (entity_id : Option ElementId) (address : Int) : Bool :=
  (s.change_tracker.trackers entity_id).any fun t => t.entity_ref.address = address

/-- A tracker assigns its original values to the object that it refers to. -/
def revert (address : Int) (o : LiveEntity ν) (t : EntityTracker ν) : LiveEntity ν :=
  if t.entity_ref.address = address then o.assign t.reject_changes.1 else o

variable (as_id : ν → Option ElementId) (null : ν)

/-- An edit sets an attribute and then tracks the change, with `null` for the old
    value of an attribute that was missing. -/
def step [DecidableEq ν] (s : EditSession ν) : RollbackEvent ν → EditSession ν
  | .attach address entity_id =>
    { s with change_tracker := s.change_tracker.attach ((s.objects address).entity as_id address) entity_id }
  | .edit address property_name new_value =>
    let old_value := (s.objects address).getattr property_name
    let edited := (s.objects address).setattr property_name new_value
    { s with
      change_tracker := s.change_tracker.track_property_change (edited.entity as_id address) property_name
        (old_value.getD null) new_value
      objects := Function.update s.objects address edited
      changed := fun a p => s.changed a p || decide (a = address ∧ p = property_name ∧ old_value ≠ some new_value) }
  | .accept_changes entity_id =>
    { s with
      change_tracker := s.change_tracker.accept_changes entity_id
      original := fun a => if s.covered entity_id a then (s.objects a).getattr else s.original a
      changed := fun a p => !s.covered entity_id a && s.changed a p }
  | .reject_changes entity_id =>
    { s with
      change_tracker := s.change_tracker.reject_changes entity_id
      objects := fun a => (s.change_tracker.trackers entity_id).foldl (revert a) (s.objects a) }

def run [DecidableEq ν] (s : EditSession ν) (events : List (RollbackEvent ν)) : EditSession ν := events.foldl (step as_id null) s

/-- An object has no tracker. -/
def Untracked (s : EditSession ν) (address : Int) : Prop :=
  ∀ k t, s.change_tracker.tracked_entities.get? k = some t → t.entity_ref.address ≠ address

/-- The tracker has what a later reject needs: an object is attached under one id,
    and an edit that changes a value is made while the entity is tracked under its
    own id, with a value of the property. -/
def Records (s : EditSession ν) : RollbackEvent ν → Prop
  | .attach address entity_id =>
    (s.change_tracker.tracked_entities.get? (if entity_id = none then ((s.objects address).entity as_id address).tracker_id
      else entity_id)).isSome ∨ s.Untracked address
  | .edit address property_name new_value =>
    match s.change_tracker.tracked_entities.get? (((s.objects address).setattr property_name new_value).entity as_id address).tracker_id with
    | some t => t.entity_ref.address = address ∧
        ((s.objects address).getattr property_name = some new_value ∨ property_name ∈ t.original_values.keys)
    | none => s.Untracked address ∧ (s.objects address).getattr property_name = some new_value
  | .accept_changes _ | .reject_changes _ => True

/-- Every step of a run is recorded. -/
def AllRecorded [DecidableEq ν] (s : EditSession ν) : List (RollbackEvent ν) → Prop
  | [] => True
  | event :: rest => s.Records as_id event ∧ AllRecorded (s.step as_id null event) rest

/-- A reject would leave every property changed since the last accept, or since
    tracking began, with the value it had then. -/
def Restorable [DecidableEq ν] (s : EditSession ν) : Prop :=
  ∀ entity_id address p, s.covered entity_id address = true → s.changed address p = true →
    ((s.step as_id null (.reject_changes entity_id)).objects address).getattr p = s.original address p

/-! ## What trackers keep -/

/-- A tracker knows the original values of its object, and the values that edits gave
    it, where these are the values it had and has. -/
structure Knows (original value : String → Option ν) (t : EntityTracker ν) : Prop where
  saved : ∀ p v, t.original_values.get? p = some v → original p = some v
  latest : ∀ p v, t.current_values.get? p = some v → value p = some v
  unedited : ∀ p, p ∈ t.original_values.keys → t.current_values.get? p = none → value p = original p

structure Consistent (s : EditSession ν) : Prop where
  auto_track : s.change_tracker.auto_track = true
  single : ∀ j k t u, s.change_tracker.tracked_entities.get? j = some t → s.change_tracker.tracked_entities.get? k = some u →
    t.entity_ref.address = u.entity_ref.address → j = k
  knows : ∀ k t, s.change_tracker.tracked_entities.get? k = some t →
    Knows (s.original t.entity_ref.address) (s.objects t.entity_ref.address).getattr t
  captured : ∀ a p, s.changed a p = true → ∃ k t, s.change_tracker.tracked_entities.get? k = some t ∧
    t.entity_ref.address = a ∧ p ∈ t.original_values.keys
  unchanged : ∀ a p, s.changed a p = false → (s.objects a).getattr p = s.original a p
  present : ∀ a p, s.changed a p = true → ((s.objects a).getattr p).isSome

variable {s : EditSession ν}

theorem covered_iff {entity_id : Option ElementId} {address : Int} : s.covered entity_id address = true ↔
    ∃ k t, s.change_tracker.tracked_entities.get? k = some t ∧ t.entity_ref.address = address ∧
      (entity_id = none ∨ entity_id = k) := by
  simp only [covered, List.any_eq_true, decide_eq_true_eq, ChangeTracker.mem_trackers]
  constructor
  · rintro ⟨t, ⟨k, found, target⟩, same⟩
    exact ⟨k, t, found, same, target⟩
  · rintro ⟨k, t, found, same, target⟩
    exact ⟨t, ⟨k, found, target⟩, same⟩

theorem consistent_start (objects : Int → LiveEntity ν) : Consistent (start objects) where
  auto_track := rfl
  single _ _ _ _ found := by cases found
  knows _ _ found := by cases found
  captured _ _ changed := by cases changed
  unchanged _ _ _ := rfl
  present _ _ changed := by cases changed

/-- Trackers that agree on a value give it to their object, if one of them has it. -/
theorem getattr_reverted (trackers : List (EntityTracker ν)) (o : LiveEntity ν) (address : Int) (p : String) (original : Option ν)
    (agree : ∀ t ∈ trackers, t.entity_ref.address = address → ∀ value, t.original_values.get? p = some value →
      original = some value) :
    (trackers.foldl (revert address) o).getattr p =
      if (o.getattr p).isSome ∧ ∃ t ∈ trackers, t.entity_ref.address = address ∧ p ∈ t.original_values.keys then original
      else o.getattr p := by
  induction trackers generalizing o with
  | nil => simp
  | cons t rest ih =>
    rw [List.foldl_cons, ih _ fun u member => agree u (List.mem_cons_of_mem _ member)]
    by_cases own : t.entity_ref.address = address
    · have assigned : (revert address o t).getattr p =
          if (o.getattr p).isSome then (t.original_values.get? p).or (o.getattr p) else none := by
        rw [revert, if_pos own]
        exact o.getattr_assign t.original_values p
      cases found : t.original_values.get? p with
      | some value =>
        have known : p ∈ t.original_values.keys := Dict.mem_keys_of_get? found
        have same := agree t List.mem_cons_self own value found
        cases had : o.getattr p <;> simp [assigned, found, had, own, known, same]
      | none =>
        have unknown : p ∉ t.original_values.keys := (Dict.get?_none_iff _ _).mp found
        cases had : o.getattr p <;> simp [assigned, found, had, unknown]
    · have kept : revert address o t = o := if_neg own
      simp [kept, own]

/-! ## Steps -/

/-- A snapshot of an unchanged object knows its values. -/
theorem knows_snapshot {as_id : ν → Option ElementId} {o : LiveEntity ν} {original : String → Option ν}
    (unchanged : o.getattr = original) (address : Int) (entity_id : Option ElementId) :
    Knows original o.getattr (EntityTracker.new (o.entity as_id address) entity_id).snapshot_current_state where
  saved p v captured := unchanged ▸ LiveEntity.getattr_of_snapshot captured
  latest p v found := by cases found
  unedited p _ _ := congrFun unchanged p

/-- What is accepted becomes original. -/
theorem Knows.accept {original value : String → Option ν} {t : EntityTracker ν} (knows : Knows original value t) :
    Knows value value t.accept_changes where
  saved p v found := by
    rw [EntityTracker.accept_changes, Dict.get?_update_entries] at found
    cases current : t.current_values.get? p with
    | some w =>
      rw [current, Option.some_or] at found
      rw [← found]
      exact knows.latest p w current
    | none =>
      rw [current, Option.none_or] at found
      rw [knows.unedited p (Dict.mem_keys_of_get? found) current]
      exact knows.saved p v found
  latest p v found := by cases found
  unedited _ _ _ := rfl

theorem Consistent.unchanged_of_untracked (consistent : Consistent s) {address : Int} (untracked : s.Untracked address) :
    (s.objects address).getattr = s.original address := by
  funext p
  refine consistent.unchanged address p (Bool.eq_false_iff.mpr fun changed => ?_)
  obtain ⟨k, t, found, same, _⟩ := consistent.captured address p changed
  exact untracked k t found same

/-- A call is about a tracker exactly where its object is covered. -/
theorem Consistent.covered_tracked (consistent : Consistent s) {k : Option ElementId} {t : EntityTracker ν}
    (found : s.change_tracker.tracked_entities.get? k = some t) (entity_id : Option ElementId) :
    s.covered entity_id t.entity_ref.address = true ↔ entity_id = none ∨ entity_id = k := by
  rw [covered_iff]
  constructor
  · rintro ⟨j, u, here, same, target⟩
    obtain rfl := consistent.single j k u t here found same
    exact target
  · intro target
    exact ⟨k, t, found, rfl, target⟩

section
variable {entity_id : Option ElementId} {settle : EntityTracker ν → EntityTracker ν}
  {after : Dict (Option ElementId) (EntityTracker ν)} (consistent : Consistent s)
  (tracked : ∀ k, after.get? k = if entity_id = none ∨ entity_id = k then (s.change_tracker.tracked_entities.get? k).map settle
    else s.change_tracker.tracked_entities.get? k)
include consistent tracked

/-- A tracker that is there afterwards was there, and is settled where its object is covered. -/
theorem Consistent.settled {k : Option ElementId} {t : EntityTracker ν} (found : after.get? k = some t) :
    ∃ u, s.change_tracker.tracked_entities.get? k = some u ∧ t = if s.covered entity_id u.entity_ref.address then settle u else u := by
  rw [tracked] at found
  split at found
  · next target =>
    obtain ⟨u, here, rfl⟩ := Option.map_eq_some_iff.mp found
    exact ⟨u, here, (if_pos ((consistent.covered_tracked here entity_id).mpr target)).symm⟩
  · next other =>
    exact ⟨t, found, (if_neg fun covered => other ((consistent.covered_tracked found entity_id).mp covered)).symm⟩

theorem Consistent.single_settled (ref : ∀ u, (settle u).entity_ref = u.entity_ref) {j k : Option ElementId}
    {t₁ t₂ : EntityTracker ν} (left : after.get? j = some t₁) (right : after.get? k = some t₂)
    (same : t₁.entity_ref.address = t₂.entity_ref.address) : j = k := by
  have settled_ref (u : EntityTracker ν) :
      (if s.covered entity_id u.entity_ref.address then settle u else u).entity_ref = u.entity_ref := by
    split
    · exact ref u
    · rfl
  obtain ⟨u₁, first, rfl⟩ := consistent.settled tracked left
  obtain ⟨u₂, second, rfl⟩ := consistent.settled tracked right
  rw [settled_ref, settled_ref] at same
  exact consistent.single j k u₁ u₂ first second same

end

/-- The tracker that records an edit, which is new where the value stays the same. -/
structure Records.By (as_id : ν → Option ElementId) (s : EditSession ν) (address : Int) (name : String) (new_value : ν)
    (entity : Entity ν) (t : EntityTracker ν) : Prop where
  used : s.change_tracker.tracker_of entity = t
  kept : ∀ u, s.change_tracker.tracked_entities.get? entity.tracker_id = some u → u = t
  own : t.entity_ref.address = address
  alone : ∀ k u, s.change_tracker.tracked_entities.get? k = some u → u.entity_ref.address = address → k = entity.tracker_id
  knows : Knows (s.original address) (s.objects address).getattr t
  captured : (s.objects address).getattr name = some new_value ∨ name ∈ t.original_values.keys

theorem Consistent.records {as_id : ν → Option ElementId} (consistent : Consistent s) {address : Int} {name : String}
    {new_value : ν} (records : s.Records as_id (.edit address name new_value)) :
    ∃ t, Records.By as_id s address name new_value
      (((s.objects address).setattr name new_value).entity as_id address) t := by
  generalize same : ((s.objects address).setattr name new_value).entity as_id address = entity
  simp only [Records, same] at records
  cases found : s.change_tracker.tracked_entities.get? entity.tracker_id with
  | some t =>
    rw [found] at records
    obtain ⟨own, captured⟩ := records
    refine ⟨t, by rw [ChangeTracker.tracker_of, found, Option.getD_some], fun u same => ?_, own, fun k u other same => ?_,
      own ▸ consistent.knows _ t found, captured⟩
    · rw [found] at same
      exact (Option.some.inj same).symm
    · exact consistent.single k _ u t other found (same.trans own.symm)
  | none =>
    rw [found] at records
    obtain ⟨untracked, unedited⟩ := records
    have value : ((s.objects address).setattr name new_value).getattr = (s.objects address).getattr := by
      rw [LiveEntity.getattr_edited, ← unedited, Function.update_eq_self]
    refine ⟨(EntityTracker.new entity entity.tracker_id).snapshot_current_state,
      by rw [ChangeTracker.tracker_of, found, Option.getD_none], fun u here => ?_, ?_, fun k u other own => ?_, ?_, Or.inl unedited⟩
    · rw [found] at here
      cases here
    · rw [← same]
      rfl
    · exact absurd own (untracked k u other)
    · rw [← value, ← same]
      exact knows_snapshot (value.trans (consistent.unchanged_of_untracked untracked)) address _

variable [DecidableEq ν]

theorem Knows.edit {original value : String → Option ν} {t : EntityTracker ν} (knows : Knows original value t)
    (name : String) (old_value new_value : ν) :
    Knows original (Function.update value name (some new_value)) (t.track_property_change name old_value new_value) where
  saved p v found := by
    rw [EntityTracker.original_values_track_property_change] at found
    exact knows.saved p v found
  latest p v found := by
    rw [EntityTracker.current_values_track_property_change, Dict.get?_set] at found
    by_cases same : name = p
    · subst same
      rw [if_pos rfl] at found
      rw [Function.update_self, found]
    · rw [if_neg same] at found
      rw [Function.update_of_ne (Ne.symm same)]
      exact knows.latest p v found
  unedited p captured absent := by
    rw [EntityTracker.original_values_track_property_change] at captured
    rw [EntityTracker.current_values_track_property_change, Dict.get?_set] at absent
    by_cases same : name = p
    · rw [if_pos same] at absent
      cases absent
    · rw [if_neg same] at absent
      rw [Function.update_of_ne (Ne.symm same)]
      exact knows.unedited p captured absent

theorem Consistent.attach {as_id : ν → Option ElementId} (consistent : Consistent s) (null : ν) {address : Int}
    {entity_id : Option ElementId} (records : s.Records as_id (.attach address entity_id)) :
    Consistent (s.step as_id null (.attach address entity_id)) := by
  let entity := (s.objects address).entity as_id address
  let id := if entity_id = none then entity.tracker_id else entity_id
  have tracked (k : Option ElementId) : (s.step as_id null (.attach address entity_id)).change_tracker.tracked_entities.get? k =
      if id = k then some ((s.change_tracker.tracked_entities.get? k).getD (EntityTracker.new entity k).snapshot_current_state)
      else s.change_tracker.tracked_entities.get? k := ChangeTracker.get?_attach _ _ _ _
  have before (k : Option ElementId) (t : EntityTracker ν) (found : s.change_tracker.tracked_entities.get? k = some t) :
      (s.step as_id null (.attach address entity_id)).change_tracker.tracked_entities.get? k = some t := by
    rw [tracked, found, Option.getD_some, ite_self]
  -- A tracker that is there afterwards was there, or is the new one of an untracked object.
  have after (k : Option ElementId) (t : EntityTracker ν)
      (found : (s.step as_id null (.attach address entity_id)).change_tracker.tracked_entities.get? k = some t) :
      s.change_tracker.tracked_entities.get? k = some t ∨
        s.Untracked address ∧ k = id ∧ t = (EntityTracker.new entity k).snapshot_current_state := by
    rw [tracked] at found
    split at found
    · next same =>
      subst same
      cases known : s.change_tracker.tracked_entities.get? id with
      | some u =>
        rw [known] at found
        exact Or.inl found
      | none =>
        rw [known] at found
        refine Or.inr ⟨?_, rfl, (Option.some.inj found).symm⟩
        rcases records with used | untracked
        · rw [known] at used
          cases used
        · exact untracked
    · exact Or.inl found
  refine ⟨(ChangeTracker.auto_track_attach _ _ _).trans consistent.auto_track, fun j k t u left right same => ?_,
    fun k t found => ?_, fun a p changed => ?_, consistent.unchanged, consistent.present⟩
  · rcases after j t left with left | ⟨untracked, hj, ht⟩ <;> rcases after k u right with right | ⟨untracked', hk, hu⟩
    · exact consistent.single j k t u left right same
    · rw [hu] at same
      exact absurd same (untracked' j t left)
    · rw [ht] at same
      exact absurd same.symm (untracked k u right)
    · rw [hj, hk]
  · rcases after k t found with found | ⟨untracked, rfl, rfl⟩
    · exact consistent.knows k t found
    · exact knows_snapshot (consistent.unchanged_of_untracked untracked) address id
  · obtain ⟨k, t, found, rest⟩ := consistent.captured a p changed
    exact ⟨k, t, before k t found, rest⟩

/-- An edit changes one value of one object. -/
theorem getattr_edit (as_id : ν → Option ElementId) (null : ν) (s : EditSession ν) (address : Int) (name : String) (new_value : ν)
    (a : Int) : ((s.step as_id null (.edit address name new_value)).objects a).getattr =
      if a = address then Function.update (s.objects address).getattr name (some new_value) else (s.objects a).getattr := by
  show (Function.update s.objects address ((s.objects address).setattr name new_value) a).getattr = _
  rw [Function.update_apply]
  split
  · exact LiveEntity.getattr_edited _ _ _
  · rfl

theorem changed_edit (as_id : ν → Option ElementId) (null : ν) (s : EditSession ν) (address : Int) (name : String) (new_value : ν)
    (a : Int) (p : String) : (s.step as_id null (.edit address name new_value)).changed a p = true ↔
      s.changed a p = true ∨ a = address ∧ p = name ∧ (s.objects address).getattr name ≠ some new_value := by
  simp [EditSession.step]

theorem Consistent.unchanged_edit (consistent : Consistent s) (as_id : ν → Option ElementId) (null : ν) (address : Int)
    (name : String) (new_value : ν) (a : Int) (p : String)
    (was : (s.step as_id null (.edit address name new_value)).changed a p = false) :
    ((s.step as_id null (.edit address name new_value)).objects a).getattr p = s.original a p := by
  obtain ⟨before, same⟩ := not_or.mp (mt (changed_edit as_id null s address name new_value a p).mpr (Bool.eq_false_iff.mp was))
  rw [← consistent.unchanged a p (Bool.eq_false_iff.mpr before), getattr_edit]
  split
  · next here =>
    subst here
    rw [Function.update_apply]
    split
    · next this =>
      subst this
      by_contra differ
      exact same ⟨rfl, rfl, Ne.symm differ⟩
    · rfl
  · rfl

theorem Consistent.present_edit (consistent : Consistent s) (as_id : ν → Option ElementId) (null : ν) (address : Int)
    (name : String) (new_value : ν) (a : Int) (p : String)
    (was : (s.step as_id null (.edit address name new_value)).changed a p = true) :
    (((s.step as_id null (.edit address name new_value)).objects a).getattr p).isSome := by
  have before := (changed_edit as_id null s address name new_value a p).mp was
  rw [getattr_edit]
  split
  · next here =>
    subst here
    rw [Function.update_apply]
    split
    · rfl
    · next different =>
      rcases before with before | ⟨_, this, _⟩
      · exact consistent.present a p before
      · exact absurd this different
  · next other =>
    rcases before with before | ⟨this, _, _⟩
    · exact consistent.present a p before
    · exact absurd this other

theorem Consistent.edit {as_id : ν → Option ElementId} (consistent : Consistent s) (null : ν) {address : Int} {name : String}
    {new_value : ν} (records : s.Records as_id (.edit address name new_value)) :
    Consistent (s.step as_id null (.edit address name new_value)) := by
  obtain ⟨t, used, kept, own, alone, knows, captured⟩ := consistent.records records
  have values := getattr_edit as_id null s address name new_value
  have changed := changed_edit as_id null s address name new_value
  have unchanged := consistent.unchanged_edit as_id null address name new_value
  have present := consistent.present_edit as_id null address name new_value
  generalize shape : ((s.objects address).setattr name new_value).entity as_id address = entity at used kept alone
  generalize result : s.step as_id null (.edit address name new_value) = s' at values changed unchanged present ⊢
  have original : s'.original = s.original := by rw [← result]; rfl
  have call : s'.change_tracker = s.change_tracker.modify entity fun tracker =>
      tracker.track_property_change name (((s.objects address).getattr name).getD null) new_value := by
    rw [← result, ← shape]
    exact if_pos consistent.auto_track
  have tracked (k : Option ElementId) : s'.change_tracker.tracked_entities.get? k =
      if entity.tracker_id = k then some (t.track_property_change name (((s.objects address).getattr name).getD null) new_value)
      else s.change_tracker.tracked_entities.get? k := by
    rw [call, ChangeTracker.get?_modify, used]
  refine ⟨?_, fun j k t₁ t₂ left right same => ?_, fun k u found => ?_, fun a p was => ?_, original ▸ unchanged, present⟩
  · rw [call, ChangeTracker.auto_track_modify]
    exact consistent.auto_track
  · rw [tracked] at left right
    split at left <;> split at right
    · next first second => rw [← first, ← second]
    · next first _ =>
      obtain rfl := Option.some.inj left
      rw [EntityTracker.entity_ref_track_property_change] at same
      rw [alone k t₂ right (same.symm.trans own), first]
    · next second =>
      obtain rfl := Option.some.inj right
      rw [EntityTracker.entity_ref_track_property_change] at same
      rw [alone j t₁ left (same.trans own), second]
    · exact consistent.single j k t₁ t₂ left right same
  · rw [tracked] at found
    split at found
    · obtain rfl := Option.some.inj found
      rw [EntityTracker.entity_ref_track_property_change, own, original, values, if_pos rfl]
      exact knows.edit name _ new_value
    · next other =>
      have foreign : u.entity_ref.address ≠ address := fun same => other (alone k u found same).symm
      rw [original, values, if_neg foreign]
      exact consistent.knows k u found
  · rcases (changed a p).mp was with before | ⟨rfl, rfl, differ⟩
    · obtain ⟨k, u, found, same, known⟩ := consistent.captured a p before
      by_cases this : entity.tracker_id = k
      · subst this
        obtain rfl := kept u found
        exact ⟨_, _, (tracked _).trans (if_pos rfl), by simpa using ⟨same, known⟩⟩
      · exact ⟨k, u, (tracked k).trans (if_neg this ▸ found), same, known⟩
    · exact ⟨_, _, (tracked _).trans (if_pos rfl), by simpa using ⟨own, captured.resolve_left differ⟩⟩

/-! ## Accepts and rejects -/

theorem Consistent.accept {as_id : ν → Option ElementId} (consistent : Consistent s) (null : ν) (entity_id : Option ElementId) :
    Consistent (s.step as_id null (.accept_changes entity_id)) := by
  have tracked (k : Option ElementId) : (s.step as_id null (.accept_changes entity_id)).change_tracker.tracked_entities.get? k =
      if entity_id = none ∨ entity_id = k then (s.change_tracker.tracked_entities.get? k).map EntityTracker.accept_changes
      else s.change_tracker.tracked_entities.get? k := ChangeTracker.get?_accept_changes _ _ _
  refine ⟨(ChangeTracker.auto_track_settled _ _ _).trans consistent.auto_track,
    fun j k t₁ t₂ left right => consistent.single_settled tracked (fun _ => rfl) left right,
    fun k t found => ?_, fun a p was => ?_, fun a p was => ?_, fun a p was => ?_⟩
  · obtain ⟨u, here, rfl⟩ := consistent.settled tracked found
    by_cases covered : s.covered entity_id u.entity_ref.address = true
    · rw [if_pos covered]
      show Knows (if s.covered entity_id u.entity_ref.address then _ else _) _ _
      rw [if_pos covered]
      exact (consistent.knows k u here).accept
    · rw [if_neg covered]
      show Knows (if s.covered entity_id u.entity_ref.address then _ else _) _ _
      rw [if_neg covered]
      exact consistent.knows k u here
  · simp only [EditSession.step, Bool.and_eq_true, Bool.not_eq_true'] at was
    obtain ⟨uncovered, before⟩ := was
    obtain ⟨k, u, here, rfl, known⟩ := consistent.captured a p before
    have other : ¬(entity_id = none ∨ entity_id = k) := fun target => by
      rw [(consistent.covered_tracked here entity_id).mpr target] at uncovered
      cases uncovered
    exact ⟨k, u, (tracked k).trans ((if_neg other).trans here), rfl, known⟩
  · by_cases covered : s.covered entity_id a = true
    · simp only [EditSession.step, if_pos covered]
    · simp only [EditSession.step, if_neg covered]
      exact consistent.unchanged a p (by simpa [EditSession.step, covered] using was)
  · simp only [EditSession.step, Bool.and_eq_true] at was
    exact consistent.present a p was.2

/-- A reject gives each property of an object that it covers the original value, where
    a tracker has one. -/
theorem Consistent.getattr_reject (consistent : Consistent s) (as_id : ν → Option ElementId) (null : ν)
    (entity_id : Option ElementId) (a : Int) (p : String) :
    ((s.step as_id null (.reject_changes entity_id)).objects a).getattr p =
      if ((s.objects a).getattr p).isSome ∧ ∃ t ∈ s.change_tracker.trackers entity_id,
        t.entity_ref.address = a ∧ p ∈ t.original_values.keys then s.original a p
      else (s.objects a).getattr p := by
  refine getattr_reverted _ _ _ _ _ fun t member own v found => ?_
  obtain ⟨k, here, _⟩ := ChangeTracker.mem_trackers.mp member
  exact own ▸ (consistent.knows k t here).saved p v found

theorem Consistent.reject {as_id : ν → Option ElementId} (consistent : Consistent s) (null : ν) (entity_id : Option ElementId) :
    Consistent (s.step as_id null (.reject_changes entity_id)) := by
  have tracked (k : Option ElementId) : (s.step as_id null (.reject_changes entity_id)).change_tracker.tracked_entities.get? k =
      if entity_id = none ∨ entity_id = k then
        (s.change_tracker.tracked_entities.get? k).map fun tracker => tracker.reject_changes.2
      else s.change_tracker.tracked_entities.get? k := ChangeTracker.get?_reject_changes _ _ _
  have value := consistent.getattr_reject as_id null entity_id
  refine ⟨(ChangeTracker.auto_track_settled _ _ _).trans consistent.auto_track,
    fun j k t₁ t₂ left right => consistent.single_settled tracked (fun _ => rfl) left right,
    fun k t found => ?_, fun a p was => ?_, fun a p was => ?_, fun a p was => ?_⟩
  · obtain ⟨u, here, rfl⟩ := consistent.settled tracked found
    have knows := consistent.knows k u here
    have target := consistent.covered_tracked here entity_id
    by_cases covered : s.covered entity_id u.entity_ref.address = true
    · rw [if_pos covered]
      refine ⟨knows.saved, fun p v latest => (by cases latest), fun p known _ => (value u.entity_ref.address p).trans ?_⟩
      split
      · rfl
      · next unassigned =>
        -- Nothing is assigned to an attribute that the object lacks, so it is unchanged.
        refine consistent.unchanged _ p (Bool.eq_false_iff.mpr fun changed => unassigned ⟨consistent.present _ p changed, ?_⟩)
        exact ⟨u, ChangeTracker.mem_trackers.mpr ⟨k, here, target.mp covered⟩, rfl, known⟩
    · have same : ((s.step as_id null (.reject_changes entity_id)).objects u.entity_ref.address).getattr =
          (s.objects u.entity_ref.address).getattr := by
        funext p
        rw [value, if_neg]
        rintro ⟨_, w, member, own, _⟩
        obtain ⟨j, there, assigned⟩ := ChangeTracker.mem_trackers.mp member
        exact covered (covered_iff.mpr ⟨j, w, there, own, assigned⟩)
      rw [if_neg covered, same]
      exact knows
  · obtain ⟨k, u, here, same, known⟩ := consistent.captured a p was
    by_cases target : entity_id = none ∨ entity_id = k
    · exact ⟨k, u.reject_changes.2, by rw [tracked, if_pos target, here]; rfl, same, known⟩
    · exact ⟨k, u, by rw [tracked, if_neg target, here], same, known⟩
  · have before := consistent.unchanged a p was
    rw [value]
    split
    · rfl
    · exact before
  · rw [value]
    split
    · next assigned =>
      obtain ⟨_, t, member, rfl, known⟩ := assigned
      obtain ⟨k, here, _⟩ := ChangeTracker.mem_trackers.mp member
      obtain ⟨v, found⟩ := (Dict.mem_keys_iff _ _).mp known
      rw [(consistent.knows k t here).saved p v found]
      rfl
    · exact consistent.present a p was

/-! ## Runs -/

theorem Consistent.step {as_id : ν → Option ElementId} (consistent : Consistent s) (null : ν) {event : RollbackEvent ν}
    (records : s.Records as_id event) : Consistent (s.step as_id null event) := by
  cases event with
  | attach address entity_id => exact consistent.attach null records
  | edit address name new_value => exact consistent.edit null records
  | accept_changes entity_id => exact consistent.accept null entity_id
  | reject_changes entity_id => exact consistent.reject null entity_id

theorem Consistent.run {as_id : ν → Option ElementId} {null : ν} (consistent : Consistent s) (events : List (RollbackEvent ν))
    (recorded : s.AllRecorded as_id null events) : Consistent (s.run as_id null events) := by
  induction events generalizing s with
  | nil => exact consistent
  | cons event rest ih => exact ih (consistent.step null recorded.1) recorded.2

theorem Consistent.restorable (as_id : ν → Option ElementId) (null : ν) (consistent : Consistent s) : s.Restorable as_id null := by
  intro entity_id address p covered changed
  obtain ⟨j, t, found, own, known⟩ := consistent.captured address p changed
  obtain ⟨k, u, there, same, target⟩ := covered_iff.mp covered
  obtain rfl := consistent.single j k t u found there (own.trans same.symm)
  rw [consistent.getattr_reject, if_pos]
  exact ⟨consistent.present address p changed, t, ChangeTracker.mem_trackers.mpr ⟨j, found, target⟩, own, known⟩

def as_int (value : Nat) : Option ElementId := some (.int value)

def colored : LiveEntity Nat where
  type := ⟨0, "Wall"⟩
  attributes := Dict.ofList [("id", 7), ("Color", 1), ("_height", 4)]
  separate := by simp

/-- An attached wall is edited, accepted and edited again. -/
def colors : List (RollbackEvent Nat) := [.attach 0 none, .edit 0 "Color" 2, .accept_changes none, .edit 0 "Color" 3]

end EditSession

end RevitPy
