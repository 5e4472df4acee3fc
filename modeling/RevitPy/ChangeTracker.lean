import RevitPy.QueryBuilder

/-!
# The change tracker

A tracked entity is known by an id. Its tracker keeps the values it had when
tracking began and the changes made since, until they are accepted or rejected.
-/

namespace RevitPy

inductive ElementState
  | UNCHANGED
  | ADDED
  | MODIFIED
  | DELETED
  | DETACHED
  deriving DecidableEq

inductive ChangeType
  | PROPERTY_CHANGED
  | RELATIONSHIP_ADDED
  | RELATIONSHIP_REMOVED
  | ENTITY_ADDED
  | ENTITY_DELETED
  | ENTITY_ATTACHED
  | ENTITY_DETACHED
  deriving DecidableEq

/-- What is read of an object to tell which entity it is: its address, its class,
    its attributes `id` and `Id`, if it has them, and its hash, if it has one. -/
structure Subject where
  address : Int
  type : ElementType
  id : Option (Option ElementId) := none
  Id : Option (Option ElementId) := none
  hash : Option Int := none

namespace Subject

/-- `_get_entity_id` of the context and of relationships. -/
def entity_id (e : Subject) : Option ElementId := match e.id, e.Id with
  | some id, _ => id
  | none, some id => id
  | none, none => some (.int e.address)

/-- `_get_entity_id` of the change tracker, which falls back on the hash first. -/
def tracker_id (e : Subject) : Option ElementId := match e.id, e.Id, e.hash with
  | some id, _, _ => id
  | none, some id, _ => id
  | none, none, some hash => some (.int hash)
  | none, none, none => some (.int e.address)

end Subject

/-- An entity with its attributes, and the values that its mapped properties have or
    fail to have. -/
structure Entity (ν : Type) extends Subject where
  attributes : Dict String ν := ∅
  property_mappings : List (String × Option ν) := []

variable {ν : Type}

structure PropertyChange (ν : Type) where
  entity_id : Option ElementId
  entity_type : String
  property_name : String
  old_value : ν
  new_value : ν

structure RelationshipChange where
  entity_id : Option ElementId
  entity_type : String
  relationship_name : String
  change_type : ChangeType
  related_entity_id : Option ElementId
  related_entity_type : Option String

/-- A set of changes for an entity. -/
structure ChangeSet (ν : Type) where
  entity_id : Option ElementId
  entity_type : String
  original_values : Dict String ν
  current_values : Dict String ν
  state : ElementState

/-- Tracks changes for a single entity. -/
structure EntityTracker (ν : Type) where
  entity_id : Option ElementId
  entity_type : String
  entity_ref : Entity ν
  state : ElementState := .UNCHANGED
  original_values : Dict String ν := ∅
  current_values : Dict String ν := ∅
  property_changes : Dict String (PropertyChange ν) := ∅
  relationship_changes : List RelationshipChange := []
  version : Nat := 0

namespace EntityTracker

/-- `EntityTracker(entity, entity_id)`. -/
def new (entity : Entity ν) (entity_id : Option ElementId) : EntityTracker ν :=
  { entity_id := entity_id, entity_type := entity.type.name, entity_ref := entity }

def is_dirty (t : EntityTracker ν) : Bool :=
  t.state ≠ .UNCHANGED || !t.property_changes.entries.isEmpty || !t.relationship_changes.isEmpty

/-- Get names of changed properties. -/
def changed_properties (t : EntityTracker ν) : List String := t.property_changes.keys

/-- The values that a snapshot takes: public attributes, then the mapped properties
    that can be read. -/
def snapshot_values (entity : Entity ν) : List (String × ν) :=
  (entity.attributes.entries.filter fun item => item.1.toList.head? ≠ some '_') ++
    entity.property_mappings.filterMap fun item => item.2.map fun value => (item.1, value)

/-- Take snapshot of current entity state. -/
def snapshot_current_state (t : EntityTracker ν) : EntityTracker ν :=
  { t with
    original_values := t.original_values.update (snapshot_values t.entity_ref)
    state := .UNCHANGED
    version := t.version + 1 }

/-- Track a property change. -/
def track_property_change [DecidableEq ν] (t : EntityTracker ν) (property_name : String) (old_value new_value : ν) :
    EntityTracker ν :=
  if old_value = new_value then
    { t with
      property_changes := t.property_changes.erase property_name
      current_values := t.current_values.set property_name new_value }
  else
    { t with
      property_changes := t.property_changes.set property_name
        { entity_id := t.entity_id
          entity_type := t.entity_type
          property_name := property_name
          old_value := old_value
          new_value := new_value }
      state := if t.state = .UNCHANGED then .MODIFIED else t.state
      current_values := t.current_values.set property_name new_value }

/-- Track a relationship change. -/
def track_relationship_change (t : EntityTracker ν) (relationship_name : String) (change_type : ChangeType)
    (related_entity_id : Option ElementId) (related_entity_type : Option String) : EntityTracker ν :=
  { t with
    relationship_changes := t.relationship_changes ++
      [{ entity_id := t.entity_id
         entity_type := t.entity_type
         relationship_name := relationship_name
         change_type := change_type
         related_entity_id := related_entity_id
         related_entity_type := related_entity_type }]
    state := if t.state = .UNCHANGED then .MODIFIED else t.state }

/-- Accept all changes and reset tracking. -/
def accept_changes (t : EntityTracker ν) : EntityTracker ν :=
  { t with
    original_values := t.original_values.update t.current_values.entries
    property_changes := ∅
    relationship_changes := []
    current_values := ∅
    state := .UNCHANGED
    version := t.version + 1 }

/-- Reject all changes: the values that are assigned to the entity, where it has
    the attribute, and the tracker. -/
def reject_changes (t : EntityTracker ν) : List (String × ν) × EntityTracker ν :=
  (t.original_values.entries,
    { t with property_changes := ∅, relationship_changes := [], current_values := ∅, state := .UNCHANGED })

/-- Get change set for this entity. -/
def get_change_set (t : EntityTracker ν) : ChangeSet ν :=
  { entity_id := t.entity_id
    entity_type := t.entity_type
    original_values := t.original_values
    current_values := t.current_values
    state := t.state }

end EntityTracker

/-- Main change tracking system for the ORM. -/
structure ChangeTracker (ν : Type) where
  tracked_entities : Dict (Option ElementId) (EntityTracker ν) := ∅
  entity_states : Dict (Option ElementId) ElementState := ∅
  auto_track : Bool := true

namespace ChangeTracker

def has_changes (c : ChangeTracker ν) : Bool := c.tracked_entities.values.any EntityTracker.is_dirty

/-- Start tracking an entity, under its own id unless another one is given. -/
def attach (c : ChangeTracker ν) (entity : Entity ν) (entity_id : Option ElementId) : ChangeTracker ν :=
  let entity_id := if entity_id = none then entity.tracker_id else entity_id
  if c.tracked_entities.contains entity_id then c
  else
    { c with
      tracked_entities := c.tracked_entities.set entity_id (EntityTracker.new entity entity_id).snapshot_current_state
      entity_states := c.entity_states.set entity_id .UNCHANGED }

/-- Stop tracking an entity. -/
def detach (c : ChangeTracker ν) (entity_id : Option ElementId) : ChangeTracker ν :=
  { c with
    tracked_entities := c.tracked_entities.erase entity_id
    entity_states := c.entity_states.erase entity_id }

/-- The tracker of an entity is changed, after the entity is attached if it is not
    tracked yet. -/
def modify (c : ChangeTracker ν) (entity : Entity ν) (change : EntityTracker ν → EntityTracker ν) : ChangeTracker ν :=
  let attached := if c.tracked_entities.contains entity.tracker_id then c else c.attach entity entity.tracker_id
  match attached.tracked_entities.get? entity.tracker_id with
  | none => attached
  | some tracker =>
    let tracker := change tracker
    { attached with
      tracked_entities := attached.tracked_entities.set entity.tracker_id tracker
      entity_states := if tracker.is_dirty then attached.entity_states.set entity.tracker_id tracker.state
        else attached.entity_states }

/-- Track a property change on an entity. -/
def track_property_change [DecidableEq ν] (c : ChangeTracker ν) (entity : Entity ν) (property_name : String)
    (old_value new_value : ν) : ChangeTracker ν :=
  if c.auto_track then c.modify entity fun tracker => tracker.track_property_change property_name old_value new_value else c

/-- Track a relationship change on an entity. -/
def track_relationship_change (c : ChangeTracker ν) (entity : Entity ν) (relationship_name : String)
    (change_type : ChangeType) (related_entity : Option Subject) : ChangeTracker ν :=
  if c.auto_track then
    c.modify entity fun tracker => tracker.track_relationship_change relationship_name change_type
      (related_entity.bind Subject.tracker_id) (related_entity.map fun related => related.type.name)
  else c

/-- Mark entity as newly added. -/
def mark_as_added (c : ChangeTracker ν) (entity : Entity ν) : ChangeTracker ν :=
  c.modify entity fun tracker => { tracker with state := .ADDED }

/-- Mark entity as deleted. -/
def mark_as_deleted (c : ChangeTracker ν) (entity : Entity ν) : ChangeTracker ν :=
  c.modify entity fun tracker => { tracker with state := .DELETED }

/-- Get the current state of an entity. -/
def get_entity_state (c : ChangeTracker ν) (entity_id : Option ElementId) : ElementState :=
  c.entity_states.getD entity_id .DETACHED

/-- Get change sets for all tracked entities that have changes. -/
def get_all_changes (c : ChangeTracker ν) : List (ChangeSet ν) :=
  (c.tracked_entities.values.filter EntityTracker.is_dirty).map EntityTracker.get_change_set

/-- The tracker of one id is replaced, and its state set to unchanged. -/
def settle (change : EntityTracker ν → EntityTracker ν) (c : ChangeTracker ν) (entity_id : Option ElementId) : ChangeTracker ν :=
  match c.tracked_entities.get? entity_id with
  | none => c
  | some tracker =>
    { c with
      tracked_entities := c.tracked_entities.set entity_id (change tracker)
      entity_states := c.entity_states.set entity_id .UNCHANGED }

/-- The ids that a call for one entity or, without an id, for all entities is about. -/
def targets (c : ChangeTracker ν) (entity_id : Option ElementId) : List (Option ElementId) :=
  if entity_id = none then c.tracked_entities.keys else [entity_id]

/-- Accept changes for specific entity or all entities. -/
def accept_changes (c : ChangeTracker ν) (entity_id : Option ElementId) : ChangeTracker ν :=
  (c.targets entity_id).foldl (settle EntityTracker.accept_changes) c

/-- Reject changes for specific entity or all entities. -/
def reject_changes (c : ChangeTracker ν) (entity_id : Option ElementId) : ChangeTracker ν :=
  (c.targets entity_id).foldl (settle fun tracker => tracker.reject_changes.2) c

/-- Clear all tracked entities and changes. -/
def clear (c : ChangeTracker ν) : ChangeTracker ν := { c with tracked_entities := ∅, entity_states := ∅ }

/-! ## What calls leave in the tracker -/

section
variable (c : ChangeTracker ν) (change : EntityTracker ν → EntityTracker ν)

/-- The tracker of an entity, as it is or as attaching makes it. -/
def tracker_of (entity : Entity ν) : EntityTracker ν :=
  (c.tracked_entities.get? entity.tracker_id).getD (EntityTracker.new entity entity.tracker_id).snapshot_current_state

theorem get?_attach (entity : Entity ν) (entity_id k : Option ElementId) :
    (c.attach entity entity_id).tracked_entities.get? k =
      if (if entity_id = none then entity.tracker_id else entity_id) = k then
        some ((c.tracked_entities.get? k).getD (EntityTracker.new entity k).snapshot_current_state)
      else c.tracked_entities.get? k := by
  unfold attach
  simp only
  generalize (if entity_id = none then entity.tracker_id else entity_id) = id
  split
  · next known =>
    obtain ⟨tracker, found⟩ := (Dict.mem_keys_iff _ _).mp ((Dict.contains_iff _ _).mp known)
    split
    · next same => rw [← same, found]; rfl
    · rfl
  · next unknown =>
    have absent : c.tracked_entities.get? id = none :=
      (Dict.get?_none_iff _ _).mpr fun known => unknown ((Dict.contains_iff _ _).mpr known)
    simp only [Dict.get?_set]
    split
    · next same => rw [← same, absent]; rfl
    · rfl

theorem get?_modify (entity : Entity ν) (k : Option ElementId) :
    (c.modify entity change).tracked_entities.get? k =
      if entity.tracker_id = k then some (change (c.tracker_of entity)) else c.tracked_entities.get? k := by
  have attached (j : Option ElementId) : (if c.tracked_entities.contains entity.tracker_id then c
      else c.attach entity entity.tracker_id).tracked_entities.get? j =
        if entity.tracker_id = j then some (c.tracker_of entity) else c.tracked_entities.get? j := by
    split
    · next known =>
      obtain ⟨tracker, found⟩ := (Dict.mem_keys_iff _ _).mp ((Dict.contains_iff _ _).mp known)
      split
      · next same => rw [← same, tracker_of, found]; rfl
      · rfl
    · rw [get?_attach, ite_self]
      split
      · next same => rw [tracker_of, same]
      · rfl
  unfold modify
  simp only
  split
  · next absent =>
    rw [attached, if_pos rfl] at absent
    cases absent
  · next tracker found =>
    rw [attached, if_pos rfl] at found
    obtain rfl := Option.some.inj found
    simp only [Dict.get?_set]
    split
    · rfl
    · next other => rw [attached, if_neg other]

theorem get?_settle (entity_id k : Option ElementId) :
    (settle change c entity_id).tracked_entities.get? k =
      if entity_id = k then (c.tracked_entities.get? k).map change else c.tracked_entities.get? k := by
  unfold settle
  split
  · next absent =>
    split
    · next same => rw [← same, absent]; rfl
    · rfl
  · next tracker found =>
    simp only [Dict.get?_set]
    split
    · next same => rw [← same, found]; rfl
    · rfl

theorem get?_settle_all {ids : List (Option ElementId)} (distinct : ids.Nodup) (k : Option ElementId) :
    (ids.foldl (settle change) c).tracked_entities.get? k =
      if k ∈ ids then (c.tracked_entities.get? k).map change else c.tracked_entities.get? k := by
  induction ids generalizing c with
  | nil => simp
  | cons id rest ih =>
    rw [List.foldl_cons, ih _ (List.nodup_cons.mp distinct).2, get?_settle]
    by_cases same : id = k
    · subst same
      simp [(List.nodup_cons.mp distinct).1]
    · by_cases later : k ∈ rest <;> simp [same, Ne.symm same, later]

/-- A call for one entity or for all changes the trackers of the entities it is
    about, where they are tracked. -/
theorem get?_settled (entity_id k : Option ElementId) :
    ((c.targets entity_id).foldl (settle change) c).tracked_entities.get? k =
      if entity_id = none ∨ entity_id = k then (c.tracked_entities.get? k).map change else c.tracked_entities.get? k := by
  unfold targets
  by_cases all : entity_id = none
  · rw [if_pos all, get?_settle_all _ _ c.tracked_entities.keys_nodup, if_pos (Or.inl all)]
    split
    · rfl
    · next absent => rw [(Dict.get?_none_iff _ _).mpr absent]; rfl
  · simp [all, get?_settle]

@[simp] theorem auto_track_attach (entity : Entity ν) (entity_id : Option ElementId) :
    (c.attach entity entity_id).auto_track = c.auto_track := by
  unfold attach
  simp only
  generalize (if entity_id = none then entity.tracker_id else entity_id) = id
  split <;> rfl

@[simp] theorem auto_track_modify (entity : Entity ν) : (c.modify entity change).auto_track = c.auto_track := by
  have attached : (if c.tracked_entities.contains entity.tracker_id then c
      else c.attach entity entity.tracker_id).auto_track = c.auto_track := by
    split
    · rfl
    · exact auto_track_attach c entity entity.tracker_id
  unfold modify
  simp only
  split <;> exact attached

@[simp] theorem auto_track_settled (ids : List (Option ElementId)) : (ids.foldl (settle change) c).auto_track = c.auto_track := by
  induction ids generalizing c with
  | nil => rfl
  | cons id rest ih =>
    rw [List.foldl_cons, ih]
    unfold settle
    split <;> rfl

theorem get?_accept_changes (entity_id k : Option ElementId) :
    (c.accept_changes entity_id).tracked_entities.get? k =
      if entity_id = none ∨ entity_id = k then (c.tracked_entities.get? k).map EntityTracker.accept_changes
      else c.tracked_entities.get? k := get?_settled c _ entity_id k

theorem get?_reject_changes (entity_id k : Option ElementId) :
    (c.reject_changes entity_id).tracked_entities.get? k =
      if entity_id = none ∨ entity_id = k then (c.tracked_entities.get? k).map fun tracker => tracker.reject_changes.2
      else c.tracked_entities.get? k := get?_settled c _ entity_id k

end

/-- A change is pending where a tracker is dirty. -/
theorem has_changes_iff (c : ChangeTracker ν) :
    c.has_changes = true ↔ ∃ k tracker, c.tracked_entities.get? k = some tracker ∧ tracker.is_dirty = true := by
  simp only [has_changes, Dict.values, List.any_map, List.any_eq_true, Function.comp_apply, Prod.exists, Dict.get?_some_iff]

theorem get_all_changes_eq_nil (c : ChangeTracker ν) : c.get_all_changes = [] ↔ c.has_changes = false := by
  rw [get_all_changes, List.map_eq_nil_iff, List.filter_eq_nil_iff, has_changes, List.any_eq_false]

end ChangeTracker

namespace EntityTracker
variable [DecidableEq ν] (t : EntityTracker ν) (name : String) (old_value new_value : ν)

/-- The record of a property after a call: the call, or nothing where the values are
    equal. -/
theorem get?_track_property_change (k : String) :
    (t.track_property_change name old_value new_value).property_changes.get? k =
      if name = k then if old_value = new_value then none else some ⟨t.entity_id, t.entity_type, name, old_value, new_value⟩
      else t.property_changes.get? k := by
  unfold track_property_change
  split
  · rw [Dict.get?_erase]
  · rw [Dict.get?_set]

theorem state_track_property_change : (t.track_property_change name old_value new_value).state =
    if old_value ≠ new_value ∧ t.state = .UNCHANGED then .MODIFIED else t.state := by
  unfold track_property_change
  by_cases same : old_value = new_value <;> simp [same]

@[simp] theorem relationship_changes_track_property_change :
    (t.track_property_change name old_value new_value).relationship_changes = t.relationship_changes := by
  unfold track_property_change; split <;> rfl

@[simp] theorem original_values_track_property_change :
    (t.track_property_change name old_value new_value).original_values = t.original_values := by
  unfold track_property_change; split <;> rfl

@[simp] theorem current_values_track_property_change :
    (t.track_property_change name old_value new_value).current_values = t.current_values.set name new_value := by
  unfold track_property_change; split <;> rfl

@[simp] theorem entity_ref_track_property_change :
    (t.track_property_change name old_value new_value).entity_ref = t.entity_ref := by
  unfold track_property_change; split <;> rfl

end EntityTracker

@[simp] theorem EntityTracker.is_dirty_accept_changes (t : EntityTracker ν) : t.accept_changes.is_dirty = false := rfl

@[simp] theorem EntityTracker.is_dirty_reject_changes (t : EntityTracker ν) : t.reject_changes.2.is_dirty = false := rfl

namespace ChangeTracker

/-- After all changes are accepted, none is pending. -/
theorem has_changes_accept_changes (c : ChangeTracker ν) : (c.accept_changes none).has_changes = false := by
  rw [← Bool.not_eq_true, has_changes_iff]
  rintro ⟨k, tracker, found, dirty⟩
  rw [get?_accept_changes, if_pos (Or.inl rfl)] at found
  obtain ⟨before, -, rfl⟩ := Option.map_eq_some_iff.mp found
  rw [EntityTracker.is_dirty_accept_changes] at dirty
  cases dirty

theorem has_changes_reject_changes (c : ChangeTracker ν) : (c.reject_changes none).has_changes = false := by
  rw [← Bool.not_eq_true, has_changes_iff]
  rintro ⟨k, tracker, found, dirty⟩
  rw [get?_reject_changes, if_pos (Or.inl rfl)] at found
  obtain ⟨before, -, rfl⟩ := Option.map_eq_some_iff.mp found
  rw [EntityTracker.is_dirty_reject_changes] at dirty
  cases dirty

end ChangeTracker

end RevitPy
