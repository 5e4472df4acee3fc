import RevitPy.TrackerRuns

/-!
# The two views of a change

A tracker lists the properties whose last call named two different values. A change
set lists those whose current value is not the original one. The two lists agree
as long as the calls name old values that fit the original ones.
-/

namespace RevitPy
variable {ν : Type}

/-- Get set of changed property names. `null` is the value `None`, which stands for
    an original value that is missing. -/
def ChangeSet.changed_properties [DecidableEq ν] (null : ν) (changes : ChangeSet ν) : List String :=
  if changes.state = .ADDED then changes.current_values.keys
  else (changes.current_values.entries.filter fun item => changes.original_values.getD item.1 null ≠ item.2).map Prod.fst

/-- Get change set for a specific entity. -/
def ChangeTracker.get_changes (c : ChangeTracker ν) (entity_id : Option ElementId) : Option (ChangeSet ν) :=
  (c.tracked_entities.get? entity_id).map EntityTracker.get_change_set

namespace ChangeViews

/-- Both views of every modified entity name the same properties. -/
def Agree [DecidableEq ν] (null : ν) (c : ChangeTracker ν) : Prop :=
  ∀ k tracker, c.tracked_entities.get? k = some tracker → tracker.state = .MODIFIED →
    ∃ changes, c.get_changes k = some changes ∧ ∀ name, name ∈ changes.changed_properties null ↔ name ∈ tracker.changed_properties

/-- A property has a current value that is not the original one. -/
def Differs (null : ν) (tracker : EntityTracker ν) (name : String) : Prop :=
  ∃ value, tracker.current_values.get? name = some value ∧ tracker.original_values.getD name null ≠ value

/-- The values that are named for a property fit its original value: on a modified
    entity they are equal exactly where the new value is the original one, and where
    different values make an entity modified, the new value is not the original one
    and no other property differs. -/
def Fits (null : ν) (tracker : EntityTracker ν) (name : String) (old_value new_value : ν) : Prop := match tracker.state with
  | .MODIFIED => old_value = new_value ↔ tracker.original_values.getD name null = new_value
  | .UNCHANGED => old_value ≠ new_value →
      tracker.original_values.getD name null ≠ new_value ∧ ∀ other, other ≠ name → ¬Differs null tracker other
  | .ADDED | .DELETED | .DETACHED => True

/-- The condition on a call. A call that is not tracked meets it. -/
def Faithful (null : ν) (c : ChangeTracker ν) : TrackerCall ν → Prop
  | .track_property_change entity name old_value new_value =>
    c.auto_track = true → Fits null (c.tracker_of entity) name old_value new_value
  | .track_relationship_change entity _ _ _ =>
    c.auto_track = true → (c.tracker_of entity).state = .UNCHANGED → ∀ name, ¬Differs null (c.tracker_of entity) name
  | .attach .. | .detach _ | .mark_as_added _ | .mark_as_deleted _ | .accept_changes _ | .reject_changes _ | .clear
  | .set_auto_track _ => True

/-! ## One tracker -/

/-- The views of a tracker agree where it is modified. -/
def Seen (null : ν) (tracker : EntityTracker ν) : Prop :=
  tracker.state = .MODIFIED → ∀ name, Differs null tracker name ↔ (tracker.property_changes.get? name).isSome

/-- A tracker that is unchanged has recorded nothing. -/
def Idle (tracker : EntityTracker ν) : Prop := tracker.state = .UNCHANGED → ∀ name, tracker.property_changes.get? name = none

variable {null : ν} {tracker : EntityTracker ν}

theorem mem_view [DecidableEq ν] (modified : tracker.state = .MODIFIED) (name : String) :
    name ∈ tracker.get_change_set.changed_properties null ↔ Differs null tracker name := by
  simp [ChangeSet.changed_properties, EntityTracker.get_change_set, modified, Differs, Dict.get?_some_iff]

theorem mem_record (name : String) : name ∈ tracker.changed_properties ↔ (tracker.property_changes.get? name).isSome := by
  rw [EntityTracker.changed_properties, Dict.mem_keys_iff, Option.isSome_iff_exists]

theorem differs_track [DecidableEq ν] (name other : String) (old_value new_value : ν) :
    Differs null (tracker.track_property_change name old_value new_value) other ↔
      if name = other then tracker.original_values.getD name null ≠ new_value else Differs null tracker other := by
  unfold Differs
  rw [EntityTracker.current_values_track_property_change, EntityTracker.original_values_track_property_change, Dict.get?_set]
  split
  · next same => simp [same]
  · rfl

theorem recorded_track [DecidableEq ν] (name other : String) (old_value new_value : ν) :
    ((tracker.track_property_change name old_value new_value).property_changes.get? other).isSome ↔
      if name = other then old_value ≠ new_value else (tracker.property_changes.get? other).isSome := by
  rw [EntityTracker.get?_track_property_change]
  by_cases same : name = other
  · by_cases equal : old_value = new_value <;> simp [same, equal]
  · simp [same]

theorem idle_fresh (entity : Entity ν) (k : Option ElementId) : Idle (EntityTracker.new entity k).snapshot_current_state :=
  fun _ _ => rfl

theorem Idle.track [DecidableEq ν] (idle : Idle tracker) (name : String) (old_value new_value : ν) :
    Idle (tracker.track_property_change name old_value new_value) := by
  intro unchanged other
  rw [EntityTracker.state_track_property_change] at unchanged
  split at unchanged
  · cases unchanged
  · next kept =>
    have equal : old_value = new_value := by
      by_contra differ
      exact kept ⟨differ, unchanged⟩
    rw [EntityTracker.get?_track_property_change]
    simp [equal, idle unchanged]

theorem Idle.relate (idle : Idle tracker) (name : String) (change_type : ChangeType) (id : Option ElementId) (type : Option String) :
    Idle (tracker.track_relationship_change name change_type id type) := by
  intro unchanged
  simp only [EntityTracker.track_relationship_change] at unchanged
  split at unchanged
  · cases unchanged
  · exact idle unchanged

/-- A call for a property leaves views that agree exactly where its values fit. -/
theorem seen_track_iff [DecidableEq ν] (idle : Idle tracker) (seen : Seen null tracker) (name : String) (old_value new_value : ν) :
    Seen null (tracker.track_property_change name old_value new_value) ↔ Fits null tracker name old_value new_value := by
  unfold Seen
  simp only [EntityTracker.state_track_property_change, differs_track, recorded_track]
  cases state : tracker.state with
  | MODIFIED =>
    simp only [Fits, state, ne_eq, reduceCtorEq, and_false, if_false, forall_const]
    constructor
    · intro agree
      have this := agree name
      simp only [if_true] at this
      exact (not_iff_not.mp this).symm
    · intro fits other
      split
      · exact not_congr fits.symm
      · exact seen state other
  | UNCHANGED =>
    simp only [Fits, state, and_true]
    by_cases equal : old_value = new_value
    · simp [equal]
    · simp only [ne_eq, equal, not_false_eq_true, if_true, forall_const]
      constructor
      · intro agree
        have this := agree name
        simp only [if_true, iff_true] at this
        refine ⟨this, fun other apart => ?_⟩
        have that := agree other
        simp only [Ne.symm apart, if_false, idle state other, Option.isSome_none, Bool.false_eq_true, iff_false] at that
        exact that
      · rintro ⟨fits, others⟩ other
        split
        · exact iff_of_true fits trivial
        · next apart =>
          rw [idle state other]
          exact iff_of_false (others other (Ne.symm apart)) fun listed => by cases listed
  | ADDED => simp [Fits, state]
  | DELETED => simp [Fits, state]
  | DETACHED => simp [Fits, state]

/-- A relationship call that makes a tracker modified leaves views that agree exactly
    where no property differs. -/
theorem seen_relate_iff (idle : Idle tracker) (seen : Seen null tracker) (name : String) (change_type : ChangeType)
    (id : Option ElementId) (type : Option String) :
    Seen null (tracker.track_relationship_change name change_type id type) ↔
      (tracker.state = .UNCHANGED → ∀ name, ¬Differs null tracker name) := by
  have views (other : String) : Differs null (tracker.track_relationship_change name change_type id type) other ↔
      Differs null tracker other :=
    Iff.rfl
  have records (other : String) : (tracker.track_relationship_change name change_type id type).property_changes.get? other =
      tracker.property_changes.get? other := rfl
  unfold Seen
  simp only [views, records]
  simp only [EntityTracker.track_relationship_change]
  by_cases unchanged : tracker.state = .UNCHANGED
  · simp [unchanged, idle unchanged]
  · simp only [unchanged, if_false, false_implies, iff_true]
    exact seen

/-! ## All trackers -/

variable [DecidableEq ν]

theorem agree_iff (c : ChangeTracker ν) : Agree null c ↔ ChangeTracker.Each (fun _ tracker => Seen null tracker) c := by
  unfold Agree ChangeTracker.Each Seen
  refine forall_congr' fun k => forall_congr' fun tracker => imp_congr_right fun found => forall_congr' fun modified => ?_
  simp only [ChangeTracker.get_changes, found, Option.map_some, Option.some.injEq, exists_eq_left', mem_view modified, mem_record]

/-- In a state in which the views agree, a call leaves views that agree exactly where
    it is faithful. -/
theorem agree_call_iff {c : ChangeTracker ν} (idle : ChangeTracker.Each (fun _ tracker => Idle tracker) c) (agree : Agree null c)
    (i : TrackerCall ν) : Agree null (c.call i) ↔ Faithful null c i := by
  have seen := (agree_iff c).mp agree
  have fresh (entity : Entity ν) (k : Option ElementId) : Seen null (EntityTracker.new entity k).snapshot_current_state := nofun
  have quiet (entity : Entity ν) : Idle (c.tracker_of entity) := idle.tracker_of idle_fresh entity
  have shown (entity : Entity ν) : Seen null (c.tracker_of entity) := seen.tracker_of fresh entity
  rw [agree_iff]
  cases i with
  | attach entity entity_id => exact iff_of_true (seen.attach fresh entity entity_id) trivial
  | detach entity_id => exact iff_of_true (seen.detach entity_id) trivial
  | track_property_change entity name old_value new_value =>
    simp only [ChangeTracker.call, ChangeTracker.track_property_change, Faithful]
    split
    · next tracking =>
      rw [seen.modify_iff, seen_track_iff (quiet entity) (shown entity)]
      exact ⟨fun faithful _ => faithful, fun faithful => faithful tracking⟩
    · next off => exact iff_of_true seen fun tracking => absurd tracking off
  | track_relationship_change entity name change_type related_entity =>
    simp only [ChangeTracker.call, ChangeTracker.track_relationship_change, Faithful]
    split
    · next tracking =>
      rw [seen.modify_iff, seen_relate_iff (quiet entity) (shown entity)]
      exact ⟨fun faithful _ => faithful, fun faithful => faithful tracking⟩
    · next off => exact iff_of_true seen fun tracking => absurd tracking off
  | mark_as_added entity => exact iff_of_true ((seen.modify_iff entity _).mpr fun modified => by cases modified) trivial
  | mark_as_deleted entity => exact iff_of_true ((seen.modify_iff entity _).mpr fun modified => by cases modified) trivial
  | accept_changes entity_id => exact iff_of_true (seen.settled (fun _ _ _ modified => by cases modified) entity_id) trivial
  | reject_changes entity_id => exact iff_of_true (seen.settled (fun _ _ _ modified => by cases modified) entity_id) trivial
  | clear => exact iff_of_true ChangeTracker.each_clear trivial
  | set_auto_track value => exact iff_of_true seen trivial

theorem idle_call {c : ChangeTracker ν} (idle : ChangeTracker.Each (fun _ tracker => Idle tracker) c) (i : TrackerCall ν) :
    ChangeTracker.Each (fun _ tracker => Idle tracker) (c.call i) := by
  refine idle.call idle_fresh (fun _ _ name old_value new_value idle => idle.track name old_value new_value)
    (fun _ _ name change_type id type idle => idle.relate name change_type id type) ?_ (fun _ _ _ _ _ => rfl) (fun _ _ _ _ _ => rfl) i
  rintro k tracker state (rfl | rfl) - unchanged
  · cases unchanged
  · cases unchanged

/-- The views agree in every state of a run exactly where every call is faithful. -/
theorem views_agree_iff (null : ν) (calls : List (TrackerCall ν)) :
    Runs.Throughout ChangeTracker.call (Agree null) ({} : ChangeTracker ν) calls ↔
      Runs.Along ChangeTracker.call (Faithful null) ({} : ChangeTracker ν) calls := by
  have start : ChangeTracker.Each (fun _ tracker => Idle tracker) ({} : ChangeTracker ν) ∧ Agree null ({} : ChangeTracker ν) :=
    ⟨fun _ _ found => by (cases found), fun _ _ found => by (cases found)⟩
  have keeps (c : ChangeTracker ν) (i : TrackerCall ν)
      (inv : ChangeTracker.Each (fun _ tracker => Idle tracker) c ∧ Agree null c) (faithful : Faithful null c i) :
      ChangeTracker.Each (fun _ tracker => Idle tracker) (c.call i) ∧ Agree null (c.call i) :=
    ⟨idle_call inv.1 i, (agree_call_iff inv.1 inv.2 i).mpr faithful⟩
  constructor
  · exact Runs.along_of_throughout keeps (fun c i inv agree => (agree_call_iff inv.1 inv.2 i).mp agree) start
  · intro along
    exact Runs.throughout_mono (fun _ inv => inv.2) (Runs.throughout_keeps keeps start along)

/-- A value is changed and changed back: the record keeps the last call, and the
    change set finds the original value. -/
theorem changed_back : ¬Agree 0 ([.attach { address := 1, type := ⟨0, "Wall"⟩, attributes := Dict.ofList [("Height", 1)] } none,
    .track_property_change { address := 1, type := ⟨0, "Wall"⟩, attributes := Dict.ofList [("Height", 2)] } "Height" 1 2,
    .track_property_change { address := 1, type := ⟨0, "Wall"⟩, attributes := Dict.ofList [("Height", 1)] } "Height" 2 1].foldl
      ChangeTracker.call ({} : ChangeTracker Nat)) := by
  intro agree
  obtain ⟨changes, found, same⟩ := agree (some (.int 1)) _ rfl rfl
  obtain rfl := Option.some.inj found
  have listed := (same "Height").mpr (by decide)
  revert listed
  decide

end ChangeViews
end RevitPy
