import RevitPy.ChangeTracker
import RevitPy.Runs

/-!
# Runs of the change tracker

The trackers and the states of the entities stand in two dictionaries. Whatever is
called, both have the same keys, and the state that is looked up is the tracker's.
-/

namespace RevitPy
variable {ν : Type}

/-- A call that changes a change tracker. -/
inductive TrackerCall (ν : Type)
  | attach (entity : Entity ν) (entity_id : Option ElementId)
  | detach (entity_id : Option ElementId)
  | track_property_change (entity : Entity ν) (property_name : String) (old_value new_value : ν)
  | track_relationship_change (entity : Entity ν) (relationship_name : String) (change_type : ChangeType)
    (related_entity : Option Subject)
  | mark_as_added (entity : Entity ν)
  | mark_as_deleted (entity : Entity ν)
  | accept_changes (entity_id : Option ElementId)
  | reject_changes (entity_id : Option ElementId)
  | clear
  | set_auto_track (value : Bool)

namespace ChangeTracker

def call [DecidableEq ν] (c : ChangeTracker ν) : TrackerCall ν → ChangeTracker ν
  | .attach entity entity_id => c.attach entity entity_id
  | .detach entity_id => c.detach entity_id
  | .track_property_change entity property_name old_value new_value =>
    c.track_property_change entity property_name old_value new_value
  | .track_relationship_change entity relationship_name change_type related_entity =>
    c.track_relationship_change entity relationship_name change_type related_entity
  | .mark_as_added entity => c.mark_as_added entity
  | .mark_as_deleted entity => c.mark_as_deleted entity
  | .accept_changes entity_id => c.accept_changes entity_id
  | .reject_changes entity_id => c.reject_changes entity_id
  | .clear => c.clear
  | .set_auto_track value => { c with auto_track := value }

/-! ## What holds of every tracker -/

/-- A condition holds of each tracker under its id. -/
def Each (Good : Option ElementId → EntityTracker ν → Prop) (c : ChangeTracker ν) : Prop :=
  ∀ k tracker, c.tracked_entities.get? k = some tracker → Good k tracker

section
variable {Good : Option ElementId → EntityTracker ν → Prop} {c : ChangeTracker ν}

theorem Each.tracker_of (each : Each Good c) (fresh : ∀ entity k, Good k (EntityTracker.new entity k).snapshot_current_state)
    (entity : Entity ν) : Good entity.tracker_id (c.tracker_of entity) := by
  rw [ChangeTracker.tracker_of]
  cases found : c.tracked_entities.get? entity.tracker_id with
  | none => exact fresh entity _
  | some tracker => exact each _ tracker found

theorem Each.attach (each : Each Good c) (fresh : ∀ entity k, Good k (EntityTracker.new entity k).snapshot_current_state)
    (entity : Entity ν) (entity_id : Option ElementId) : Each Good (c.attach entity entity_id) := by
  intro k tracker found
  rw [get?_attach] at found
  generalize (if entity_id = none then entity.tracker_id else entity_id) = id at found
  split at found
  · obtain rfl := Option.some.inj found
    cases known : c.tracked_entities.get? k with
    | none => exact fresh entity k
    | some before => exact each k before known
  · exact each k tracker found

/-- After a change of one tracker the condition holds of each if it holds of that one. -/
theorem Each.modify_iff (each : Each Good c) (entity : Entity ν) (change : EntityTracker ν → EntityTracker ν) :
    Each Good (c.modify entity change) ↔ Good entity.tracker_id (change (c.tracker_of entity)) := by
  constructor
  · intro all
    exact all _ _ (by rw [get?_modify, if_pos rfl])
  · intro good k tracker found
    rw [get?_modify] at found
    split at found
    · next same =>
      obtain rfl := Option.some.inj found
      exact same ▸ good
    · exact each k tracker found

theorem Each.detach (each : Each Good c) (entity_id : Option ElementId) : Each Good (c.detach entity_id) :=
  fun k tracker found => each k tracker (Dict.get?_of_erase found)

theorem Each.settled (each : Each Good c) {change : EntityTracker ν → EntityTracker ν}
    (keeps : ∀ k tracker, Good k tracker → Good k (change tracker)) (entity_id : Option ElementId) :
    Each Good ((c.targets entity_id).foldl (settle change) c) := by
  intro k tracker found
  rw [get?_settled] at found
  split at found
  · obtain ⟨before, known, rfl⟩ := Option.map_eq_some_iff.mp found
    exact keeps k before (each k before known)
  · exact each k tracker found

theorem each_clear : Each Good c.clear := fun k tracker found => by
  rw [clear, Dict.get?_empty] at found
  cases found

/-- What holds of new trackers and is kept by every method of a tracker holds of each
    tracker after every call. -/
theorem Each.call [DecidableEq ν] (each : Each Good c) (fresh : ∀ entity k, Good k (EntityTracker.new entity k).snapshot_current_state)
    (property : ∀ k tracker name old_value new_value, Good k tracker → Good k (tracker.track_property_change name old_value new_value))
    (relationship : ∀ k tracker name change_type id type, Good k tracker →
      Good k (tracker.track_relationship_change name change_type id type))
    (marked : ∀ k tracker state, state = .ADDED ∨ state = .DELETED → Good k tracker → Good k { tracker with state := state })
    (accepted : ∀ k tracker, Good k tracker → Good k tracker.accept_changes)
    (rejected : ∀ k tracker, Good k tracker → Good k tracker.reject_changes.2) (i : TrackerCall ν) : Each Good (c.call i) := by
  have modified (entity : Entity ν) (change : EntityTracker ν → EntityTracker ν)
      (keeps : ∀ k tracker, Good k tracker → Good k (change tracker)) : Each Good (c.modify entity change) :=
    (each.modify_iff entity change).mpr (keeps _ _ (each.tracker_of fresh entity))
  cases i with
  | attach entity entity_id => exact each.attach fresh entity entity_id
  | detach entity_id => exact each.detach entity_id
  | track_property_change entity name old_value new_value =>
    simp only [ChangeTracker.call, ChangeTracker.track_property_change]
    split
    · exact modified entity _ fun k tracker => property k tracker name old_value new_value
    · exact each
  | track_relationship_change entity name change_type related_entity =>
    simp only [ChangeTracker.call, ChangeTracker.track_relationship_change]
    split
    · exact modified entity _ fun k tracker => relationship k tracker name change_type _ _
    · exact each
  | mark_as_added entity => exact modified entity _ fun k tracker => marked k tracker .ADDED (Or.inl rfl)
  | mark_as_deleted entity => exact modified entity _ fun k tracker => marked k tracker .DELETED (Or.inr rfl)
  | accept_changes entity_id => exact each.settled accepted entity_id
  | reject_changes entity_id => exact each.settled rejected entity_id
  | clear => exact each_clear
  | set_auto_track value => exact each

end

/-! ## The two dictionaries -/

/-- The states are those of the trackers, and no tracker is detached. -/
structure StatesAgree (c : ChangeTracker ν) : Prop where
  same : ∀ k, c.entity_states.get? k = (c.tracked_entities.get? k).map EntityTracker.state
  attached : Each (fun _ tracker => tracker.state ≠ .DETACHED) c

section
variable {c : ChangeTracker ν}

theorem statesAgree_empty (auto_track : Bool) : StatesAgree (ν := ν) { auto_track := auto_track } where
  same _ := rfl
  attached _ _ found := by cases found

theorem StatesAgree.attach (agree : StatesAgree c) (entity : Entity ν) (entity_id : Option ElementId) :
    StatesAgree (c.attach entity entity_id) where
  same k := by
    unfold ChangeTracker.attach
    simp only
    generalize (if entity_id = none then entity.tracker_id else entity_id) = id
    split
    · exact agree.same k
    · simp only [Dict.get?_set]
      split
      · rfl
      · exact agree.same k
  attached := agree.attached.attach (fun _ _ => by simp [EntityTracker.snapshot_current_state]) entity entity_id

/-- The state is written where the tracker is dirty. A change that leaves a tracker
    clean has left its state alone. -/
theorem StatesAgree.modify (agree : StatesAgree c) (entity : Entity ν) {change : EntityTracker ν → EntityTracker ν}
    (clean : ∀ tracker, (change tracker).state = .UNCHANGED → tracker.state = .UNCHANGED)
    (attached : ∀ tracker, tracker.state ≠ .DETACHED → (change tracker).state ≠ .DETACHED) : StatesAgree (c.modify entity change) where
  same k := by
    have before : StatesAgree (if c.tracked_entities.contains entity.tracker_id then c else c.attach entity entity.tracker_id) := by
      split
      · exact agree
      · exact agree.attach entity _
    unfold ChangeTracker.modify
    simp only
    generalize (if c.tracked_entities.contains entity.tracker_id then c else c.attach entity entity.tracker_id) = attached at before ⊢
    split
    · exact before.same k
    · next tracker found =>
      by_cases this : entity.tracker_id = k
      · subst this
        simp only [Dict.get?_set_self, Option.map_some]
        split
        · exact Dict.get?_set_self ..
        · next idle =>
          have settled : (change tracker).state = .UNCHANGED := by
            by_contra moved
            exact idle (by simp [EntityTracker.is_dirty, moved])
          rw [before.same, found, settled, Option.map_some, clean tracker settled]
      · rw [Dict.get?_set_ne _ _ this]
        split
        · rw [Dict.get?_set_ne _ _ this]
          exact before.same k
        · exact before.same k
  attached := (agree.attached.modify_iff entity change).mpr
    (attached _ (agree.attached.tracker_of (fun _ _ => by simp [EntityTracker.snapshot_current_state]) entity))

theorem StatesAgree.settle (agree : StatesAgree c) {change : EntityTracker ν → EntityTracker ν}
    (settles : ∀ tracker, (change tracker).state = .UNCHANGED) (entity_id : Option ElementId) :
    StatesAgree (settle change c entity_id) where
  same k := by
    unfold ChangeTracker.settle
    split
    · exact agree.same k
    · simp only [Dict.get?_set]
      split
      · simp [settles]
      · exact agree.same k
  attached k tracker found := by
    rw [get?_settle] at found
    split at found
    · obtain ⟨before, -, rfl⟩ := Option.map_eq_some_iff.mp found
      simp [settles]
    · exact agree.attached k tracker found

theorem StatesAgree.settled (agree : StatesAgree c) {change : EntityTracker ν → EntityTracker ν}
    (settles : ∀ tracker, (change tracker).state = .UNCHANGED) (ids : List (Option ElementId)) :
    StatesAgree (ids.foldl (ChangeTracker.settle change) c) := by
  induction ids generalizing c with
  | nil => exact agree
  | cons id rest ih => exact ih (agree.settle settles id)

theorem StatesAgree.detach (agree : StatesAgree c) (entity_id : Option ElementId) : StatesAgree (c.detach entity_id) where
  same k := by
    simp only [ChangeTracker.detach, Dict.get?_erase]
    split
    · rfl
    · exact agree.same k
  attached := agree.attached.detach entity_id

theorem StatesAgree.call [DecidableEq ν] (agree : StatesAgree c) (i : TrackerCall ν) : StatesAgree (c.call i) := by
  cases i with
  | attach entity entity_id => exact agree.attach entity entity_id
  | detach entity_id => exact agree.detach entity_id
  | track_property_change entity name old_value new_value =>
    simp only [ChangeTracker.call, ChangeTracker.track_property_change]
    split
    · refine agree.modify entity (fun tracker clean => ?_) (fun tracker attached => ?_)
      · rw [EntityTracker.state_track_property_change] at clean
        split at clean
        · cases clean
        · exact clean
      · rw [EntityTracker.state_track_property_change]
        split
        · simp
        · exact attached
    · exact agree
  | track_relationship_change entity name change_type related_entity =>
    simp only [ChangeTracker.call, ChangeTracker.track_relationship_change]
    split
    · refine agree.modify entity (fun tracker clean => ?_) (fun tracker attached => ?_)
      · simp only [EntityTracker.track_relationship_change] at clean
        split at clean
        · cases clean
        · exact clean
      · simp only [EntityTracker.track_relationship_change]
        split
        · simp
        · exact attached
    · exact agree
  | mark_as_added entity => exact agree.modify entity (fun _ clean => by cases clean) (fun _ _ => by simp)
  | mark_as_deleted entity => exact agree.modify entity (fun _ clean => by cases clean) (fun _ _ => by simp)
  | accept_changes entity_id => exact agree.settled (fun _ => rfl) _
  | reject_changes entity_id => exact agree.settled (fun _ => rfl) _
  | clear => exact statesAgree_empty c.auto_track
  | set_auto_track value => exact ⟨agree.same, agree.attached⟩

theorem StatesAgree.keys (agree : StatesAgree c) (k : Option ElementId) : k ∈ c.entity_states.keys ↔ k ∈ c.tracked_entities.keys := by
  simp [Dict.mem_keys_iff, agree.same]

theorem StatesAgree.state (agree : StatesAgree c) {k : Option ElementId} {tracker : EntityTracker ν}
    (tracked : c.tracked_entities.get? k = some tracker) : c.get_entity_state k = tracker.state := by
  simp [get_entity_state, Dict.getD, agree.same, tracked]

theorem StatesAgree.detached_iff (agree : StatesAgree c) (k : Option ElementId) :
    c.get_entity_state k = .DETACHED ↔ k ∉ c.tracked_entities.keys := by
  rw [← Dict.get?_none_iff]
  cases tracked : c.tracked_entities.get? k with
  | none => simp [get_entity_state, Dict.getD, agree.same, tracked]
  | some tracker => simpa [agree.state tracked] using agree.attached k tracker tracked

end

/-- Every tracker is found with the state that is looked up for it, in every state
    that calls lead to. -/
theorem states_agree [DecidableEq ν] (calls : List (TrackerCall ν)) :
    Runs.Throughout call (fun c => (∀ k, k ∈ c.entity_states.keys ↔ k ∈ c.tracked_entities.keys) ∧
      (∀ k tracker, c.tracked_entities.get? k = some tracker → c.get_entity_state k = tracker.state) ∧
      ∀ k, c.get_entity_state k = .DETACHED ↔ k ∉ c.tracked_entities.keys) ({} : ChangeTracker ν) calls :=
  Runs.throughout_mono (fun _ agree => ⟨agree.keys, fun _ _ => agree.state, agree.detached_iff⟩)
    (Runs.throughout_keeps (P := fun _ _ => True) (fun _ i agree _ => agree.call i) (statesAgree_empty true)
      (Runs.along_of_mem fun _ _ _ => trivial))

end ChangeTracker
end RevitPy
