import RevitPy.ChangeTracker

/-!
# Net changes

Each call of `track_property_change` overwrites the record of the call before, so
what a tracker reports after several edits of a property is the last edit, not
the difference from the original value.
-/

namespace RevitPy
variable {ν : Type} [DecidableEq ν]

/-- What happens to a tracked entity between two reports. An edit gives a property
    a new value and is tracked with the value it had. -/
inductive EditEvent (ν : Type)
  | edit (property_name : String) (new_value : ν)
  | relate (relationship_name : String) (change_type : ChangeType) (related_entity : Option Subject)
  | mark_as_added
  | mark_as_deleted
  | accept_changes

/-- A tracker, the values of the properties now and at the last attach or accept,
    and what was called since: the last edit of each property as a pair of values,
    whether an edit changed a value, whether a relationship was changed, and whether
    the entity was marked. -/
structure EditHistory (ν : Type) where
  tracker : EntityTracker ν
  values : String → ν
  original : String → ν
  last_edit : String → Option (ν × ν) := fun _ => none
  edited : Bool := false
  related : Bool := false
  marked : Bool := false

namespace EditHistory

/-- An entity that has just been attached. -/
def attached (entity : Entity ν) (entity_id : Option ElementId) (values : String → ν) : EditHistory ν where
  tracker := (EntityTracker.new entity entity_id).snapshot_current_state
  values := values
  original := values

def step (s : EditHistory ν) : EditEvent ν → EditHistory ν
  | .edit property_name new_value =>
    { s with
      tracker := s.tracker.track_property_change property_name (s.values property_name) new_value
      values := Function.update s.values property_name new_value
      last_edit := Function.update s.last_edit property_name (some (s.values property_name, new_value))
      edited := s.edited || decide (s.values property_name ≠ new_value) }
  | .relate relationship_name change_type related_entity =>
    { s with
      tracker := s.tracker.track_relationship_change relationship_name change_type
        (related_entity.bind Subject.tracker_id) (related_entity.map fun related => related.type.name)
      related := true }
  | .mark_as_added =>
    { s with
      tracker := { s.tracker with state := .ADDED }
      marked := true }
  | .mark_as_deleted =>
    { s with
      tracker := { s.tracker with state := .DELETED }
      marked := true }
  | .accept_changes => { tracker := s.tracker.accept_changes, values := s.values, original := s.values }

def run (s : EditHistory ν) (events : List (EditEvent ν)) : EditHistory ν := events.foldl step s

/-- The tracker reports the difference from the original values, and is dirty for a
    reason. -/
structure ReportsNetChanges (s : EditHistory ν) : Prop where
  listed : ∀ p, p ∈ s.tracker.changed_properties ↔ s.values p ≠ s.original p
  recorded : ∀ p change, s.tracker.property_changes.get? p = some change →
    change.old_value = s.original p ∧ change.new_value = s.values p
  dirty : s.tracker.is_dirty = true → (∃ p, s.values p ≠ s.original p) ∨ s.related = true ∨ s.marked = true

/-! ## What a tracker reports -/

/-- The tracker reports the last edit of each property, and is dirty once anything
    has happened. -/
structure ReportsLastEdits (s : EditHistory ν) : Prop where
  unedited : ∀ p, s.last_edit p = none → s.values p = s.original p ∧ s.tracker.property_changes.get? p = none
  last : ∀ p old new, s.last_edit p = some (old, new) → s.values p = new ∧
    (s.tracker.property_changes.get? p).map (fun change => (change.old_value, change.new_value)) =
      if old = new then none else some (old, new)
  state : s.tracker.state ≠ .UNCHANGED ↔ s.edited = true ∨ s.related = true ∨ s.marked = true
  changed : ∀ p old new, s.last_edit p = some (old, new) → old ≠ new → s.edited = true
  relationships : s.tracker.relationship_changes ≠ [] ↔ s.related = true

variable {s : EditHistory ν}

theorem reports_attached (entity : Entity ν) (entity_id : Option ElementId) (values : String → ν) :
    ReportsLastEdits (attached entity entity_id values) where
  unedited _ _ := ⟨rfl, rfl⟩
  last _ _ _ found := by cases found
  state := by simp [attached, EntityTracker.snapshot_current_state]
  changed _ _ _ found := by cases found
  relationships := by simp [attached, EntityTracker.snapshot_current_state, EntityTracker.new]

theorem ReportsLastEdits.edit (reports : ReportsLastEdits s) (name : String) (new_value : ν) :
    ReportsLastEdits (s.step (.edit name new_value)) where
  unedited p unedited := by
    have other : p ≠ name := by
      rintro rfl
      simp [EditHistory.step] at unedited
    simp only [EditHistory.step, Function.update_of_ne other] at unedited ⊢
    rw [EntityTracker.get?_track_property_change, if_neg (Ne.symm other)]
    exact reports.unedited p unedited
  last p old new last := by
    by_cases this : p = name
    · subst this
      simp only [EditHistory.step, Function.update_self, Option.some.injEq, Prod.mk.injEq] at last
      obtain ⟨rfl, rfl⟩ := last
      refine ⟨Function.update_self .., ?_⟩
      simp only [EditHistory.step, EntityTracker.get?_track_property_change, if_true]
      split <;> rfl
    · simp only [EditHistory.step, Function.update_of_ne this] at last ⊢
      rw [EntityTracker.get?_track_property_change, if_neg (Ne.symm this)]
      exact reports.last p old new last
  state := by
    simp only [EditHistory.step, EntityTracker.state_track_property_change]
    by_cases same : s.values name = new_value
    · simpa [same] using reports.state
    · by_cases clean : s.tracker.state = .UNCHANGED <;> simp [same, clean]
  changed p old new last differ := by
    by_cases this : p = name
    · subst this
      simp only [EditHistory.step, Function.update_self, Option.some.injEq, Prod.mk.injEq] at last
      obtain ⟨rfl, rfl⟩ := last
      simp [EditHistory.step, differ]
    · simp only [EditHistory.step, Function.update_of_ne this] at last ⊢
      simp [reports.changed p old new last differ]
  relationships := by
    simp only [EditHistory.step, EntityTracker.relationship_changes_track_property_change]
    exact reports.relationships

theorem ReportsLastEdits.step (reports : ReportsLastEdits s) (event : EditEvent ν) : ReportsLastEdits (s.step event) := by
  cases event with
  | edit name new_value => exact reports.edit name new_value
  | relate name change_type related_entity =>
    have dirty : (if s.tracker.state = .UNCHANGED then ElementState.MODIFIED else s.tracker.state) ≠ .UNCHANGED := by
      split
      · simp
      · assumption
    refine ⟨reports.unedited, reports.last, ?_, reports.changed, ?_⟩
    · simp [EditHistory.step, EntityTracker.track_relationship_change, dirty]
    · simp [EditHistory.step, EntityTracker.track_relationship_change]
  | mark_as_added => exact ⟨reports.unedited, reports.last, by simp [EditHistory.step], reports.changed, reports.relationships⟩
  | mark_as_deleted => exact ⟨reports.unedited, reports.last, by simp [EditHistory.step], reports.changed, reports.relationships⟩
  | accept_changes =>
    refine ⟨fun _ _ => ⟨rfl, rfl⟩, fun _ _ _ last => ?_, ?_, fun _ _ _ last => ?_, ?_⟩
    · cases last
    · simp [EditHistory.step, EntityTracker.accept_changes]
    · cases last
    · simp [EditHistory.step, EntityTracker.accept_changes]

theorem ReportsLastEdits.run (reports : ReportsLastEdits s) (events : List (EditEvent ν)) : ReportsLastEdits (s.run events) :=
  List.foldlRecOn (motive := ReportsLastEdits) events _ reports fun _ kept event _ => kept.step event

theorem ReportsLastEdits.edited_of_recorded (reports : ReportsLastEdits s) {p : String} {change : PropertyChange ν}
    (found : s.tracker.property_changes.get? p = some change) : s.edited = true := by
  cases last : s.last_edit p with
  | none =>
    rw [(reports.unedited p last).2] at found
    cases found
  | some edit =>
    have recorded := (reports.last p edit.1 edit.2 last).2
    rw [found] at recorded
    split at recorded
    · cases recorded
    · next differ => exact reports.changed p edit.1 edit.2 last differ

/-- A tracker is dirty once an edit has changed a value, a relationship was changed,
    or the entity was marked. -/
theorem ReportsLastEdits.is_dirty_iff (reports : ReportsLastEdits s) :
    s.tracker.is_dirty = true ↔ s.edited = true ∨ s.related = true ∨ s.marked = true := by
  rw [← reports.state]
  constructor
  · intro dirty
    rw [reports.state]
    simp only [EntityTracker.is_dirty, Bool.or_eq_true, decide_eq_true_eq, Bool.not_eq_true', List.isEmpty_eq_false_iff] at dirty
    rcases dirty with (state | changes) | relationships
    · exact reports.state.mp state
    · obtain ⟨item, member⟩ := List.exists_mem_of_ne_nil _ changes
      have found := (Dict.get?_some_iff _ item.1 item.2).mpr member
      exact Or.inl (reports.edited_of_recorded found)
    · exact Or.inr (Or.inl (reports.relationships.mp relationships))
  · intro state
    simp [EntityTracker.is_dirty, state]

/-- The edits that a report of the last ones tells the net change of: the last edit
    of each property starts from the original value, and if an edit changed a value
    then there is a difference, or another reason to be dirty. -/
def Direct (s : EditHistory ν) : Prop :=
  (∀ p old new, s.last_edit p = some (old, new) → old = s.original p) ∧
    (s.edited = true → (∃ p, s.values p ≠ s.original p) ∨ s.related = true ∨ s.marked = true)

theorem ReportsLastEdits.reports_net_iff (reports : ReportsLastEdits s) : ReportsNetChanges s ↔ Direct s := by
  constructor
  · intro net
    refine ⟨fun p old new last => ?_, fun edited => net.dirty (reports.is_dirty_iff.mpr (Or.inl edited))⟩
    obtain ⟨value, recorded⟩ := reports.last p old new last
    by_cases same : old = new
    · -- The last edit left no record, so the claim says that nothing differs.
      rw [if_pos same, Option.map_eq_none_iff] at recorded
      have unlisted : p ∉ s.tracker.changed_properties := (Dict.get?_none_iff _ _).mp recorded
      rw [net.listed, not_not] at unlisted
      rw [same, ← value, unlisted]
    · rw [if_neg same] at recorded
      obtain ⟨change, found, pair⟩ := Option.map_eq_some_iff.mp recorded
      rw [← (net.recorded p change found).1]
      exact (congrArg Prod.fst pair).symm
  · rintro ⟨direct, reason⟩
    have record (p : String) : (s.tracker.property_changes.get? p).map (fun change => (change.old_value, change.new_value)) =
        if s.original p = s.values p then none else some (s.original p, s.values p) := by
      cases last : s.last_edit p with
      | none =>
        obtain ⟨value, absent⟩ := reports.unedited p last
        simp [value, absent]
      | some edit =>
        obtain ⟨value, recorded⟩ := reports.last p edit.1 edit.2 last
        rw [recorded, direct p edit.1 edit.2 last, value]
    refine ⟨fun p => ?_, fun p change found => ?_, fun dirty => ?_⟩
    · have known : p ∈ s.tracker.changed_properties ↔ s.tracker.property_changes.get? p ≠ none := by
        rw [ne_eq, Dict.get?_none_iff, not_not]
        rfl
      have kept := record p
      rw [known]
      split at kept
      · next same => simp [Option.map_eq_none_iff.mp kept, same]
      · next other =>
        obtain ⟨change, found, -⟩ := Option.map_eq_some_iff.mp kept
        simp [found, Ne.symm other]
    · have kept := record p
      rw [found, Option.map_some] at kept
      split at kept
      · cases kept
      · exact Prod.mk.inj (Option.some.inj kept)
    · rcases reports.is_dirty_iff.mp dirty with edited | other
      · exact reason edited
      · exact Or.inr other

/-- After any events since an entity was attached, the tracker reports net changes
    exactly if the edits are direct. -/
theorem net_changes_iff (entity : Entity ν) (entity_id : Option ElementId) (values : String → ν) (events : List (EditEvent ν)) :
    ReportsNetChanges ((attached entity entity_id values).run events) ↔ Direct ((attached entity entity_id values).run events) :=
  ((reports_attached entity entity_id values).run events).reports_net_iff

/-! ## An edit in two steps -/

def painted : Entity Nat := { address := 3, type := ⟨0, "Wall"⟩, id := some (some (.int 3)) }

/-- After the edits 1, 2, 3 the record says that the value was 2. -/
theorem last_edit_reported :
    ¬∀ (entity : Entity Nat) (entity_id : Option ElementId) (values : String → Nat) (events : List (EditEvent Nat)),
      ReportsNetChanges ((attached entity entity_id values).run events) := by
  intro net
  have reports := net painted painted.tracker_id (fun _ => 1) [.edit "Color" 2, .edit "Color" 3]
  have recorded := reports.recorded "Color" ⟨painted.tracker_id, "Wall", "Color", 2, 3⟩ rfl
  exact absurd recorded.1 (by decide)

end EditHistory

/-! ## Calls of the change tracker -/

namespace ChangeTracker

/-- An event as a call, where the properties have certain values. -/
def edit (c : ChangeTracker ν) (entity : Entity ν) (values : String → ν) : EditEvent ν → ChangeTracker ν
  | .edit property_name new_value => c.track_property_change entity property_name (values property_name) new_value
  | .relate relationship_name change_type related_entity =>
    c.track_relationship_change entity relationship_name change_type related_entity
  | .mark_as_added => c.mark_as_added entity
  | .mark_as_deleted => c.mark_as_deleted entity
  | .accept_changes => c.accept_changes none

/-- A call for a tracked entity does to its tracker what the event does. -/
theorem get?_edit {c : ChangeTracker ν} {entity : Entity ν} {s : EditHistory ν} (auto_track : c.auto_track = true)
    (tracked : c.tracked_entities.get? entity.tracker_id = some s.tracker) (event : EditEvent ν) :
    (c.edit entity s.values event).auto_track = true ∧
      (c.edit entity s.values event).tracked_entities.get? entity.tracker_id = some (s.step event).tracker := by
  have modified (change : EntityTracker ν → EntityTracker ν) : (c.modify entity change).auto_track = true ∧
      (c.modify entity change).tracked_entities.get? entity.tracker_id = some (change s.tracker) := by
    rw [auto_track_modify, get?_modify, if_pos rfl, tracker_of, tracked]
    exact ⟨auto_track, rfl⟩
  cases event with
  | edit property_name new_value =>
    simp only [edit, track_property_change, auto_track, if_true]
    exact modified _
  | relate relationship_name change_type related_entity =>
    simp only [edit, track_relationship_change, auto_track, if_true]
    exact modified _
  | mark_as_added => exact modified _
  | mark_as_deleted => exact modified _
  | accept_changes =>
    refine ⟨(auto_track_settled _ _ _).trans auto_track, ?_⟩
    rw [edit, get?_accept_changes, if_pos (Or.inl rfl), tracked]
    rfl

/-- The tracker that calls leave for an entity is the one of its history since it
    was attached. -/
theorem get?_edits {c : ChangeTracker ν} (entity : Entity ν) (values : String → ν) (auto_track : c.auto_track = true)
    (untracked : c.tracked_entities.get? entity.tracker_id = none) (events : List (EditEvent ν)) :
    let edited := events.foldl (fun state event => (state.1.edit entity state.2.values event, state.2.step event))
      (c.attach entity none, EditHistory.attached entity entity.tracker_id values)
    edited.1.tracked_entities.get? entity.tracker_id = some edited.2.tracker ∧
      edited.2 = (EditHistory.attached entity entity.tracker_id values).run events := by
  have runs (state : ChangeTracker ν × EditHistory ν) (auto_track : state.1.auto_track = true)
      (tracked : state.1.tracked_entities.get? entity.tracker_id = some state.2.tracker) :
      let edited := events.foldl (fun state event => (state.1.edit entity state.2.values event, state.2.step event)) state
      edited.1.tracked_entities.get? entity.tracker_id = some edited.2.tracker ∧ edited.2 = state.2.run events := by
    induction events generalizing state with
    | nil => exact ⟨tracked, rfl⟩
    | cons event rest ih =>
      obtain ⟨kept, tracked'⟩ := get?_edit auto_track tracked event
      exact ih _ kept tracked'
  refine runs _ ((auto_track_attach _ _ _).trans auto_track) ?_
  rw [get?_attach, if_pos rfl, if_pos rfl, untracked]
  rfl

end ChangeTracker

end RevitPy
