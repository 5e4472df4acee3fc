import RevitPy.ChangeTracker

/-!
# Asynchronous saves

A save takes a snapshot of the changes, processes it in batches, and accepts
after the last batch whatever the tracker holds then.
-/

namespace RevitPy
variable {ν : Type} [DecidableEq ν]

inductive BatchOperationType
  | INSERT
  | UPDATE
  | DELETE
  | BULK_UPDATE
  deriving DecidableEq

def BatchOperationType.value : BatchOperationType → String
  | .INSERT => "insert"
  | .UPDATE => "update"
  | .DELETE => "delete"
  | .BULK_UPDATE => "bulk_update"

structure BatchOperation (ν : Type) where
  operation_type : BatchOperationType
  entity : ChangeSet ν
  properties : Dict String ν := ∅

/-- A call of the change tracker that may come between the batches of a save. -/
inductive TrackingCall (ν : Type)
  | track_property_change (entity : Entity ν) (property_name : String) (old_value new_value : ν)
  | track_relationship_change (entity : Entity ν) (relationship_name : String) (change_type : ChangeType)
      (related_entity : Option Subject)
  | mark_as_added (entity : Entity ν)
  | mark_as_deleted (entity : Entity ν)
  | attach (entity : Entity ν) (entity_id : Option ElementId)
  | detach (entity_id : Option ElementId)

namespace TrackingCall

def apply (c : ChangeTracker ν) : TrackingCall ν → ChangeTracker ν
  | .track_property_change entity property_name old_value new_value =>
    c.track_property_change entity property_name old_value new_value
  | .track_relationship_change entity relationship_name change_type related_entity =>
    c.track_relationship_change entity relationship_name change_type related_entity
  | .mark_as_added entity => c.mark_as_added entity
  | .mark_as_deleted entity => c.mark_as_deleted entity
  | .attach entity entity_id => c.attach entity entity_id
  | .detach entity_id => c.detach entity_id

/-- The call tracks a change. -/
def Tracks (auto_track : Bool) : TrackingCall ν → Prop
  | .track_property_change _ _ old_value new_value => auto_track = true ∧ old_value ≠ new_value
  | .track_relationship_change .. => auto_track = true
  | .mark_as_added _ | .mark_as_deleted _ => True
  | .attach .. | .detach _ => False

/-- The change of a call is pending: its entity is dirty, and its property is in the
    change set. -/
def Pending (c : ChangeTracker ν) : TrackingCall ν → Prop
  | .track_property_change entity property_name _ _ => ∃ tracker, c.tracked_entities.get? entity.tracker_id = some tracker ∧
      tracker.is_dirty = true ∧ property_name ∈ tracker.changed_properties ∧
      property_name ∈ tracker.get_change_set.current_values.keys
  | .track_relationship_change entity _ _ _ | .mark_as_added entity | .mark_as_deleted entity =>
    ∃ tracker, c.tracked_entities.get? entity.tracker_id = some tracker ∧ tracker.is_dirty = true
  | .attach .. | .detach _ => True

end TrackingCall

/-- A batch operation for a change, by its state. -/
def batch_operation (change : ChangeSet ν) : Option (BatchOperation ν) := match change.state with
  | .ADDED => some { operation_type := .INSERT, entity := change, properties := change.current_values }
  | .MODIFIED => some { operation_type := .UPDATE, entity := change, properties := change.current_values }
  | .DELETED => some { operation_type := .DELETE, entity := change }
  | .UNCHANGED | .DETACHED => none

/-- Simulate saving an operation. It does not raise. -/
def save_operation (operation : BatchOperation ν) : Except String String := .ok ("Saved " ++ operation.operation_type.value)

/-- The batch size of the processor of a context. -/
def BATCH_SIZE : Nat := 100

/-- A call of `save_changes_async` that is not over yet has operations left to
    process; one that is over has a result. -/
structure AsyncSave (ν : Type) where
  change_tracker : ChangeTracker ν
  operations : List (BatchOperation ν) := []
  processed_count : Nat := 0
  error_count : Nat := 0
  result : Option Nat := none

inductive SaveStep (ν : Type)
  | call (call : TrackingCall ν)
  | batch

namespace AsyncSave

/-- Accept changes if all operations were successful. -/
def complete (s : AsyncSave ν) : AsyncSave ν :=
  { s with
    change_tracker := if s.error_count = 0 then s.change_tracker.accept_changes none else s.change_tracker
    result := some s.processed_count }

/-- `save_changes_async()` up to the first batch. -/
def save_changes_async (c : ChangeTracker ν) : AsyncSave ν :=
  if c.has_changes then
    let operations := c.get_all_changes.filterMap batch_operation
    if operations.isEmpty then complete { change_tracker := c } else { change_tracker := c, operations }
  else { change_tracker := c, result := some 0 }

/-- The results of a batch are collected; after the last batch the save is over. -/
def process_batch (s : AsyncSave ν) : AsyncSave ν :=
  let results := (s.operations.take BATCH_SIZE).map save_operation
  let processed :=
    { s with
      operations := s.operations.drop BATCH_SIZE
      processed_count := s.processed_count + results.countP fun result => Except.isOk result
      error_count := s.error_count + results.countP fun result => !Except.isOk result }
  if processed.operations.isEmpty then processed.complete else processed

def step (s : AsyncSave ν) : SaveStep ν → AsyncSave ν
  | .call call => { s with change_tracker := call.apply s.change_tracker }
  | .batch => if s.result.isNone then s.process_batch else s

def run (s : AsyncSave ν) (steps : List (SaveStep ν)) : AsyncSave ν := steps.foldl step s

/-- The calls among the steps. -/
def calls (steps : List (SaveStep ν)) : List (TrackingCall ν) := steps.filterMap fun
  | .call call => some call
  | .batch => none

/-! ## What a save leaves -/

section
variable {s : AsyncSave ν} {c : ChangeTracker ν}

omit [DecidableEq ν] in
/-- No operation fails. -/
theorem errors_process_batch (none_failed : s.error_count = 0) : s.process_batch.error_count = 0 := by
  have failures : ((s.operations.take BATCH_SIZE).map save_operation).countP (fun result => !Except.isOk result) = 0 := by
    rw [List.countP_eq_zero]
    intro result member
    obtain ⟨operation, -, rfl⟩ := List.mem_map.mp member
    simp [save_operation, Except.isOk, Except.toBool]
  unfold process_batch
  simp only [failures, none_failed]
  split <;> rfl

theorem errors_run (none_failed : s.error_count = 0) (steps : List (SaveStep ν)) : (s.run steps).error_count = 0 := by
  refine List.foldlRecOn (motive := fun t : AsyncSave ν => t.error_count = 0) steps step none_failed ?_
  intro t none_failed next _
  cases next with
  | call call => exact none_failed
  | batch =>
    simp only [AsyncSave.step]
    split
    · exact errors_process_batch none_failed
    · exact none_failed

omit [DecidableEq ν] in
theorem errors_save_changes_async (c : ChangeTracker ν) : (save_changes_async c).error_count = 0 := by
  unfold save_changes_async
  split
  · simp only
    split <;> rfl
  · rfl

/-- Where a batch completes the save, nothing is pending any more. -/
theorem nothing_pending (none_failed : s.error_count = 0) (in_flight : s.result = none)
    (completes : (s.step .batch).result ≠ none) : (s.step .batch).change_tracker.has_changes = false := by
  have errors := errors_process_batch none_failed
  simp only [AsyncSave.step, in_flight, Option.isNone_none, if_true] at completes ⊢
  unfold process_batch at completes errors ⊢
  simp only at completes errors ⊢
  split at completes
  · next ended =>
    rw [if_pos ended] at errors ⊢
    unfold complete at errors ⊢
    simp only at errors ⊢
    rw [if_pos errors]
    exact ChangeTracker.has_changes_accept_changes _
  · exact absurd in_flight completes

omit [DecidableEq ν] in
/-- A pending change of a tracked call makes the tracker report changes. -/
theorem has_changes_of_pending {auto_track : Bool} {call : TrackingCall ν} (tracks : call.Tracks auto_track)
    (pending : call.Pending c) : c.has_changes = true := by
  rw [ChangeTracker.has_changes_iff]
  cases call with
  | track_property_change entity property_name old_value new_value =>
    obtain ⟨tracker, found, dirty, -⟩ := pending
    exact ⟨_, tracker, found, dirty⟩
  | track_relationship_change entity relationship_name change_type related_entity =>
    obtain ⟨tracker, found, dirty⟩ := pending
    exact ⟨_, tracker, found, dirty⟩
  | mark_as_added entity =>
    obtain ⟨tracker, found, dirty⟩ := pending
    exact ⟨_, tracker, found, dirty⟩
  | mark_as_deleted entity =>
    obtain ⟨tracker, found, dirty⟩ := pending
    exact ⟨_, tracker, found, dirty⟩
  | attach | detach => exact tracks.elim

/-- At the end of a save every change tracked since its snapshot is pending, exactly
    if no change was tracked since. -/
theorem changes_survive_iff (c : ChangeTracker ν) (steps : List (SaveStep ν))
    (in_flight : ((save_changes_async c).run steps).result = none)
    (completes : (((save_changes_async c).run steps).step .batch).result ≠ none) :
    (∀ call ∈ calls steps, call.Tracks c.auto_track →
        call.Pending (((save_changes_async c).run steps).step .batch).change_tracker) ↔
      ∀ call ∈ calls steps, ¬call.Tracks c.auto_track := by
  have settled := nothing_pending (errors_run (errors_save_changes_async c) steps) in_flight completes
  constructor
  · intro survive call member tracks
    have pending := has_changes_of_pending tracks (survive call member tracks)
    rw [settled] at pending
    cases pending
  · intro quiet call member tracks
    exact absurd tracks (quiet call member)

end

/-! ## A lost change -/

def marked_wall : Entity Nat := { address := 1, type := ⟨0, "Wall"⟩, id := some (some (.int 1)) }

def edited_door : Entity Nat := { address := 2, type := ⟨1, "Door"⟩, id := some (some (.int 2)), attributes := Dict.ofList [("Width", 2)] }

/-- A new wall is pending. -/
def unsaved : ChangeTracker Nat := ChangeTracker.mark_as_added {} marked_wall

theorem attached_meanwhile :
    ((save_changes_async unsaved).run [.call (.attach edited_door none)]).result = none ∧
      ((((save_changes_async unsaved).run [.call (.attach edited_door none)]).step .batch).result = some 1 ∧
        ∀ call ∈ calls [.call (.attach edited_door none)], call.Tracks true →
          call.Pending (((save_changes_async unsaved).run [.call (.attach edited_door none)]).step .batch).change_tracker) :=
  ⟨rfl, rfl, (changes_survive_iff unsaved [.call (.attach edited_door none)] rfl (by decide +kernel)).mpr
    fun call member tracks => by
      obtain rfl := List.mem_singleton.mp member
      exact tracks⟩

/-- A change that is tracked during the only batch is accepted, though not saved. -/
theorem change_lost :
    ¬∀ (c : ChangeTracker Nat) (steps : List (SaveStep Nat)), ((save_changes_async c).run steps).result = none →
      (((save_changes_async c).run steps).step .batch).result ≠ none →
        ∀ call ∈ calls steps, call.Tracks c.auto_track →
          call.Pending (((save_changes_async c).run steps).step .batch).change_tracker := by
  intro survive
  have tracks : (TrackingCall.track_property_change edited_door "Width" 1 2).Tracks true := ⟨rfl, by decide⟩
  have pending := survive unsaved [.call (.track_property_change edited_door "Width" 1 2)] rfl (by decide +kernel) _
    (List.mem_singleton.mpr rfl) tracks
  have reported := has_changes_of_pending tracks pending
  exact absurd reported (by decide +kernel)

end AsyncSave

end RevitPy
