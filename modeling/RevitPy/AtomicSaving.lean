import RevitPy.TrackerRuns
import RevitPy.Transactions

/-!
# Saving is atomic

The changes are registered in the unit of work one by one and committed. Whichever
call raises, the context is as it was before, and where none does, every dirty entity
was registered once.
-/

namespace RevitPy
variable {α κ ν : Type}

/-! ## The calls of the unit of work -/

/-- The change that a call registers. -/
def UnitOfWorkCall.change : UnitOfWorkCall ν → Option (ChangeSet ν)
  | .register_new change | .register_dirty change | .register_removed change => some change
  | .commit | .rollback => none

/-- The calls that register a change of one entity. -/
def registrations_of (k : Option ElementId) (calls : List (UnitOfWorkCall ν)) : List (UnitOfWorkCall ν) :=
  calls.filter fun call => call.change.map ChangeSet.entity_id = some k

/-- None of the calls raises, where others were made before. -/
def Returns (unit_of_work : UnitOfWork ν) : List (UnitOfWorkCall ν) → List (UnitOfWorkCall ν) → Prop :=
  Runs.Along (fun made call => made ++ [call]) fun made call => unit_of_work (made ++ [call]) = none

namespace RevitContext

theorem perform_returns {unit_of_work : UnitOfWork ν} {made calls : List (UnitOfWorkCall ν)} (returns : Returns unit_of_work made calls) :
    perform unit_of_work made calls = (none, made ++ calls) := by
  induction calls generalizing made with
  | nil => simp [perform]
  | cons call rest ih =>
    obtain ⟨quiet, later⟩ := returns
    simp [perform, quiet, ih later]

/-- The call that raises is the last one. -/
theorem perform_raises {unit_of_work : UnitOfWork ν} {made before : List (UnitOfWorkCall ν)} {call : UnitOfWorkCall ν}
    {e : String} (returns : Returns unit_of_work made before) (raises : unit_of_work (made ++ before ++ [call]) = some e)
    (after : List (UnitOfWorkCall ν)) :
    perform unit_of_work made (before ++ call :: after) = (some e, made ++ before ++ [call]) := by
  induction before generalizing made with
  | nil =>
    rw [List.append_nil] at raises
    simp [perform, raises]
  | cons first rest ih =>
    obtain ⟨quiet, later⟩ := returns
    have further := ih later (by simpa using raises)
    rw [List.cons_append, perform]
    simp only [quiet, further]
    simp

/-! ## What is registered -/

theorem change_of_registration {change : ChangeSet ν} {call : UnitOfWorkCall ν} (registered : registration change = some call) :
    call.change = some change := by
  unfold registration at registered
  cases state : change.state <;> simp only [state, Option.some.injEq, reduceCtorEq] at registered
  all_goals exact registered ▸ rfl

/-- The calls for the changes of a tracker, in order. -/
def registrations (c : ChangeTracker ν) : List (UnitOfWorkCall ν) := c.get_all_changes.filterMap registration

/-- The one call for the change of a tracker, where it is dirty and registered. -/
def registered (tracker : EntityTracker ν) : List (UnitOfWorkCall ν) :=
  if tracker.is_dirty then (registration tracker.get_change_set).toList else []

theorem registered_entity {tracker : EntityTracker ν} {call : UnitOfWorkCall ν} (member : call ∈ registered tracker) :
    call.change.map ChangeSet.entity_id = some tracker.entity_id := by
  unfold registered at member
  split at member
  · rw [change_of_registration (Option.mem_toList.mp member)]
    rfl
  · cases member

theorem registrations_of_cons (k : Option ElementId) (tracker : EntityTracker ν) (rest : List (UnitOfWorkCall ν)) :
    registrations_of k (registered tracker ++ rest) =
      (if tracker.entity_id = k then registered tracker else []) ++ registrations_of k rest := by
  unfold registrations_of
  rw [List.filter_append]
  congr 1
  split
  · next same =>
    refine List.filter_eq_self.mpr fun call member => ?_
    simp [registered_entity member, same]
  · next other =>
    refine List.filter_eq_nil_iff.mpr fun call member => ?_
    rw [registered_entity member]
    simpa using other

theorem registrations_of_absent {k : Option ElementId} {items : List (Option ElementId × EntityTracker ν)}
    (named : ∀ item ∈ items, item.2.entity_id = item.1) (absent : k ∉ items.map Prod.fst) :
    registrations_of k (items.flatMap fun item => registered item.2) = [] := by
  induction items with
  | nil => rfl
  | cons item rest ih =>
    simp only [List.map_cons, List.mem_cons, not_or] at absent
    rw [List.flatMap_cons, registrations_of_cons, if_neg, List.nil_append,
      ih (fun item member => named item (List.mem_cons_of_mem _ member)) absent.2]
    rw [named item List.mem_cons_self]
    exact Ne.symm absent.1

theorem registrations_of_items {k : Option ElementId} {tracker : EntityTracker ν} {items : List (Option ElementId × EntityTracker ν)}
    (named : ∀ item ∈ items, item.2.entity_id = item.1) (distinct : (items.map Prod.fst).Nodup) (listed : (k, tracker) ∈ items) :
    registrations_of k (items.flatMap fun item => registered item.2) = registered tracker := by
  induction items with
  | nil => cases listed
  | cons item rest ih =>
    obtain ⟨fresh, distinct⟩ := List.nodup_cons.mp distinct
    have others : ∀ item ∈ rest, item.2.entity_id = item.1 := fun item member => named item (List.mem_cons_of_mem _ member)
    rw [List.flatMap_cons, registrations_of_cons, named item List.mem_cons_self]
    rcases List.mem_cons.mp listed with rfl | later
    · rw [if_pos rfl, registrations_of_absent others fresh, List.append_nil]
    · have other : item.1 ≠ k := fun same => fresh (same ▸ List.mem_map_of_mem later)
      rw [if_neg other, List.nil_append, ih others distinct later]

theorem registrations_eq (c : ChangeTracker ν) :
    registrations c = c.tracked_entities.entries.flatMap fun item => registered item.2 := by
  unfold registrations ChangeTracker.get_all_changes Dict.values
  induction c.tracked_entities.entries with
  | nil => rfl
  | cons item rest ih =>
    rw [List.flatMap_cons, ← ih, List.map_cons, List.filter_cons, registered]
    split
    · rw [List.map_cons, List.filterMap_cons]
      cases registration item.2.get_change_set <;> rfl
    · rfl

/-- Every dirty tracker has one registration for its entity, of the kind of its state. -/
def RegistersOnce (c : ChangeTracker ν) (made : List (UnitOfWorkCall ν)) : Prop :=
  ∀ k tracker, c.tracked_entities.get? k = some tracker →
    (tracker.state = .ADDED → registrations_of k made = [.register_new tracker.get_change_set]) ∧
    (tracker.state = .MODIFIED → registrations_of k made = [.register_dirty tracker.get_change_set]) ∧
    (tracker.state = .DELETED → registrations_of k made = [.register_removed tracker.get_change_set])

/-- Every tracker carries the id that it is found under. -/
theorem named_call [DecidableEq ν] {c : ChangeTracker ν} (named : ChangeTracker.Each (fun k tracker => tracker.entity_id = k) c)
    (i : TrackerCall ν) : ChangeTracker.Each (fun k tracker => tracker.entity_id = k) (c.call i) := by
  refine named.call (fun _ _ => rfl) ?_ (fun _ _ _ _ _ _ named => named) (fun _ _ _ _ named => named) (fun _ _ named => named)
    (fun _ _ named => named) i
  intro k tracker name old_value new_value named
  unfold EntityTracker.track_property_change
  split <;> exact named

theorem registersOnce_of_named {c : ChangeTracker ν} (named : ChangeTracker.Each (fun k tracker => tracker.entity_id = k) c) :
    RegistersOnce c (registrations c) := by
  intro k tracker tracked
  have once : registrations_of k (registrations c) = registered tracker := by
    rw [registrations_eq]
    refine registrations_of_items (fun item member => ?_) c.tracked_entities.nodup ((Dict.get?_some_iff _ _ _).mp tracked)
    exact named item.1 item.2 ((Dict.get?_some_iff _ _ _).mpr member)
  rw [once]
  have changed (state : ElementState) (at_state : tracker.state = state) (moved : state ≠ .UNCHANGED) : tracker.is_dirty = true := by
    simp [EntityTracker.is_dirty, at_state, moved]
  refine ⟨fun added => ?_, fun modified => ?_, fun deleted => ?_⟩
  · simp [registered, changed _ added (by decide), registration, EntityTracker.get_change_set, added]
  · simp [registered, changed _ modified (by decide), registration, EntityTracker.get_change_set, modified]
  · simp [registered, changed _ deleted (by decide), registration, EntityTracker.get_change_set, deleted]

/-! ## Saving -/

theorem calls_invalidated (env : Environment α κ ν) (c : RevitContext α κ ν) (changes : List (ChangeSet ν)) :
    (c.invalidate_cache_for_changes env changes).unit_of_work_calls = c.unit_of_work_calls :=
  List.foldlRecOn (motive := fun d : RevitContext α κ ν => d.unit_of_work_calls = c.unit_of_work_calls) changes (invalidate_change env) rfl
    fun d kept change _ => by
      rw [← kept]
      unfold invalidate_change
      simp only
      split <;> rfl

section
variable {env : Environment α κ ν} {unit_of_work : UnitOfWork ν} (configured : env.unit_of_work = some unit_of_work)
  {c : RevitContext α κ ν} (live : c.is_disposed = false) (pending : c.has_changes = true)
include configured live pending

/-- A call that raises ends the saving, after a rollback. -/
theorem save_raises {e : String} {made : List (UnitOfWorkCall ν)}
    (performed : perform unit_of_work c.unit_of_work_calls (registrations c.change_tracker ++ [.commit]) = (some e, made)) :
    c.save_changes env =
      (.error (.ORMException ("Failed to save changes: " ++ e)), { c with unit_of_work_calls := made ++ [.rollback] }) := by
  unfold registrations at performed
  simp [save_changes, ensure_not_disposed, live, pending, commit, configured, performed]

/-- Where no call raises, the calls are those of the changes, and the commit. -/
theorem save_returns {made : List (UnitOfWorkCall ν)}
    (performed : perform unit_of_work c.unit_of_work_calls (registrations c.change_tracker ++ [.commit]) = (none, made)) :
    (c.save_changes env).1 = .ok c.change_tracker.get_all_changes.length ∧ (c.save_changes env).2.unit_of_work_calls = made := by
  unfold registrations at performed
  simp [save_changes, ensure_not_disposed, live, pending, commit, configured, performed, calls_invalidated]

end

/-- With a unit of work, saving either has nothing to do, or stops at the first call
    that raises and leaves everything but the unit of work alone, or registers every
    dirty entity once and commits. -/
theorem save_changes_atomic [DecidableEq ν] (env : Environment α κ ν) {unit_of_work : UnitOfWork ν}
    (configured : env.unit_of_work = some unit_of_work) (c : RevitContext α κ ν) (calls : List (TrackerCall ν))
    (reached : c.change_tracker = calls.foldl ChangeTracker.call {}) :
    (c.is_disposed = true ∨ c.has_changes = false → (c.save_changes env).2 = c) ∧
    (c.is_disposed = false → c.has_changes = true →
      RegistersOnce c.change_tracker (registrations c.change_tracker) ∧ .commit ∉ registrations c.change_tracker ∧
      (∀ before call after e, registrations c.change_tracker ++ [.commit] = before ++ call :: after →
        Returns unit_of_work c.unit_of_work_calls before → unit_of_work (c.unit_of_work_calls ++ before ++ [call]) = some e →
        (c.save_changes env).1 = .error (.ORMException ("Failed to save changes: " ++ e)) ∧
        (c.save_changes env).2 = { c with unit_of_work_calls := c.unit_of_work_calls ++ before ++ [call, .rollback] }) ∧
      (Returns unit_of_work c.unit_of_work_calls (registrations c.change_tracker ++ [.commit]) →
        (c.save_changes env).1 = .ok c.change_tracker.get_all_changes.length ∧
        (c.save_changes env).2.unit_of_work_calls = c.unit_of_work_calls ++ registrations c.change_tracker ++ [.commit])) := by
  constructor
  · rintro (disposed | clean)
    · simp [save_changes, ensure_not_disposed, disposed]
    · unfold save_changes ensure_not_disposed
      split <;> simp [clean]
  · intro live pending
    have named : ChangeTracker.Each (fun k tracker => tracker.entity_id = k) c.change_tracker := by
      rw [reached]
      exact List.foldlRecOn (motive := ChangeTracker.Each fun k tracker => tracker.entity_id = k) calls ChangeTracker.call
        (fun _ _ found => by cases found) fun _ kept i _ => named_call kept i
    refine ⟨registersOnce_of_named named, ?_, ?_, ?_⟩
    · intro member
      obtain ⟨change, -, registered⟩ := List.mem_filterMap.mp member
      cases change_of_registration registered
    · intro before call after e split returns raises
      have performed := perform_raises returns raises after
      rw [← split] at performed
      rw [save_raises configured live pending performed]
      simp
    · intro returns
      have performed := perform_returns returns
      rw [← List.append_assoc] at performed
      exact save_returns configured live pending performed

/-- The second call finds the disk full. -/
def failing : Environment Nat Nat Nat :=
  { offline with unit_of_work := some fun calls => if calls.length = 2 then some "disk full" else none }

def edits : List (TrackerCall Nat) :=
  [.mark_as_added { address := 7, type := ⟨0, "Wall"⟩ }, .track_property_change { address := 8, type := ⟨0, "Wall"⟩ } "Width" 1 2]

def edited : RevitContext Nat Nat Nat := { idle with change_tracker := edits.foldl ChangeTracker.call {} }

/-- The wall that was registered before the disk was full is pending as before. -/
theorem disk_full :
    (edited.save_changes failing).1 = .error (.ORMException "Failed to save changes: disk full") ∧
      (edited.save_changes failing).2 = { edited with unit_of_work_calls := registrations edited.change_tracker ++ [.rollback] } :=
  ((save_changes_atomic failing rfl edited edits rfl).2 rfl rfl).2.2.1 (registrations edited.change_tracker).dropLast
    ((registrations edited.change_tracker).getLast (by decide)) [.commit] "disk full" rfl ⟨rfl, trivial⟩ rfl

end RevitContext
end RevitPy
