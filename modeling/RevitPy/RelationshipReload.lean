import RevitPy.ReadYourWrites

/-!
# Relationships after a save

A save hands the change sets to the relationship manager, which finds nothing
registered for their class. So what was loaded for a changed entity stays where it
is, and a later load asks the loader only if nothing was loaded before the save.
-/

namespace RevitPy
variable {α κ ν : Type}

/-! ## What becomes of the registered relationships -/

namespace RelationshipManager

/-- The relationships of `m'` are those of `m`, and have kept at most what those had
    loaded. -/
def Trims (m m' : RelationshipManager α) : Prop :=
  ∀ T name r', m'.get_relationship T name = some r' → ∃ r, m.get_relationship T name = some r ∧ r'.config = r.config ∧
    r'.cache_manager = r.cache_manager ∧ ∀ id related, r'.loaded_entities.get? id = some related →
      r.loaded_entities.get? id = some related

theorem Trims.refl (m : RelationshipManager α) : m.Trims m := fun _ _ r found => ⟨r, found, rfl, rfl, fun _ _ loaded => loaded⟩

theorem Trims.trans {a b c : RelationshipManager α} (left : a.Trims b) (right : b.Trims c) : a.Trims c := by
  intro T name r'' found
  obtain ⟨r', found', config, cache, loaded⟩ := right T name r'' found
  obtain ⟨r, found'', config', cache', loaded'⟩ := left T name r' found'
  exact ⟨r, found'', config.trans config', cache.trans cache', fun id related kept => loaded' id related (loaded id related kept)⟩

theorem trims_invalidate_relationship (h : Heap α κ) (m : RelationshipManager α) (entity : Subject) (name : String) :
    m.Trims (m.invalidate_relationship h entity name).1 := by
  unfold invalidate_relationship
  split
  · exact .refl m
  · next relationship registered =>
    intro T other r' found
    rcases get_relationship_put_some found with ⟨rfl, rfl, rfl⟩ | found
    · refine ⟨relationship, registered, rfl, rfl, fun id related kept => ?_⟩
      simp only [Relationship.invalidate_cache, Dict.get?_erase] at kept
      split at kept
      · cases kept
      · exact kept
    · exact ⟨r', found, rfl, rfl, fun _ _ kept => kept⟩

theorem trims_invalidate_entity (h : Heap α κ) (m : RelationshipManager α) (entity : Subject) :
    m.Trims (m.invalidate_entity h entity).1 := by
  have rounds (names : List String) (state : RelationshipManager α × Heap α κ) :
      state.1.Trims (names.foldl
        (fun state relationship_name => invalidate_relationship state.2 state.1 entity relationship_name) state).1 := by
    induction names generalizing state with
    | nil => exact .refl _
    | cons name rest ih => exact (trims_invalidate_relationship _ _ entity name).trans (ih _)
  exact rounds _ (m, h)

end RelationshipManager

namespace RevitContext

/-- No registered relationship of the type of `e` has data of `e`, and none is live
    in the cache. -/
def Unloaded (c : RevitContext α κ ν) (e : Subject) : Prop :=
  ∀ manager, c.relationship_manager = some manager → ∀ name r, manager.get_relationship e.type name = some r →
    r.loaded_entities.get? e.entity_id = none ∧
      (r.should_use_cache e = true → ∀ entry, (c.heap.caches.read r.cache_manager).lookup (r.get_cache_key e).str = some entry →
        entry.is_expired c.heap.clock = true)

/-- No relationship data of `e` stems from before read `N`. -/
structure Reloads (N : Nat) (e : Subject) (c : RevitContext α κ ν) : Prop where
  since : N ≤ c.heap.reads
  loaded : ∀ manager, c.relationship_manager = some manager → ∀ name r, manager.get_relationship e.type name = some r →
    ∀ related, r.loaded_entities.get? e.entity_id = some related → N ≤ related.read
  fresh : ∀ manager, c.relationship_manager = some manager → ∀ name r, manager.get_relationship e.type name = some r →
    r.should_use_cache e = true → c.heap.Fresh N r.cache_manager (r.get_cache_key e).str

variable {env : Environment α κ ν} {N : Nat} {e : Subject} {c d : RevitContext α κ ν}

/-- The relationships of `d` are those of `c`, with at most the data that those had. -/
def Trims (c d : RevitContext α κ ν) : Prop :=
  ∀ m', d.relationship_manager = some m' → ∃ m, c.relationship_manager = some m ∧ m.Trims m'

theorem Trims.same (same : d.relationship_manager = c.relationship_manager) : c.Trims d :=
  fun m given => ⟨m, by rw [← same]; exact given, .refl m⟩

theorem Trims.trans {a b c : RevitContext α κ ν} (left : a.Trims b) (right : b.Trims c) : a.Trims c := by
  intro m'' given
  obtain ⟨m', given', trims⟩ := right m'' given
  obtain ⟨m, given'', trims'⟩ := left m' given'
  exact ⟨m, given'', trims'.trans trims⟩

theorem Reloads.trims (reloads : Reloads N e c) (advances : c.heap.Advances d.heap) (trims : c.Trims d) : Reloads N e d where
  since := Nat.le_trans reloads.since advances.reads
  loaded m' given name r' found related kept := by
    obtain ⟨m, given', trimmed⟩ := trims m' given
    obtain ⟨r, found', -, -, loaded⟩ := trimmed _ name r' found
    exact reloads.loaded m given' name r found' related (loaded _ related kept)
  fresh m' given name r' found used := by
    obtain ⟨m, given', trimmed⟩ := trims m' given
    obtain ⟨r, found', config, cache, -⟩ := trimmed _ name r' found
    have used' : r.should_use_cache e = true := by rwa [Relationship.should_use_cache, config] at used
    have key : r'.get_cache_key e = r.get_cache_key e := by
      rw [Relationship.get_cache_key, Relationship.cache_key, config]
      rfl
    rw [cache, key]
    exact (reloads.fresh m given' name r found' used').advance reloads.since advances

/-- What is loaded for `e` now was read since. -/
theorem Reloads.source (reloads : Reloads N e c) {manager : RelationshipManager α} (given : c.relationship_manager = some manager)
    {name : String} {r : Relationship α} (registered : manager.get_relationship e.type name = some r) {entity : Subject}
    (same : entity.entity_id = e.entity_id) {related : Data α} {h' : Heap α κ}
    (source : Relationship.Source env.loader c.heap r entity related h') : N ≤ related.read := by
  have key : r.get_cache_key entity = r.get_cache_key e := by rw [Relationship.get_cache_key, same]; rfl
  have use : r.should_use_cache entity = r.should_use_cache e := by
    rw [Relationship.should_use_cache, same]
    rfl
  cases source with
  | kept found => exact reloads.loaded manager given name r registered related (same ▸ found)
  | cached used entry found live equal =>
    rw [key] at found
    exact equal ▸ reloads.fresh manager given name r registered (use ▸ used) entry found live
  | fetched fetched =>
    obtain ⟨-, answer, -, rfl⟩ := fetched
    exact reloads.since

/-! ## What events keep -/

theorem trims_invalidate_change (env : Environment α κ ν) (c : RevitContext α κ ν) (change : ChangeSet ν) :
    c.Trims (c.invalidate_change env change) := by
  unfold invalidate_change
  simp only
  split
  · exact .same rfl
  · next manager given =>
    intro m' given'
    obtain rfl := Option.some.inj given'
    exact ⟨manager, given, manager.trims_invalidate_entity _ _⟩

theorem trims_save_changes (env : Environment α κ ν) (c : RevitContext α κ ν) : c.Trims (c.save_changes env).2 := by
  have rounds (changes : List (ChangeSet ν)) (c : RevitContext α κ ν) : c.Trims (c.invalidate_cache_for_changes env changes) := by
    unfold invalidate_cache_for_changes
    induction changes generalizing c with
    | nil => exact .same rfl
    | cons change rest ih => exact (c.trims_invalidate_change env change).trans (ih _)
  have committed (changes : List (ChangeSet ν)) : c.Trims (c.commit env changes).2 := by
    unfold commit
    split
    · exact .same rfl
    · split <;> exact .same rfl
  unfold save_changes ensure_not_disposed
  split
  · exact .same rfl
  · split
    · have before := committed c.change_tracker.get_all_changes
      simp only
      split
      · next raised => rw [raised] at before; exact before
      · next d done =>
        rw [done] at before
        have accepted : d.Trims { d with change_tracker := d.change_tracker.accept_changes none } := .same rfl
        exact (before.trans accepted).trans (rounds _ _)
    · exact .same rfl

theorem relationship_manager_get_by_id (env : Environment α κ ν) (c : RevitContext α κ ν) (element_type : ElementType)
    (element_id : ElementId) : (c.get_by_id env element_type element_id).2.relationship_manager = c.relationship_manager := by
  have attached (c : RevitContext α κ ν) (element : Value α) :
      (c.auto_attach env element element_id).relationship_manager = c.relationship_manager := by
    unfold auto_attach; split <;> rfl
  have looked : (c.cached_element element_type element_id).2.relationship_manager = c.relationship_manager := by
    unfold cached_element; split <;> rfl
  have provided (c : RevitContext α κ ν) :
      (c.provide_element env element_type element_id).2.relationship_manager = c.relationship_manager := by
    unfold provide_element
    simp only
    split
    · rfl
    · rfl
    · split
      · split
        · exact attached _ _
        · exact attached _ _
      · rfl
  unfold get_by_id ensure_not_disposed
  split
  · rfl
  · split
    · next found => rw [found] at looked; exact (attached _ _).trans looked
    · next absent => rw [absent] at looked; exact (provided _).trans looked

theorem relationship_manager_clear_cache (c : RevitContext α κ ν) :
    c.clear_cache.2.relationship_manager = c.relationship_manager := by
  unfold clear_cache ensure_not_disposed; split <;> rfl

theorem relationship_manager_invalidate_cache (c : RevitContext α κ ν) (entity_type : Option ElementType)
    (entity_id : Option ElementId) : (c.invalidate_cache entity_type entity_id).2.relationship_manager = c.relationship_manager := by
  unfold invalidate_cache ensure_not_disposed
  split
  · rfl
  · split
    · rfl
    · split <;> rfl

theorem relationship_manager_dispose (c : RevitContext α κ ν) : c.dispose.relationship_manager = c.relationship_manager := by
  unfold dispose; split <;> rfl

theorem load_relationship_state (env : Environment α κ ν) (c : RevitContext α κ ν) (entity : Subject) (name : String) :
    (c.load_relationship env entity name).2 = c ∨
      ∃ manager, c.relationship_manager = some manager ∧ (c.load_relationship env entity name).2 =
        { c with
          heap := (manager.load_relationship env.loader c.heap entity name false).2.2
          relationship_manager := some (manager.load_relationship env.loader c.heap entity name false).2.1 } := by
  unfold load_relationship ensure_not_disposed
  split
  · exact Or.inl rfl
  · split
    · exact Or.inl rfl
    · next manager given => exact Or.inr ⟨manager, given, rfl⟩

theorem Reloads.load (reloads : Reloads N e c) (entity : Subject) (name : String) :
    Reloads N e (c.load_relationship env entity name).2 := by
  rcases c.load_relationship_state env entity name with same | ⟨manager, given, state⟩
  · rw [same]
    exact reloads
  rw [state]
  rcases manager.load_relationship_cases env.loader c.heap entity name false with
    ⟨exception, -, raised⟩ | ⟨relationship, outcome, r', h', registered, loads, loaded⟩
  · rw [raised]
    exact reloads.trims (.refl _) (.same given.symm)
  · rw [loaded]
    have advances := loads.recaches.toAdvances
    refine ⟨Nat.le_trans reloads.since advances.reads, fun m' given' other r found related kept => ?_,
      fun m' given' other r found used => ?_⟩
    · obtain rfl := Option.some.inj given'
      rcases RelationshipManager.get_relationship_put_some found with ⟨type, rfl, rfl⟩ | found
      · rw [type] at registered
        rcases loads.loaded _ related kept with before | ⟨id, answered⟩
        · exact reloads.loaded manager given name relationship registered related before
        · exact reloads.source given registered id.symm (loads.source related answered)
      · exact reloads.loaded manager given other r found related kept
    · obtain rfl := Option.some.inj given'
      rcases RelationshipManager.get_relationship_put_some found with ⟨type, rfl, rfl⟩ | found
      · rw [type] at registered
        have used' : relationship.should_use_cache e = true := by rwa [Relationship.should_use_cache, loads.config] at used
        have key : r'.get_cache_key e = relationship.get_cache_key e := by
          rw [Relationship.get_cache_key, Relationship.cache_key, loads.config]
          rfl
        rw [loads.cache_manager, key]
        exact (reloads.fresh manager given name relationship registered used').advance reloads.since advances
      · exact (reloads.fresh manager given other r found used).advance reloads.since advances

section
variable [DecidableEq α] [LinearOrder κ]

theorem Reloads.step (reloads : Reloads N e c) (event : ContextEvent α κ ν) : Reloads N e (c.step env event) := by
  have executed (b : Nat) : Reloads N e { c with heap := (c.heap.execute env.provider env.query_hash b).2 } :=
    reloads.trims (c.heap.execute_executed env.provider env.query_hash b).advances (.same rfl)
  cases event with
  | query element_type =>
    simp only [RevitContext.step, query, ensure_not_disposed]
    split
    · exact reloads
    · exact reloads.trims (c.heap.advances_new_builder element_type c.cache_manager) (.same rfl)
  | fluent b call =>
    simp only [RevitContext.step]
    rcases c.heap.call_spec b call with ⟨exception, -, raised⟩ | ⟨operation, b', heap, -, called, derived⟩
    · rw [raised]
      exact reloads
    · rw [called]
      exact reloads.trims derived.advances (.same rfl)
  | to_list b => exact executed b
  | count b => exact executed b
  | get_by_id element_type element_id =>
    exact reloads.trims (c.keeps_get_by_id env element_type element_id).heap.toAdvances
      (.same (c.relationship_manager_get_by_id env element_type element_id))
  | tracking change => exact reloads.trims (.refl _) (.same rfl)
  | save_changes => exact reloads.trims (c.keeps_save_changes env).heap.toAdvances (c.trims_save_changes env)
  | load_relationship entity name => exact reloads.load entity name
  | clear_cache => exact reloads.trims c.keeps_clear_cache.heap.toAdvances (.same c.relationship_manager_clear_cache)
  | invalidate_cache element_type element_id =>
    exact reloads.trims (c.keeps_invalidate_cache element_type element_id).heap.toAdvances
      (.same (c.relationship_manager_invalidate_cache element_type element_id))
  | dispose => exact reloads.trims c.keeps_dispose.heap.toAdvances (.same c.relationship_manager_dispose)
  | elapse microseconds => exact reloads.trims (c.heap.recaches_elapse microseconds).toAdvances (.same rfl)

theorem Reloads.run (reloads : Reloads N e c) (events : List (ContextEvent α κ ν)) : Reloads N e (c.run env events) :=
  List.foldlRecOn (motive := Reloads N e) events _ reloads fun _ kept event _ => kept.step event

/-- After a save, loads of relationships of `e` answer what is read since, if before
    the save nothing was loaded for `e` and nothing was live in the cache. -/
theorem reload_after_save (env : Environment α κ ν) (e : Subject) (c : RevitContext α κ ν) {saved : RevitContext α κ ν}
    {count : Nat} (commits : c.save_changes env = (.ok count, saved)) (unloaded : c.Unloaded e)
    (events : List (ContextEvent α κ ν)) (name : String) {related : Data α}
    (loaded : ((saved.run env events).load_relationship env e name).1 = .ok related) : c.heap.reads ≤ related.read := by
  have start : Reloads c.heap.reads e c := by
    refine ⟨Nat.le_refl _, fun manager given name r registered related kept => ?_,
      fun manager given name r registered used entry found live => ?_⟩
    · rw [(unloaded manager given name r registered).1] at kept
      cases kept
    · rw [(unloaded manager given name r registered).2 used entry found] at live
      cases live
  have reloads : Reloads c.heap.reads e (saved.run env events) := by
    have later : Reloads c.heap.reads e (c.step env .save_changes) := start.step .save_changes
    rw [RevitContext.step, commits] at later
    exact later.run events
  unfold load_relationship ensure_not_disposed at loaded
  split at loaded
  · cases loaded
  · split at loaded
    · cases loaded
    · next manager given =>
      rcases manager.load_relationship_cases env.loader (saved.run env events).heap e name false with
        ⟨exception, -, raised⟩ | ⟨relationship, outcome, r', h', registered, loads, answered⟩
      · rw [raised] at loaded
        cases loaded
      · rw [answered] at loaded
        cases outcome with
        | error exception => cases loaded
        | ok other =>
          obtain rfl := Except.ok.inj loaded
          exact reloads.source given registered rfl (loads.source _ rfl)

end

/-! ## Stale relationship data -/

/-- The type of the rooms that bound a wall is registered. -/
def rooms : RelationshipManager Nat :=
  RelationshipManager.register { cache_manager := 0 } wall.type ⟨"rooms", .ONE_TO_MANY, ⟨2, "Room"⟩, .LAZY, true⟩

/-- The rooms of another wall have been loaded, and then a wall is changed. -/
def furnished (loaded : Subject) : RevitContext Nat Nat Nat :=
  { project with relationship_manager := some rooms }.run walls
    [.load_relationship loaded "rooms", .tracking fun tracker => tracker.track_property_change wall "Width" 1 2]

theorem rooms_reloaded :
    (furnished { wall.toSubject with id := some (some (.int 2)) }).heap.reads = 1 ∧
      (1 : Nat) ≤ (⟨.list [1], 1⟩ : Data Nat).read := by
  let c := furnished { wall.toSubject with id := some (some (.int 2)) }
  have count : (c.save_changes walls).1 = .ok 1 := by decide +kernel
  have commits : c.save_changes walls = (.ok 1, (c.save_changes walls).2) := by rw [← count]
  have loaded : (((c.save_changes walls).2.run walls []).load_relationship walls wall.toSubject "rooms").1 = .ok ⟨.list [1], 1⟩ := by
    decide +kernel
  have unloaded : c.Unloaded wall.toSubject := by
    intro manager given name r registered
    obtain rfl := Option.some.inj given
    by_cases same : "rooms" = name
    · subst same
      obtain rfl := Option.some.inj registered
      exact ⟨rfl, fun _ entry found => by cases found⟩
    · change (if "rooms" = name then _ else none) = some r at registered
      rw [if_neg same] at registered
      cases registered
  exact ⟨by decide +kernel, reload_after_save walls wall.toSubject c commits unloaded [] "rooms" loaded⟩

/-- The rooms that were loaded before the save are answered after it. -/
theorem stale_rooms :
    ¬∀ (env : Environment Nat Nat Nat) (e : Subject) (c saved : RevitContext Nat Nat Nat) (count : Nat)
        (events : List (ContextEvent Nat Nat Nat)) (name : String) (related : Data Nat),
      c.save_changes env = (.ok count, saved) →
        (∃ change ∈ c.change_tracker.get_all_changes, change.entity_id = e.entity_id ∧ change.entity_type = e.type.name) →
          ((saved.run env events).load_relationship env e name).1 = .ok related → c.heap.reads ≤ related.read := by
  intro current
  let c := furnished wall.toSubject
  have count : (c.save_changes walls).1 = .ok 1 := by decide +kernel
  have commits : c.save_changes walls = (.ok 1, (c.save_changes walls).2) := by rw [← count]
  have pending : ∃ change ∈ c.change_tracker.get_all_changes, change.entity_id = wall.entity_id ∧ change.entity_type = "Wall" := by
    decide +kernel
  have loaded : (((c.save_changes walls).2.run walls []).load_relationship walls wall.toSubject "rooms").1 = .ok ⟨.list [0], 0⟩ := by
    decide +kernel
  have old := current walls wall.toSubject c (c.save_changes walls).2 1 [] "rooms" ⟨.list [0], 0⟩ commits pending loaded
  have reads : c.heap.reads = 1 := by decide +kernel
  rw [reads] at old
  cases old

end RevitContext

end RevitPy
