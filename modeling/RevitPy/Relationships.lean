import RevitPy.ChangeTracker

/-!
# Relationships

A relationship keeps what it has loaded for an entity id, and puts it into a cache
under a key of the target type, the id and its own name. The manager finds the
relationships of an object by the class of the object.
-/

namespace RevitPy

inductive RelationshipType
  | ONE_TO_ONE
  | ONE_TO_MANY
  | MANY_TO_MANY
  deriving DecidableEq

inductive LoadStrategy
  | LAZY
  | EAGER
  | SELECT
  | BATCH
  deriving DecidableEq

structure RelationshipConfiguration where
  name : String
  relationship_type : RelationshipType
  target_entity : ElementType
  load_strategy : LoadStrategy := .LAZY
  cache_enabled : Bool := true

inductive RelationshipException
  | RelationshipError (message : String)
  deriving DecidableEq

/-- Where relationship data comes from: at every read an answer for an object and
    a relationship name, or the text of an exception. Objects may be falsy. -/
structure RelationshipLoader (α : Type) where
  load_relationship : Nat → Subject → String → LoadStrategy → Except String (Value α)
  truthy : α → Bool

variable {α κ : Type}

/-- A relationship of any type. Its cache is an object of the heap. -/
structure Relationship (α : Type) where
  config : RelationshipConfiguration
  cache_manager : Nat
  loaded_entities : Dict (Option ElementId) (Data α) := ∅

namespace Relationship

/-- The cache key of an object with a given id. -/
def cache_key (r : Relationship α) (entity_id : Option ElementId) : CacheKey :=
  { entity_type := r.config.target_entity.name, entity_id := entity_id, relationship_path := some r.config.name }

/-- Get cache key for relationship data. -/
def get_cache_key (r : Relationship α) (entity : Subject) : CacheKey := r.cache_key entity.entity_id

/-- Check if caching should be used for this entity. -/
def should_use_cache (r : Relationship α) (entity : Subject) : Bool := r.config.cache_enabled && entity.entity_id.isSome

/-- What is kept of an answer: a collection is made a list. -/
def collect (truthy : α → Bool) : RelationshipType → Value α → Value α
  | .ONE_TO_ONE, related => related
  | _, .list elements => .list elements
  | _, .object reference => .list (if truthy reference then [reference] else [])
  | _, .none => .list []

/-- Ask the loader and keep the answer. -/
def fetch (loader : RelationshipLoader α) (h : Heap α κ) (r : Relationship α) (entity : Subject) :
    Except RelationshipException (Data α) × Relationship α × Heap α κ :=
  let asked := { h with reads := h.reads + 1 }
  match loader.load_relationship h.reads entity r.config.name r.config.load_strategy with
  | .error _ => (.error (.RelationshipError ("Failed to load relationship " ++ r.config.name)), r, asked)
  | .ok answer =>
    let related : Data α := { value := collect loader.truthy r.config.relationship_type answer, read := h.reads }
    let kept := { r with loaded_entities := r.loaded_entities.set entity.entity_id related }
    if r.should_use_cache entity then
      (.ok related, kept, asked.write_cache r.cache_manager
        ((h.caches.read r.cache_manager).set h.clock (r.get_cache_key entity) related none []))
    else (.ok related, kept, asked)

/-- The cached data, if there is any that is not `None`. -/
def cached (h : Heap α κ) (r : Relationship α) (entity : Subject) : Option (Data α) × Heap α κ :=
  if r.should_use_cache entity then
    let (cached_result, cache) := (h.caches.read r.cache_manager).get h.clock (r.get_cache_key entity)
    (cached_result.filter fun related => !related.value.is_none, h.write_cache r.cache_manager cache)
  else (none, h)

/-- Load related data for an entity. -/
def load (loader : RelationshipLoader α) (h : Heap α κ) (r : Relationship α) (entity : Subject) (force_reload : Bool) :
    Except RelationshipException (Data α) × Relationship α × Heap α κ :=
  if force_reload then r.fetch loader h entity
  else match r.loaded_entities.get? entity.entity_id with
    | some related => (.ok related, r, h)
    | none => match r.cached h entity with
      | (some related, h) => (.ok related, { r with loaded_entities := r.loaded_entities.set entity.entity_id related }, h)
      | (none, h) => r.fetch loader h entity

/-- Invalidate cached data for entity. -/
def invalidate_cache (h : Heap α κ) (r : Relationship α) (entity : Subject) : Relationship α × Heap α κ :=
  let h := if r.should_use_cache entity then
      h.write_cache r.cache_manager ((h.caches.read r.cache_manager).invalidate (r.get_cache_key entity)).2
    else h
  ({ r with loaded_entities := r.loaded_entities.erase entity.entity_id }, h)

/-! ## What a load does -/

/-- What the loader answers at this moment, as it is kept. -/
def Fetched (loader : RelationshipLoader α) (h : Heap α κ) (r : Relationship α) (entity : Subject) (related : Data α)
    (h' : Heap α κ) : Prop :=
  h'.reads = h.reads + 1 ∧
    ∃ answer, loader.load_relationship h.reads entity r.config.name r.config.load_strategy = .ok answer ∧
      related = ⟨collect loader.truthy r.config.relationship_type answer, h.reads⟩

/-- Where loaded data comes from: it was loaded before, or is live in the cache, or
    the loader was asked now. -/
inductive Source (loader : RelationshipLoader α) (h : Heap α κ) (r : Relationship α) (entity : Subject) (related : Data α)
    (h' : Heap α κ) : Prop
  | kept (found : r.loaded_entities.get? entity.entity_id = some related)
  | cached (used : r.should_use_cache entity = true) (entry : CacheEntry (Data α))
      (found : (h.caches.read r.cache_manager).lookup (r.get_cache_key entity).str = some entry)
      (live : entry.is_expired h.clock = false) (same : entry.data = related)
  | fetched (fetched : Fetched loader h r entity related h')

/-- The relationship `r'` and the heap `h'` after a load. -/
structure Loaded (loader : RelationshipLoader α) (h : Heap α κ) (r : Relationship α) (entity : Subject)
    (outcome : Except RelationshipException (Data α)) (r' : Relationship α) (h' : Heap α κ) : Prop where
  config : r'.config = r.config
  cache_manager : r'.cache_manager = r.cache_manager
  builders : h'.builders = h.builders
  clock : h'.clock = h.clock
  reads : h.reads ≤ h'.reads
  source : ∀ related, outcome = .ok related → Source loader h r entity related h'
  loaded : ∀ id related, r'.loaded_entities.get? id = some related →
    r.loaded_entities.get? id = some related ∨ id = entity.entity_id ∧ outcome = .ok related
  caches : ∀ m k entry, (h'.caches.read m).lookup k = some entry →
    (∃ old, (h.caches.read m).lookup k = some old ∧ entry.Agree old) ∨
      m = r.cache_manager ∧ r.should_use_cache entity = true ∧ k = (r.get_cache_key entity).str ∧
        Fetched loader h r entity entry.data h'

theorem loaded_set {r : Relationship α} {entity : Subject} {id : Option ElementId} {related other : Data α}
    (found : (r.loaded_entities.set entity.entity_id related).get? id = some other) :
    r.loaded_entities.get? id = some other ∨
      id = entity.entity_id ∧ (.ok related : Except RelationshipException (Data α)) = .ok other := by
  rw [Dict.get?_set] at found
  split at found
  · next same =>
    obtain rfl := Option.some.inj found
    exact Or.inr ⟨same.symm, rfl⟩
  · exact Or.inl found

section
variable (loader : RelationshipLoader α) (h : Heap α κ) (r : Relationship α) (entity : Subject)

theorem fetch_loaded :
    Loaded loader h r entity (r.fetch loader h entity).1 (r.fetch loader h entity).2.1 (r.fetch loader h entity).2.2 := by
  unfold fetch
  cases answered : loader.load_relationship h.reads entity r.config.name r.config.load_strategy with
  | error e =>
    exact {
      config := rfl
      cache_manager := rfl
      builders := rfl
      clock := rfl
      reads := Nat.le_succ _
      source := fun _ ok => by cases ok
      loaded := fun _ _ found => Or.inl found
      caches := fun _ _ entry found => Or.inl ⟨entry, found, .refl entry⟩ }
  | ok answer =>
    simp only
    split
    · next used =>
      have fetched : Fetched loader h r entity ⟨collect loader.truthy r.config.relationship_type answer, h.reads⟩
          ({ h with reads := h.reads + 1 }.write_cache r.cache_manager
            ((h.caches.read r.cache_manager).set h.clock (r.get_cache_key entity)
              ⟨collect loader.truthy r.config.relationship_type answer, h.reads⟩ none [])) := ⟨rfl, answer, answered, rfl⟩
      exact {
        config := rfl
        cache_manager := rfl
        builders := rfl
        clock := rfl
        reads := Nat.le_succ _
        source := fun _ ok => by cases ok; exact .fetched fetched
        loaded := fun _ _ found => loaded_set found
        caches := fun m k entry found => by
          rcases Heap.lookup_write_set (h := { h with reads := h.reads + 1 }) found with ⟨same, key, stored⟩ | kept
          · exact Or.inr ⟨same, used, key, by rw [stored]; exact fetched⟩
          · exact Or.inl kept }
    · exact {
        config := rfl
        cache_manager := rfl
        builders := rfl
        clock := rfl
        reads := Nat.le_succ _
        source := fun _ ok => by cases ok; exact .fetched ⟨rfl, answer, answered, rfl⟩
        loaded := fun _ _ found => loaded_set found
        caches := fun _ _ entry found => Or.inl ⟨entry, found, .refl entry⟩ }

@[simp] theorem builders_cached : (r.cached h entity).2.builders = h.builders := by unfold cached; split <;> rfl

@[simp] theorem clock_cached : (r.cached h entity).2.clock = h.clock := by unfold cached; split <;> rfl

@[simp] theorem reads_cached : (r.cached h entity).2.reads = h.reads := by unfold cached; split <;> rfl

theorem cached_within {m : Nat} {k : String} {entry : CacheEntry (Data α)}
    (found : ((r.cached h entity).2.caches.read m).lookup k = some entry) :
    ∃ old, (h.caches.read m).lookup k = some old ∧ entry.Agree old := by
  unfold cached at found
  split at found
  · exact Heap.within_write (CacheManager.within_get _ _ _) found
  · exact ⟨entry, found, .refl entry⟩

theorem cached_source {related : Data α} (hit : (r.cached h entity).1 = some related) (h' : Heap α κ) :
    Source loader h r entity related h' := by
  unfold cached at hit
  split at hit
  · next used =>
    obtain ⟨entry, found, same, live⟩ := CacheManager.get_hit (Option.filter_eq_some_iff.mp hit).1
    exact .cached used entry found live same
  · cases hit

variable {loader h r entity} in
theorem source_of_missed {related : Data α} {h' : Heap α κ} (source : Source loader (r.cached h entity).2 r entity related h')
    (before : Fetched loader (r.cached h entity).2 r entity related h' → Fetched loader h r entity related h') :
    Source loader h r entity related h' := by
  cases source with
  | kept found => exact .kept found
  | cached used entry found live same =>
    obtain ⟨old, found', agree⟩ := cached_within h r entity found
    rw [clock_cached] at live
    exact .cached used old found' (agree.is_expired h.clock ▸ live) (agree.1 ▸ same)
  | fetched now => exact .fetched (before now)

/-- The loader is asked after the cache, at the same read. -/
theorem missed_loaded {outcome : Except RelationshipException (Data α)} {r' : Relationship α} {h' : Heap α κ}
    (fetched : Loaded loader (r.cached h entity).2 r entity outcome r' h') : Loaded loader h r entity outcome r' h' := by
  have before (related : Data α) (now : Fetched loader (r.cached h entity).2 r entity related h') : Fetched loader h r entity related h' := by
    simpa only [Fetched, reads_cached] using now
  exact {
    config := fetched.config
    cache_manager := fetched.cache_manager
    builders := fetched.builders.trans (builders_cached ..)
    clock := fetched.clock.trans (clock_cached ..)
    reads := Nat.le_trans (Nat.le_of_eq (reads_cached ..).symm) fetched.reads
    source := fun related ok => source_of_missed (fetched.source related ok) (before related)
    loaded := fetched.loaded
    caches := fun m k entry found => by
      rcases fetched.caches m k entry found with ⟨old, found', agree⟩ | ⟨same, used, key, now⟩
      · obtain ⟨older, found'', agree'⟩ := cached_within h r entity found'
        exact Or.inl ⟨older, found'', agree.trans agree'⟩
      · exact Or.inr ⟨same, used, key, before _ now⟩ }

/-- What a load answers, and what it leaves. -/
theorem load_loaded (force_reload : Bool) :
    Loaded loader h r entity (r.load loader h entity force_reload).1 (r.load loader h entity force_reload).2.1
      (r.load loader h entity force_reload).2.2 := by
  unfold load
  split
  · exact fetch_loaded loader h r entity
  · split
    · next related kept =>
      exact {
        config := rfl
        cache_manager := rfl
        builders := rfl
        clock := rfl
        reads := Nat.le_refl _
        source := fun _ ok => by cases ok; exact .kept kept
        loaded := fun _ _ found => Or.inl found
        caches := fun _ _ entry found => Or.inl ⟨entry, found, .refl entry⟩ }
    · split
      · next related h' hit =>
        have hit' : (r.cached h entity).1 = some related := by rw [hit]
        have left : (r.cached h entity).2 = h' := by rw [hit]
        subst left
        exact {
          config := rfl
          cache_manager := rfl
          builders := builders_cached ..
          clock := clock_cached ..
          reads := Nat.le_of_eq (reads_cached ..).symm
          source := fun _ ok => by cases ok; exact cached_source loader h r entity hit' _
          loaded := fun _ _ found => loaded_set found
          caches := fun _ _ _ found => Or.inl (cached_within h r entity found) }
      · next h' miss =>
        have left : (r.cached h entity).2 = h' := by rw [miss]
        subst left
        exact missed_loaded loader h r entity (fetch_loaded loader (r.cached h entity).2 r entity)

end

end Relationship

/-- Central manager for all relationship operations. -/
structure RelationshipManager (α : Type) where
  cache_manager : Nat
  relationships : Dict ElementType (Dict String (Relationship α)) := ∅

namespace RelationshipManager

/-- Register a relationship for a source type. -/
def register (m : RelationshipManager α) (source_type : ElementType) (config : RelationshipConfiguration) :
    RelationshipManager α :=
  { m with
    relationships := m.relationships.set source_type
      ((m.relationships.getD source_type ∅).set config.name { config := config, cache_manager := m.cache_manager }) }

/-- Get a registered relationship. -/
def get_relationship (m : RelationshipManager α) (entity_type : ElementType) (relationship_name : String) :
    Option (Relationship α) := (m.relationships.getD entity_type ∅).get? relationship_name

/-- A registered relationship has changed. -/
def put (m : RelationshipManager α) (entity_type : ElementType) (relationship_name : String) (r : Relationship α) :
    RelationshipManager α :=
  { m with
    relationships := m.relationships.set entity_type ((m.relationships.getD entity_type ∅).set relationship_name r) }

/-- Load a relationship for an entity. -/
def load_relationship (loader : RelationshipLoader α) (h : Heap α κ) (m : RelationshipManager α) (entity : Subject)
    (relationship_name : String) (force_reload : Bool) :
    Except RelationshipException (Data α) × RelationshipManager α × Heap α κ :=
  match m.get_relationship entity.type relationship_name with
  | none =>
    (.error (.RelationshipError ("Relationship '" ++ relationship_name ++ "' not found for type " ++ entity.type.name)), m, h)
  | some relationship =>
    let (related, relationship, h) := relationship.load loader h entity force_reload
    (related, m.put entity.type relationship_name relationship, h)

/-- Invalidate cached relationship data. -/
def invalidate_relationship (h : Heap α κ) (m : RelationshipManager α) (entity : Subject) (relationship_name : String) :
    RelationshipManager α × Heap α κ :=
  match m.get_relationship entity.type relationship_name with
  | none => (m, h)
  | some relationship =>
    let (relationship, h) := relationship.invalidate_cache h entity
    (m.put entity.type relationship_name relationship, h)

/-- Invalidate all cached relationship data for an entity: for an object, by its
    class. -/
def invalidate_entity (h : Heap α κ) (m : RelationshipManager α) (entity : Subject) : RelationshipManager α × Heap α κ :=
  (m.relationships.getD entity.type ∅).keys.foldl
    (fun state relationship_name => invalidate_relationship state.2 state.1 entity relationship_name) (m, h)

/-! ## What becomes of the registered relationships -/

theorem get_relationship_put (m : RelationshipManager α) (T U : ElementType) (name other : String) (r : Relationship α) :
    (m.put T name r).get_relationship U other = if T = U ∧ name = other then some r else m.get_relationship U other := by
  unfold put get_relationship Dict.getD
  by_cases type : T = U
  · subst type
    by_cases same : name = other
    · simp [same]
    · simp [same, Dict.get?_set_ne]
  · simp [type, Dict.get?_set_ne]

/-- What is registered after a relationship is put is that relationship, or was registered before. -/
theorem get_relationship_put_some {m : RelationshipManager α} {T U : ElementType} {name other : String} {r r' : Relationship α}
    (found : (m.put T name r).get_relationship U other = some r') :
    (T = U ∧ name = other ∧ r = r') ∨ m.get_relationship U other = some r' := by
  rw [get_relationship_put] at found
  split at found
  · next same => exact Or.inl ⟨same.1, same.2, Option.some.inj found⟩
  · exact Or.inr found

/-- A load finds no relationship, or it is a load of the relationship it finds. -/
theorem load_relationship_cases (loader : RelationshipLoader α) (h : Heap α κ) (m : RelationshipManager α) (entity : Subject)
    (name : String) (force_reload : Bool) :
    (∃ exception, m.get_relationship entity.type name = none ∧
        m.load_relationship loader h entity name force_reload = (.error exception, m, h)) ∨
      ∃ r outcome r' h', m.get_relationship entity.type name = some r ∧ Relationship.Loaded loader h r entity outcome r' h' ∧
        m.load_relationship loader h entity name force_reload = (outcome, m.put entity.type name r', h') := by
  unfold load_relationship
  cases registered : m.get_relationship entity.type name with
  | none => exact Or.inl ⟨_, rfl, rfl⟩
  | some r => exact Or.inr ⟨r, _, _, _, rfl, r.load_loaded loader h entity force_reload, rfl⟩

end RelationshipManager

end RevitPy
