import RevitPy.Freshness

/-!
# Asynchronous loads

A call of `load_async` joins the pending load of the same id, or starts one. A
pending load looks into the cache, waits for the loader, and writes the answer
back whenever it resumes. Invalidation does not know of pending loads.
-/

namespace RevitPy
variable {α κ : Type}

/-- How far a pending load has come. The loader reads at some moment between the
    request and the answer. -/
inductive LoadPhase (α : Type)
  | created
  | requested
  | answered (answer : Except String (Value α)) (read : Nat)

/-- A pending load: the task, and the calls that await it. -/
structure LoadingPromise (α : Type) where
  entity : Subject
  force_reload : Bool
  phase : LoadPhase α := .created
  awaiting : List Nat

/-- What a call has returned. -/
structure ReturnedLoad (α : Type) where
  call : Nat
  entity_id : Option ElementId
  outcome : Except RelationshipException (Data α)
  deriving DecidableEq

/-- A relationship with its pending loads. The calls are counted, and what they
    return is kept, which the code does not do. -/
structure AsyncRelationship (α κ : Type) where
  relationship : Relationship α
  heap : Heap α κ
  loading_promises : Dict (Option ElementId) (LoadingPromise α) := ∅
  calls : Nat := 0
  returned : List (ReturnedLoad α) := []

/-- A step of a caller, of a pending load, of its loader or of the clock. -/
inductive AsyncEvent
  | load (entity : Subject) (force_reload : Bool)
  | load_async (entity : Subject) (force_reload : Bool)
  | begin (entity_id : Option ElementId)
  | read (entity_id : Option ElementId)
  | resume (entity_id : Option ElementId)
  | invalidate_cache (entity : Subject)
  | elapse (microseconds : Nat)

namespace AsyncRelationship
variable (loader : RelationshipLoader α) (s : AsyncRelationship α κ)

/-- A call returns at once. -/
def answer (entity_id : Option ElementId) (outcome : Except RelationshipException (Data α)) : AsyncRelationship α κ :=
  { s with
    calls := s.calls + 1
    returned := s.returned ++ [⟨s.calls, entity_id, outcome⟩] }

/-- `load(entity, force_reload)`. -/
def load (entity : Subject) (force_reload : Bool) : AsyncRelationship α κ :=
  let (outcome, relationship, heap) := s.relationship.load loader s.heap entity force_reload
  { s with
    relationship := relationship
    heap := heap }.answer entity.entity_id outcome

/-- `load_async(entity, force_reload)`, up to the first suspension. -/
def load_async (entity : Subject) (force_reload : Bool) : AsyncRelationship α κ :=
  let entity_id := entity.entity_id
  match s.loading_promises.get? entity_id with
  | some promise =>
    { s with
      calls := s.calls + 1
      loading_promises := s.loading_promises.set entity_id { promise with awaiting := promise.awaiting ++ [s.calls] } }
  | none =>
    match if force_reload then none else s.relationship.loaded_entities.get? entity_id with
    | some related => s.answer entity_id (.ok related)
    | none =>
      { s with
        calls := s.calls + 1
        loading_promises := s.loading_promises.set entity_id { entity, force_reload, awaiting := [s.calls] } }

/-- A pending load is over, and the calls that await it return. -/
def finish (entity_id : Option ElementId) (promise : LoadingPromise α) (outcome : Except RelationshipException (Data α)) :
    AsyncRelationship α κ :=
  { s with
    loading_promises := s.loading_promises.erase entity_id
    returned := s.returned ++ promise.awaiting.map fun call => ⟨call, entity_id, outcome⟩ }

/-- Keep loaded data in memory. -/
def keep (entity_id : Option ElementId) (related : Data α) : AsyncRelationship α κ :=
  { s with relationship :=
      { s.relationship with loaded_entities := s.relationship.loaded_entities.set entity_id related } }

def set_phase (entity_id : Option ElementId) (promise : LoadingPromise α) (phase : LoadPhase α) : AsyncRelationship α κ :=
  { s with loading_promises := s.loading_promises.set entity_id { promise with phase := phase } }

/-- The task runs for the first time: it answers from the cache, or asks the loader. -/
def begin (entity_id : Option ElementId) (promise : LoadingPromise α) : AsyncRelationship α κ :=
  if promise.force_reload then s.set_phase entity_id promise .requested
  else
    let (cached_result, heap) := s.relationship.cached s.heap promise.entity
    match cached_result with
    | some related => ({ s with heap := heap }.keep entity_id related).finish entity_id promise (.ok related)
    | none => { s with heap := heap }.set_phase entity_id promise .requested

/-- The loader reads. -/
def read (entity_id : Option ElementId) (promise : LoadingPromise α) : AsyncRelationship α κ :=
  let config := s.relationship.config
  { s with heap := { s.heap with reads := s.heap.reads + 1 } }.set_phase entity_id promise
    (.answered (loader.load_relationship s.heap.reads promise.entity config.name config.load_strategy) s.heap.reads)

/-- The task resumes with the answer of the loader. -/
def resume (entity_id : Option ElementId) (promise : LoadingPromise α) (answer : Except String (Value α)) (read : Nat) :
    AsyncRelationship α κ :=
  let r := s.relationship
  match answer with
  | .error _ =>
    s.finish entity_id promise (.error (.RelationshipError ("Failed to load relationship " ++ r.config.name ++ " asynchronously")))
  | .ok answer =>
    let related : Data α := ⟨Relationship.collect loader.truthy r.config.relationship_type answer, read⟩
    let heap := if r.should_use_cache promise.entity then
        s.heap.write_cache r.cache_manager
          ((s.heap.caches.read r.cache_manager).set s.heap.clock (r.get_cache_key promise.entity) related none [])
      else s.heap
    ({ s with heap := heap }.keep entity_id related).finish entity_id promise (.ok related)

/-- `invalidate_cache(entity)`. -/
def invalidate_cache (entity : Subject) : AsyncRelationship α κ :=
  let (relationship, heap) := s.relationship.invalidate_cache s.heap entity
  { s with
    relationship := relationship
    heap := heap }

/-- One event; nothing happens where there is no pending load of that id at that
    point. -/
def step : AsyncEvent → AsyncRelationship α κ
  | .load entity force_reload => s.load loader entity force_reload
  | .load_async entity force_reload => s.load_async entity force_reload
  | .begin entity_id => match s.loading_promises.get? entity_id with
    | some promise => match promise.phase with
      | .created => s.begin entity_id promise
      | _ => s
    | none => s
  | .read entity_id => match s.loading_promises.get? entity_id with
    | some promise => match promise.phase with
      | .requested => s.read loader entity_id promise
      | _ => s
    | none => s
  | .resume entity_id => match s.loading_promises.get? entity_id with
    | some promise => match promise.phase with
      | .answered answer read => s.resume loader entity_id promise answer read
      | _ => s
    | none => s
  | .invalidate_cache entity => s.invalidate_cache entity
  | .elapse microseconds => { s with heap := { s.heap with clock := s.heap.clock + microseconds } }

def run (events : List AsyncEvent) : AsyncRelationship α κ := events.foldl (fun s event => s.step loader event) s

/-! ## What an invalidation is safe from -/

/-- Data for one id can be met under the other: the ids are the same, or the cache
    keys are, where both use the cache. -/
def Touches (r : Relationship α) (id other : Option ElementId) : Prop :=
  id = other ∨ r.config.cache_enabled = true ∧ id.isSome = true ∧ other.isSome = true ∧
    (r.cache_key id).str = (r.cache_key other).str

/-- No load is pending whose answer could be met under an id. -/
def Quiet (s : AsyncRelationship α κ) (entity_id : Option ElementId) : Prop :=
  ∀ id promise, s.loading_promises.get? id = some promise → ¬Touches s.relationship id entity_id

/-- What calls from number `first` on are answered for the id of `e` was read at `N`
    or later, now and in the future. -/
structure Renewed (r₀ : Relationship α) (e : Subject) (N first : Nat) (s : AsyncRelationship α κ) : Prop where
  config : s.relationship.config = r₀.config
  cache_manager : s.relationship.cache_manager = r₀.cache_manager
  since : N ≤ s.heap.reads
  loaded : ∀ related, s.relationship.loaded_entities.get? e.entity_id = some related → N ≤ related.read
  cached : r₀.should_use_cache e = true → s.heap.Fresh N r₀.cache_manager (r₀.get_cache_key e).str
  own : ∀ id promise, s.loading_promises.get? id = some promise → promise.entity.entity_id = id
  pending : ∀ id promise, s.loading_promises.get? id = some promise → Touches r₀ id e.entity_id →
    ∀ answer read, promise.phase = .answered answer read → N ≤ read
  returned : ∀ given ∈ s.returned, first ≤ given.call → given.entity_id = e.entity_id →
    ∀ related, given.outcome = .ok related → N ≤ related.read

variable {loader} {s} {r₀ : Relationship α} {e : Subject} {N first : Nat}

theorem Renewed.answer (renewed : Renewed r₀ e N first s) {entity_id : Option ElementId}
    {outcome : Except RelationshipException (Data α)}
    (fresh : entity_id = e.entity_id → ∀ related, outcome = .ok related → N ≤ related.read) :
    Renewed r₀ e N first (s.answer entity_id outcome) :=
  { renewed with
    returned := fun given member later same related ok => by
      rcases List.mem_append.mp member with old | new
      · exact renewed.returned given old later same related ok
      · obtain rfl := List.mem_singleton.mp new
        exact fresh same related ok }

/-- A promise is put in the place of the one for its id. -/
theorem Renewed.promise (renewed : Renewed r₀ e N first s) {entity_id : Option ElementId} (promise : LoadingPromise α)
    (own : promise.entity.entity_id = entity_id) (calls : Nat)
    (fresh : Touches r₀ entity_id e.entity_id → ∀ answer read, promise.phase = .answered answer read → N ≤ read) :
    Renewed r₀ e N first
      { s with
        calls := calls
        loading_promises := s.loading_promises.set entity_id promise } :=
  { renewed with
    own := fun id other found => by
      rw [Dict.get?_set] at found
      split at found
      · next same => exact Option.some.inj found ▸ own.trans same
      · exact renewed.own id other found
    pending := fun id other found touches answer read phase => by
      rw [Dict.get?_set] at found
      split at found
      · next same =>
        obtain rfl := Option.some.inj found
        exact fresh (same ▸ touches) answer read phase
      · exact renewed.pending id other found touches answer read phase }

theorem Renewed.finish (renewed : Renewed r₀ e N first s) {entity_id : Option ElementId} (promise : LoadingPromise α)
    {outcome : Except RelationshipException (Data α)}
    (fresh : entity_id = e.entity_id → ∀ related, outcome = .ok related → N ≤ related.read) :
    Renewed r₀ e N first (s.finish entity_id promise outcome) :=
  { renewed with
    own := fun id other found => by
      simp only [AsyncRelationship.finish, Dict.get?_erase] at found
      split at found
      · cases found
      · exact renewed.own id other found
    pending := fun id other found touches answer read phase => by
      simp only [AsyncRelationship.finish, Dict.get?_erase] at found
      split at found
      · cases found
      · exact renewed.pending id other found touches answer read phase
    returned := fun given member later same related ok => by
      rcases List.mem_append.mp member with old | new
      · exact renewed.returned given old later same related ok
      · obtain ⟨call, -, rfl⟩ := List.mem_map.mp new
        exact fresh same related ok }

theorem Renewed.keep (renewed : Renewed r₀ e N first s) {entity_id : Option ElementId} {related : Data α}
    (fresh : entity_id = e.entity_id → N ≤ related.read) : Renewed r₀ e N first (s.keep entity_id related) :=
  { renewed with
    loaded := fun other found => by
      simp only [AsyncRelationship.keep, Dict.get?_set] at found
      split at found
      · next same => exact Option.some.inj found ▸ fresh same
      · exact renewed.loaded other found }

/-- The heap is advanced by a step of another part. -/
theorem Renewed.advance (renewed : Renewed r₀ e N first s) {heap : Heap α κ} (advances : s.heap.Advances heap) :
    Renewed r₀ e N first { s with heap := heap } :=
  { renewed with
    since := Nat.le_trans renewed.since advances.reads
    cached := fun used => (renewed.cached used).advance renewed.since advances }

/-- An answer that a pending load writes into the cache. -/
theorem Renewed.write (renewed : Renewed r₀ e N first s) {entity : Subject} {related : Data α}
    (used : s.relationship.should_use_cache entity = true) (fresh : Touches r₀ entity.entity_id e.entity_id → N ≤ related.read) :
    Renewed r₀ e N first
      { s with
        heap := s.heap.write_cache s.relationship.cache_manager
          ((s.heap.caches.read s.relationship.cache_manager).set s.heap.clock (s.relationship.get_cache_key entity) related
            none []) } :=
  { renewed with
    cached := fun used' entry found live => by
      rw [← renewed.cache_manager] at found
      simp only [Heap.write_cache, Store.read_write_self] at found
      rcases CacheManager.lookup_set found with ⟨key, stored⟩ | ⟨old, found', agree⟩
      · rw [stored]
        apply fresh
        have enabled := Bool.and_eq_true_iff.mp used
        have enabled' := Bool.and_eq_true_iff.mp used'
        refine Or.inr ⟨enabled'.1, enabled.2, enabled'.2, ?_⟩
        have same : s.relationship.get_cache_key entity = r₀.cache_key entity.entity_id := by
          rw [Relationship.get_cache_key, Relationship.cache_key, renewed.config]
          rfl
        rw [← same, ← key]
        rfl
      · rw [renewed.cache_manager] at found'
        exact agree.1 ▸ renewed.cached used' old found' (agree.is_expired s.heap.clock ▸ live) }

/-- What is found for `e` now was read at `N` or later. -/
theorem Renewed.source (renewed : Renewed r₀ e N first s) {entity : Subject} (same : entity.entity_id = e.entity_id)
    {related : Data α} {h' : Heap α κ} (source : Relationship.Source loader s.heap s.relationship entity related h') :
    N ≤ related.read := by
  cases source with
  | kept found => exact renewed.loaded related (same ▸ found)
  | cached used entry found live equal =>
    have used' : r₀.should_use_cache e = true := by
      rw [Relationship.should_use_cache, ← same, ← renewed.config]
      exact used
    have key : s.relationship.get_cache_key entity = r₀.get_cache_key e := by
      rw [Relationship.get_cache_key, Relationship.get_cache_key, Relationship.cache_key, Relationship.cache_key,
        renewed.config, same]
    rw [renewed.cache_manager, key] at found
    exact equal ▸ renewed.cached used' entry found live
  | fetched fetched =>
    obtain ⟨-, answer, -, rfl⟩ := fetched
    exact renewed.since

/-! ## Steps -/

theorem Renewed.load (renewed : Renewed r₀ e N first s) (entity : Subject) (force_reload : Bool) :
    Renewed r₀ e N first (s.load loader entity force_reload) := by
  have loads := s.relationship.load_loaded loader s.heap entity force_reload
  have advanced := renewed.advance loads.recaches.toAdvances
  have loaded : Renewed r₀ e N first
      { s with
        relationship := (s.relationship.load loader s.heap entity force_reload).2.1
        heap := (s.relationship.load loader s.heap entity force_reload).2.2 } :=
    { advanced with
      config := loads.config.trans renewed.config
      cache_manager := loads.cache_manager.trans renewed.cache_manager
      loaded := fun related found => by
        rcases loads.loaded _ related found with old | ⟨same, ok⟩
        · exact renewed.loaded related old
        · exact renewed.source same.symm (loads.source related ok) }
  exact loaded.answer fun same related ok => renewed.source same (loads.source related ok)

theorem Renewed.load_async (renewed : Renewed r₀ e N first s) (entity : Subject) (force_reload : Bool) :
    Renewed r₀ e N first (s.load_async entity force_reload) := by
  unfold AsyncRelationship.load_async
  simp only
  split
  · next promise found =>
    exact renewed.promise { promise with awaiting := promise.awaiting ++ [s.calls] } (renewed.own _ promise found) _ fun touches =>
      renewed.pending _ promise found touches
  · split
    · next related kept =>
      split at kept
      · cases kept
      · exact renewed.answer fun same other ok => by
          obtain rfl := Except.ok.inj ok
          exact renewed.loaded _ (same ▸ kept)
    · exact renewed.promise { entity, force_reload, awaiting := [s.calls] } rfl _ fun _ answer read phase => by cases phase

theorem Renewed.set_phase (renewed : Renewed r₀ e N first s) {id : Option ElementId} {promise : LoadingPromise α}
    (found : s.loading_promises.get? id = some promise) {phase : LoadPhase α}
    (fresh : Touches r₀ id e.entity_id → ∀ answer read, phase = .answered answer read → N ≤ read) :
    Renewed r₀ e N first (s.set_phase id promise phase) :=
  renewed.promise { promise with phase := phase } (renewed.own id promise found) _ fresh

theorem Renewed.begin (loader : RelationshipLoader α) (renewed : Renewed r₀ e N first s) {id : Option ElementId} {promise : LoadingPromise α}
    (found : s.loading_promises.get? id = some promise) : Renewed r₀ e N first (s.begin id promise) := by
  have own := renewed.own id promise found
  unfold AsyncRelationship.begin
  split
  · exact renewed.set_phase found fun _ answer read phase => by cases phase
  · have advances : s.heap.Advances (s.relationship.cached s.heap promise.entity).2 :=
      ⟨Nat.le_of_eq (Relationship.clock_cached ..).symm, Nat.le_of_eq (Relationship.reads_cached ..).symm,
        fun _ _ _ kept => Or.inl (Relationship.cached_within _ _ _ kept)⟩
    have advanced := renewed.advance advances
    simp only
    split
    · next related hit =>
      have fresh : id = e.entity_id → N ≤ related.read := fun same =>
        renewed.source (own.trans same) (Relationship.cached_source loader _ _ _ hit s.heap)
      exact (advanced.keep fresh).finish promise fun same other ok => by
        obtain rfl := Except.ok.inj ok
        exact fresh same
    · exact advanced.set_phase found fun _ answer read phase => by cases phase

theorem Renewed.read (renewed : Renewed r₀ e N first s) {id : Option ElementId} {promise : LoadingPromise α}
    (found : s.loading_promises.get? id = some promise) : Renewed r₀ e N first (s.read loader id promise) := by
  refine (renewed.advance s.heap.recaches_read.toAdvances).set_phase found fun _ answer read phase => ?_
  cases phase
  exact renewed.since

theorem Renewed.resume (renewed : Renewed r₀ e N first s) {id : Option ElementId} {promise : LoadingPromise α}
    (found : s.loading_promises.get? id = some promise) {answer : Except String (Value α)} {read : Nat}
    (phase : promise.phase = .answered answer read) : Renewed r₀ e N first (s.resume loader id promise answer read) := by
  have fresh (touches : Touches r₀ id e.entity_id) : N ≤ read := renewed.pending id promise found touches answer read phase
  unfold AsyncRelationship.resume
  cases answer with
  | error message => exact renewed.finish promise fun _ _ ok => by cases ok
  | ok answer =>
    have written : Renewed r₀ e N first
        { s with heap := if s.relationship.should_use_cache promise.entity then
            s.heap.write_cache s.relationship.cache_manager ((s.heap.caches.read s.relationship.cache_manager).set s.heap.clock
              (s.relationship.get_cache_key promise.entity)
              ⟨Relationship.collect loader.truthy s.relationship.config.relationship_type answer, read⟩ none [])
          else s.heap } := by
      split
      · next used => exact renewed.write used fun touches => fresh (renewed.own id promise found ▸ touches)
      · exact renewed
    exact (written.keep fun same => fresh (Or.inl same)).finish promise fun same other ok => by
      obtain rfl := Except.ok.inj ok
      exact fresh (Or.inl same)

theorem Renewed.invalidate (renewed : Renewed r₀ e N first s) (entity : Subject) :
    Renewed r₀ e N first (s.invalidate_cache entity) :=
  { renewed.advance (s.relationship.recaches_invalidate_cache s.heap entity).toAdvances with
    config := renewed.config
    cache_manager := renewed.cache_manager
    loaded := fun related found => by
      simp only [AsyncRelationship.invalidate_cache, Relationship.invalidate_cache, Dict.get?_erase] at found
      split at found
      · cases found
      · exact renewed.loaded related found }

theorem Renewed.step (renewed : Renewed r₀ e N first s) (event : AsyncEvent) : Renewed r₀ e N first (s.step loader event) := by
  cases event with
  | load entity force_reload => exact renewed.load entity force_reload
  | load_async entity force_reload => exact renewed.load_async entity force_reload
  | begin id =>
    simp only [AsyncRelationship.step]
    split
    · next promise found =>
      split
      · exact renewed.begin loader found
      · exact renewed
    · exact renewed
  | read id =>
    simp only [AsyncRelationship.step]
    split
    · next promise found =>
      split
      · exact renewed.read found
      · exact renewed
    · exact renewed
  | resume id =>
    simp only [AsyncRelationship.step]
    split
    · next promise found =>
      split
      · next answer read phase => exact renewed.resume found phase
      · exact renewed
    · exact renewed
  | invalidate_cache entity => exact renewed.invalidate entity
  | elapse microseconds => exact renewed.advance (s.heap.recaches_elapse microseconds).toAdvances

theorem Renewed.run (renewed : Renewed r₀ e N first s) (events : List AsyncEvent) :
    Renewed r₀ e N first (s.run loader events) :=
  List.foldlRecOn (motive := Renewed r₀ e N first) events _ renewed fun _ kept event _ => kept.step event

/-! ## The numbers of calls -/

/-- Only calls that were made wait or have returned. -/
structure Counted (s : AsyncRelationship α κ) : Prop where
  returned : ∀ given ∈ s.returned, given.call < s.calls
  awaiting : ∀ id promise, s.loading_promises.get? id = some promise → ∀ call ∈ promise.awaiting, call < s.calls

theorem Counted.answer {t : AsyncRelationship α κ} (counted : Counted s) (returned : t.returned = s.returned)
    (calls : t.calls = s.calls) (promises : t.loading_promises = s.loading_promises) (id : Option ElementId)
    (outcome : Except RelationshipException (Data α)) : Counted (t.answer id outcome) where
  returned given member := by
    simp only [AsyncRelationship.answer, returned, calls, List.mem_append, List.mem_singleton] at member ⊢
    rcases member with old | rfl
    · exact Nat.lt_succ_of_lt (counted.returned given old)
    · exact Nat.lt_succ_self _
  awaiting id promise found call member := by
    simp only [AsyncRelationship.answer, promises, calls] at found ⊢
    exact Nat.lt_succ_of_lt (counted.awaiting id promise found call member)

/-- A promise is put in the place of the one for its id. -/
theorem Counted.promise {t : AsyncRelationship α κ} (counted : Counted s) (returned : t.returned = s.returned)
    (calls : s.calls ≤ t.calls) {id : Option ElementId} {promise : LoadingPromise α}
    (promises : t.loading_promises = s.loading_promises.set id promise) (awaiting : ∀ call ∈ promise.awaiting, call < t.calls) :
    Counted t where
  returned given member := Nat.lt_of_lt_of_le (counted.returned given (returned ▸ member)) calls
  awaiting other old found call member := by
    rw [promises, Dict.get?_set] at found
    split at found
    · obtain rfl := Option.some.inj found
      exact awaiting call member
    · exact Nat.lt_of_lt_of_le (counted.awaiting other old found call member) calls

theorem Counted.finish {t : AsyncRelationship α κ} (counted : Counted s) (returned : t.returned = s.returned)
    (calls : t.calls = s.calls) (promises : t.loading_promises = s.loading_promises) {id : Option ElementId}
    {promise : LoadingPromise α} (found : s.loading_promises.get? id = some promise)
    (outcome : Except RelationshipException (Data α)) : Counted (t.finish id promise outcome) where
  returned given member := by
    simp only [AsyncRelationship.finish, returned, calls, List.mem_append, List.mem_map] at member ⊢
    rcases member with old | ⟨call, waiting, rfl⟩
    · exact counted.returned given old
    · exact counted.awaiting id promise found call waiting
  awaiting other old found call member := by
    simp only [AsyncRelationship.finish, promises, calls, Dict.get?_erase] at found ⊢
    split at found
    · cases found
    · exact counted.awaiting other old found call member

theorem Counted.load_async (counted : Counted s) (entity : Subject) (force_reload : Bool) :
    Counted (s.load_async entity force_reload) := by
  unfold AsyncRelationship.load_async
  simp only
  split
  · next promise found =>
    refine counted.promise rfl (Nat.le_succ _) rfl fun call member => ?_
    rcases List.mem_append.mp member with old | new
    · exact Nat.lt_succ_of_lt (counted.awaiting _ promise found call old)
    · exact List.mem_singleton.mp new ▸ Nat.lt_succ_self _
  · split
    · exact counted.answer rfl rfl rfl _ _
    · exact counted.promise rfl (Nat.le_succ _) rfl fun call new => List.mem_singleton.mp new ▸ Nat.lt_succ_self _

theorem Counted.begin (counted : Counted s) {id : Option ElementId} {promise : LoadingPromise α}
    (found : s.loading_promises.get? id = some promise) : Counted (s.begin id promise) := by
  have awaiting := counted.awaiting id promise found
  unfold AsyncRelationship.begin
  split
  · exact counted.promise rfl (Nat.le_refl _) rfl awaiting
  · simp only
    split
    · refine counted.finish ?_ ?_ ?_ found _ <;> rfl
    · exact counted.promise rfl (Nat.le_refl _) rfl awaiting

theorem Counted.resume (counted : Counted s) {id : Option ElementId} {promise : LoadingPromise α}
    (found : s.loading_promises.get? id = some promise) (answer : Except String (Value α)) (read : Nat) :
    Counted (s.resume loader id promise answer read) := by
  unfold AsyncRelationship.resume
  cases answer with
  | error message => exact counted.finish rfl rfl rfl found _
  | ok answer => refine counted.finish ?_ ?_ ?_ found _ <;> rfl

theorem Counted.step (counted : Counted s) (event : AsyncEvent) : Counted (s.step loader event) := by
  cases event with
  | load entity force_reload => refine counted.answer ?_ ?_ ?_ _ _ <;> rfl
  | load_async entity force_reload => exact counted.load_async entity force_reload
  | begin id =>
    simp only [AsyncRelationship.step]
    split
    · next promise found =>
      split
      · exact counted.begin found
      · exact counted
    · exact counted
  | read id =>
    simp only [AsyncRelationship.step]
    split
    · next promise found =>
      split
      · exact counted.promise rfl (Nat.le_refl _) rfl (counted.awaiting id promise found)
      · exact counted
    · exact counted
  | resume id =>
    simp only [AsyncRelationship.step]
    split
    · next promise found =>
      split
      · next answer read phase => exact counted.resume found answer read
      · exact counted
    · exact counted
  | invalidate_cache entity => exact ⟨counted.returned, counted.awaiting⟩
  | elapse microseconds => exact ⟨counted.returned, counted.awaiting⟩

theorem Counted.run (counted : Counted s) (events : List AsyncEvent) : Counted (s.run loader events) :=
  List.foldlRecOn (motive := Counted) events _ counted fun _ kept event _ => kept.step event

/-! ## Runs -/

/-- A relationship with no load pending. -/
def start (r : Relationship α) (h : Heap α κ) : AsyncRelationship α κ := { relationship := r, heap := h }

/-- Every pending load is kept under the id of its entity. -/
theorem own_run (r : Relationship α) (h : Heap α κ) (e : Subject) (events : List AsyncEvent) :
    ∀ id promise, ((start r h).run loader events).loading_promises.get? id = some promise → promise.entity.entity_id = id := by
  have begun : Renewed r e 0 0 (start r h) :=
    { config := rfl
      cache_manager := rfl
      since := Nat.zero_le _
      loaded := fun _ _ => Nat.zero_le _
      cached := fun _ _ _ _ => Nat.zero_le _
      own := fun _ _ found => by cases found
      pending := fun _ _ found => by cases found
      returned := fun _ member => by cases member }
  exact (begun.run events).own

/-- After an invalidation, the calls that start later return what is read later, if
    no load was pending whose answer could be met under that id. -/
theorem invalidation_beats_loads (loader : RelationshipLoader α) (r : Relationship α) (h : Heap α κ) (before : List AsyncEvent)
    (e : Subject) (quiet : Quiet ((start r h).run loader before) e.entity_id) (after : List AsyncEvent) :
    ∀ given ∈ ((((start r h).run loader before).invalidate_cache e).run loader after).returned,
      ((start r h).run loader before).calls ≤ given.call → given.entity_id = e.entity_id →
        ∀ related, given.outcome = .ok related → ((start r h).run loader before).heap.reads ≤ related.read := by
  have counted : Counted ((start r h).run loader before) :=
    Counted.run ⟨fun _ member => (List.not_mem_nil member).elim, fun _ _ found => by cases found⟩ before
  have own : ∀ id promise, ((start r h).run loader before).loading_promises.get? id = some promise →
      promise.entity.entity_id = id := own_run r h e before
  generalize (start r h).run loader before = s at quiet counted own ⊢
  have invalidated : Renewed s.relationship e s.heap.reads s.calls (s.invalidate_cache e) :=
    { config := rfl
      cache_manager := rfl
      since := (s.relationship.recaches_invalidate_cache s.heap e).reads
      loaded := fun related found => by
        simp only [AsyncRelationship.invalidate_cache, Relationship.invalidate_cache, Dict.get?_erase_self] at found
        cases found
      cached := fun used entry found _ => by
        simp only [AsyncRelationship.invalidate_cache, Relationship.invalidate_cache, used, if_true, Heap.write_cache,
          Store.read_write_self, CacheManager.invalidate, CacheManager.lookup_delete] at found
        cases found
      own := own
      pending := fun id promise found touches => absurd touches (quiet id promise found)
      returned := fun given member later => absurd (counted.returned given member) (Nat.not_lt.mpr later) }
  exact (invalidated.run after).returned

/-! ## A late answer -/

/-- Every read of the loader answers its own number. -/
def numbered : RelationshipLoader Nat := ⟨fun read _ _ _ => .ok (.list [read]), fun _ => true⟩

def hosted : Relationship Nat := { config := ⟨"hosted", .ONE_TO_MANY, ⟨3, "Window"⟩, .LAZY, true⟩, cache_manager := 0 }

def host : Subject := { address := 5, type := ⟨0, "Wall"⟩, id := some (some (.int 1)) }

/-- The loads of the host that are pending when the loader has read. -/
def reading : List AsyncEvent := [.load_async host false, .begin host.entity_id, .read host.entity_id]

/-- The same, and the load has resumed. -/
def resumed : List AsyncEvent := reading ++ [.resume host.entity_id]

theorem host_renewed :
    ⟨1, host.entity_id, .ok ⟨.list [1], 1⟩⟩ ∈ ((((start hosted (Heap.init : Heap Nat Nat)).run numbered
        resumed).invalidate_cache host).run numbered [.load host false]).returned ∧
      (1 : Nat) ≤ (⟨.list [1], 1⟩ : Data Nat).read := by
  have quiet : Quiet ((start hosted (Heap.init : Heap Nat Nat)).run numbered resumed) host.entity_id := by
    have none_pending : ((start hosted (Heap.init : Heap Nat Nat)).run numbered resumed).loading_promises.keys = [] := by
      decide +kernel
    intro id promise found
    have member := Dict.mem_keys_of_get? found
    rw [none_pending] at member
    cases member
  have given : ⟨1, host.entity_id, .ok ⟨.list [1], 1⟩⟩ ∈ ((((start hosted (Heap.init : Heap Nat Nat)).run numbered
      resumed).invalidate_cache host).run numbered [.load host false]).returned := by decide +kernel
  have calls : ((start hosted (Heap.init : Heap Nat Nat)).run numbered resumed).calls = 1 := by decide +kernel
  have reads : ((start hosted (Heap.init : Heap Nat Nat)).run numbered resumed).heap.reads = 1 := by decide +kernel
  have renewed := invalidation_beats_loads numbered hosted Heap.init resumed host quiet [.load host false] _ given
  rw [calls, reads] at renewed
  exact ⟨given, renewed (Nat.le_refl 1) rfl _ rfl⟩

/-- The pending load writes its answer back after the invalidation, and a later load
    returns it. -/
theorem late_answer_returned :
    ¬∀ (loader : RelationshipLoader Nat) (r : Relationship Nat) (h : Heap Nat Nat) (before : List AsyncEvent) (e : Subject)
        (after : List AsyncEvent),
      ∀ given ∈ ((((start r h).run loader before).invalidate_cache e).run loader after).returned,
        ((start r h).run loader before).calls ≤ given.call → given.entity_id = e.entity_id →
          ∀ related, given.outcome = .ok related → ((start r h).run loader before).heap.reads ≤ related.read := by
  intro beats
  have given : ⟨1, host.entity_id, .ok ⟨.list [0], 0⟩⟩ ∈ ((((start hosted (Heap.init : Heap Nat Nat)).run numbered
      reading).invalidate_cache host).run numbered [.resume host.entity_id, .load host false]).returned := by decide +kernel
  have calls : ((start hosted (Heap.init : Heap Nat Nat)).run numbered reading).calls = 1 := by decide +kernel
  have reads : ((start hosted (Heap.init : Heap Nat Nat)).run numbered reading).heap.reads = 1 := by decide +kernel
  have old := beats numbered hosted Heap.init reading host [.resume host.entity_id, .load host false] _ given
  rw [calls, reads] at old
  exact absurd (old (Nat.le_refl 1) rfl _ rfl) (by decide)

end AsyncRelationship

end RevitPy
