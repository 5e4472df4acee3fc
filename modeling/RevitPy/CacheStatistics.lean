import RevitPy.Invalidation
import RevitPy.PatternInvalidation
import RevitPy.Runs

/-!
# Statistics of the cache manager

The manager counts hits, misses and invalidations, and tells its callbacks which
keys were invalidated. The counts are compared with what the calls did to the
entries: every lookup is a hit or a miss, every entry that a call of the manager
took away is counted, and evictions are not. Clearing starts the counts anew.
-/

namespace RevitPy

/-- Statistics for cache performance monitoring. -/
structure CacheStatistics where
  hits : Nat := 0
  misses : Nat := 0
  evictions : Nat := 0
  invalidations : Nat := 0
  memory_usage : Int := 0
  deriving DecidableEq

namespace CacheStatistics

def record_hit (s : CacheStatistics) : CacheStatistics := { s with hits := s.hits + 1 }
def record_miss (s : CacheStatistics) : CacheStatistics := { s with misses := s.misses + 1 }
def record_eviction (s : CacheStatistics) : CacheStatistics := { s with evictions := s.evictions + 1 }
def record_invalidation (s : CacheStatistics) : CacheStatistics := { s with invalidations := s.invalidations + 1 }
def update_memory_usage (s : CacheStatistics) (delta : Int) : CacheStatistics := { s with memory_usage := s.memory_usage + delta }

/-- Reset all statistics. -/
def reset (_ : CacheStatistics) : CacheStatistics := {}

end CacheStatistics

/-- The manager with its statistics, where they are enabled, and its callbacks. What
    the callbacks were called with is kept in order. -/
structure MonitoredCache (δ : Type) where
  manager : CacheManager δ
  statistics : Option CacheStatistics
  invalidation_callbacks : List Nat := []
  notified : List (Nat × CacheKey) := []

namespace MonitoredCache
variable {δ : Type}

/-- `CacheManager(config)`. -/
def new (config : CacheConfiguration) (enable_statistics : Bool) (last_cleanup : Nat) : MonitoredCache δ where
  manager := { backend := { config, last_cleanup } }
  statistics := if enable_statistics then some {} else none

def size (m : MonitoredCache δ) : Nat := m.manager.size

/-- Get cached value by key. -/
def get (m : MonitoredCache δ) (now : Nat) (key : CacheKey) : Option δ × MonitoredCache δ :=
  let (value, manager) := m.manager.get now key
  (value,
    { m with
      manager := manager
      statistics := m.statistics.map (if value.isSome then CacheStatistics.record_hit else CacheStatistics.record_miss) })

/-- Check if key exists in cache, with a value other than `None`. -/
def contains (m : MonitoredCache δ) (is_none : δ → Bool) (now : Nat) (key : CacheKey) : Bool × MonitoredCache δ :=
  let (value, m) := m.get now key
  (value.any fun data => !is_none data, m)

/-- Set cached value with optional TTL and dependencies. -/
def set (m : MonitoredCache δ) (now : Nat) (key : CacheKey) (value : δ) (ttl_seconds : Option Int)
    (dependencies : List String) : MonitoredCache δ :=
  { m with manager := m.manager.set now key value ttl_seconds dependencies }

/-- Count one invalidation. -/
def record_invalidation (m : MonitoredCache δ) : MonitoredCache δ :=
  { m with statistics := m.statistics.map CacheStatistics.record_invalidation }

/-- Tell every callback, in the order in which they were added. -/
def notify (m : MonitoredCache δ) (key : CacheKey) : MonitoredCache δ :=
  { m with notified := m.notified ++ m.invalidation_callbacks.map fun callback => (callback, key) }

/-- Delete cached value by key. -/
def delete (m : MonitoredCache δ) (key : CacheKey) : Bool × MonitoredCache δ :=
  let (success, manager) := m.manager.delete key
  let m := { m with manager := manager }
  (success, if success then m.record_invalidation.notify key else m)

/-- Invalidate cached value (alias for delete). -/
def invalidate (m : MonitoredCache δ) (key : CacheKey) : Bool × MonitoredCache δ := m.delete key

/-- Invalidate all cached values that depend on the given dependency. -/
def invalidate_by_dependency (m : MonitoredCache δ) (dependency : String) : Nat × MonitoredCache δ :=
  let (invalidated_keys, backend) := m.manager.backend.invalidate_dependencies dependency
  let m := { m with manager := ⟨backend⟩ }
  let m := invalidated_keys.foldl (fun m _ => m.record_invalidation) m
  (invalidated_keys.length, invalidated_keys.foldl (fun m key_str => m.notify { entity_type := type_text key_str }) m)

/-- Invalidate cached values matching a pattern. -/
def invalidate_by_pattern (m : MonitoredCache δ) (pattern : String) : Nat × MonitoredCache δ :=
  let keys_to_delete := m.manager.backend.keys.filter fun key => decide (pattern.toList <:+: key.str.toList)
  (keys_to_delete.length, keys_to_delete.foldl (fun m key => (m.delete key).2) m)

/-- Clear all cached values. -/
def clear (m : MonitoredCache δ) : MonitoredCache δ :=
  { m with manager := m.manager.clear, statistics := m.statistics.map CacheStatistics.reset }

def add_invalidation_callback (m : MonitoredCache δ) (callback : Nat) : MonitoredCache δ :=
  { m with invalidation_callbacks := m.invalidation_callbacks ++ [callback] }

def remove_invalidation_callback (m : MonitoredCache δ) (callback : Nat) : MonitoredCache δ :=
  { m with invalidation_callbacks := m.invalidation_callbacks.erase callback }

end MonitoredCache

/-! ## Calls -/

inductive ManagerCall (δ : Type)
  | get (now : Nat) (key : CacheKey)
  | contains (is_none : δ → Bool) (now : Nat) (key : CacheKey)
  | set (now : Nat) (key : CacheKey) (value : δ) (ttl_seconds : Option Int) (dependencies : List String)
  | delete (key : CacheKey)
  | invalidate (key : CacheKey)
  | invalidate_by_dependency (dependency : String)
  | invalidate_by_pattern (pattern : String)
  | clear
  | add_invalidation_callback (callback : Nat)
  | remove_invalidation_callback (callback : Nat)

namespace MonitoredCache
variable {δ : Type}

def step (m : MonitoredCache δ) : ManagerCall δ → MonitoredCache δ
  | .get now key => (m.get now key).2
  | .contains is_none now key => (m.contains is_none now key).2
  | .set now key value ttl_seconds dependencies => m.set now key value ttl_seconds dependencies
  | .delete key => (m.delete key).2
  | .invalidate key => (m.invalidate key).2
  | .invalidate_by_dependency dependency => (m.invalidate_by_dependency dependency).2
  | .invalidate_by_pattern pattern => (m.invalidate_by_pattern pattern).2
  | .clear => m.clear
  | .add_invalidation_callback callback => m.add_invalidation_callback callback
  | .remove_invalidation_callback callback => m.remove_invalidation_callback callback

/-! ## How many entries a call leaves -/

theorem size_get (m : MonitoredCache δ) (now : Nat) (key : CacheKey) : (m.get now key).2.size ≤ m.size := by
  have same (e : CacheEntry δ) (c : MemoryCache δ) (known : key.str ∈ c.cache.keys) :
      (if c.config.eviction_policy = .LRU then (c.cache.set key.str e).move_to_end key.str else c.cache.set key.str e).length =
        c.cache.length := by
    split
    · rw [Dict.length_move_to_end, Dict.length_set_of_mem known]
    · exact Dict.length_set_of_mem known e
  show (m.manager.backend.get now key).2.cache.length ≤ m.manager.backend.cache.length
  unfold MemoryCache.get
  split
  · exact Nat.le_refl _
  · next entry found =>
    split
    · rw [MemoryCache.cache_remove]
      exact Dict.length_erase_le _ _
    · exact Nat.le_of_eq (same _ _ (Dict.mem_keys_of_get? found))

theorem size_set (m : MonitoredCache δ) (now : Nat) (key : CacheKey) (value : δ) (ttl_seconds : Option Int)
    (dependencies : List String) : (m.set now key value ttl_seconds dependencies).size ≤ m.size + 1 := by
  have fewer (c : MemoryCache δ) (bound : Nat) (d : MemoryCache δ) (key_str : String) (few : d.cache.length ≤ bound) :
      (d.remove key_str).cache.length ≤ bound := by
    rw [MemoryCache.cache_remove]
    exact Nat.le_trans (Dict.length_erase_le _ _) few
  have room (c : MemoryCache δ) : c.ensure_capacity.cache.length ≤ c.cache.length :=
    MemoryCache.ensure_capacity_keeps (fewer c _) (Nat.le_refl _)
  have stored (c : MemoryCache δ) (entry : CacheEntry δ) : (c.ensure_capacity.store key.str entry).cache.length ≤ c.cache.length + 1 := by
    rw [MemoryCache.cache_store]
    exact Nat.le_trans (Dict.length_set_le _ _ _) (Nat.succ_le_succ (room c))
  show (m.manager.backend.set now key _).cache.length ≤ m.manager.backend.cache.length + 1
  unfold MemoryCache.set
  simp only
  split
  · exact MemoryCache.cleanup_expired_keeps (fewer m.manager.backend _) (stored _ _) now
  · exact stored _ _

theorem length_delete (c : MemoryCache δ) (key : CacheKey) :
    (c.delete key).2.cache.length + (if (c.delete key).1 then 1 else 0) = c.cache.length := by
  unfold MemoryCache.delete
  split
  · next known =>
    rw [MemoryCache.cache_remove]
    exact Dict.length_erase_of_mem ((Dict.contains_iff _ _).mp known)
  · rfl

/-- Each key that is returned was removed, once. -/
theorem length_invalidate_dependencies (c : MemoryCache δ) (dependency : String) :
    (c.invalidate_dependencies dependency).2.cache.length + (c.invalidate_dependencies dependency).1.length = c.cache.length := by
  have rounds (key_strs : List String) (state : List String × MemoryCache δ) (gone : ∀ k ∈ state.1, k ∉ state.2.cache.keys) :
      (key_strs.foldl MemoryCache.invalidate_key state).2.cache.length + (key_strs.foldl MemoryCache.invalidate_key state).1.length =
        state.2.cache.length + state.1.length := by
    induction key_strs generalizing state with
    | nil => rfl
    | cons key_str rest ih =>
      rw [List.foldl_cons]
      by_cases known : key_str ∈ state.2.cache.keys
      · have round : MemoryCache.invalidate_key state key_str = (state.1.insert key_str, state.2.remove key_str) :=
          if_pos ((Dict.contains_iff _ _).mpr known)
        have fresh : key_str ∉ state.1 := fun listed => gone key_str listed known
        have shorter := Dict.length_erase_of_mem known
        rw [round, ih]
        · rw [MemoryCache.cache_remove, List.insert_of_not_mem fresh, List.length_cons]
          omega
        · intro k listed
          rw [MemoryCache.cache_remove, Dict.mem_keys_erase]
          rcases List.mem_insert_iff.mp listed with rfl | before
          · exact fun left => left.2 rfl
          · exact fun left => gone k before left.1
      · have round : MemoryCache.invalidate_key state key_str = state :=
          if_neg fun contained => known ((Dict.contains_iff _ _).mp contained)
        rw [round, ih state gone]
  rw [MemoryCache.invalidate_dependencies_eq, rounds _ _ (by simp)]
  simp

end MonitoredCache

/-! ## What the calls did -/

/-- What was done since the cache was last cleared, and how often a callback was called
    since it was made. -/
structure Tally where
  lookups : Nat := 0
  answered : Nat := 0
  stored : Nat := 0
  dropped : Nat := 0
  notices : Nat := 0

/-- A cache with what its calls did. -/
structure TalliedCache (δ : Type) where
  cache : MonitoredCache δ
  tally : Tally := {}

namespace TalliedCache
variable {δ : Type}

def looked_up (s : TalliedCache δ) (now : Nat) (key : CacheKey) : Tally :=
  { s.tally with
    lookups := s.tally.lookups + 1
    answered := s.tally.answered + if (s.cache.manager.get now key).1.isSome then 1 else 0 }

/-- The entries that are no longer there, and a notice of each for each callback. -/
def invalidated (s : TalliedCache δ) (after : MonitoredCache δ) : Tally :=
  { s.tally with
    dropped := s.tally.dropped + (s.cache.size - after.size)
    notices := s.tally.notices + (s.cache.size - after.size) * s.cache.invalidation_callbacks.length }

def step (s : TalliedCache δ) (call : ManagerCall δ) : TalliedCache δ where
  cache := s.cache.step call
  tally := match call with
    | .get now key | .contains _ now key => s.looked_up now key
    | .set .. => { s.tally with stored := s.tally.stored + 1 }
    | .delete _ | .invalidate _ | .invalidate_by_dependency _ | .invalidate_by_pattern _ => s.invalidated (s.cache.step call)
    | .clear => { notices := s.tally.notices }
    | .add_invalidation_callback _ | .remove_invalidation_callback _ => s.tally

/-- The statistics tell what was done. What was stored and is neither there nor counted
    was overwritten, evicted or expired. -/
structure Accounted (s : TalliedCache δ) : Prop where
  counts : ∀ statistics ∈ s.cache.statistics,
    statistics.hits = s.tally.answered ∧ statistics.hits + statistics.misses = s.tally.lookups ∧
      statistics.invalidations = s.tally.dropped ∧ statistics.evictions = 0 ∧ statistics.memory_usage = 0
  held : s.cache.size + s.tally.dropped ≤ s.tally.stored
  told : s.cache.notified.length = s.tally.notices

/-! ## Invalidations are counted -/

/-- A cache after `dropped` of its entries were invalidated, one by one. -/
structure Dropped (m after : MonitoredCache δ) (dropped : Nat) : Prop where
  size : after.size + dropped = m.size
  statistics : after.statistics = m.statistics.map fun s => { s with invalidations := s.invalidations + dropped }
  callbacks : after.invalidation_callbacks = m.invalidation_callbacks
  notified : after.notified.length = m.notified.length + dropped * m.invalidation_callbacks.length

theorem Dropped.refl (m : MonitoredCache δ) : Dropped m m 0 where
  size := rfl
  statistics := by simp
  callbacks := rfl
  notified := by simp

theorem Dropped.trans {a b c : MonitoredCache δ} {first second : Nat} (left : Dropped a b first) (right : Dropped b c second) :
    Dropped a c (first + second) where
  size := by
    have one := left.size
    have two := right.size
    omega
  statistics := by
    rw [right.statistics, left.statistics, Option.map_map]
    exact Option.map_congr fun s _ => by simp [Nat.add_assoc]
  callbacks := right.callbacks.trans left.callbacks
  notified := by rw [right.notified, left.notified, left.callbacks, Nat.add_mul, Nat.add_assoc]

theorem dropped_delete (m : MonitoredCache δ) (key : CacheKey) : Dropped m (m.delete key).2 (if (m.delete key).1 then 1 else 0) := by
  have fewer := MonitoredCache.length_delete m.manager.backend key
  have answer : (m.delete key).1 = (m.manager.backend.delete key).1 := rfl
  have left : (m.delete key).2 =
      if (m.manager.backend.delete key).1 then
        ({ m with manager := ⟨(m.manager.backend.delete key).2⟩ }.record_invalidation.notify key)
      else { m with manager := ⟨(m.manager.backend.delete key).2⟩ } := rfl
  rw [answer, left]
  cases success : (m.manager.backend.delete key).1 with
  | false =>
    rw [success] at fewer
    exact ⟨fewer, by simp, rfl, by simp⟩
  | true =>
    rw [success] at fewer
    refine ⟨fewer, rfl, rfl, ?_⟩
    simp [MonitoredCache.notify, MonitoredCache.record_invalidation]

theorem dropped_deletions (keys : List CacheKey) (m : MonitoredCache δ) :
    ∃ dropped, Dropped m (keys.foldl (fun m key => (m.delete key).2) m) dropped := by
  induction keys generalizing m with
  | nil => exact ⟨0, .refl m⟩
  | cons key rest ih =>
    obtain ⟨dropped, later⟩ := ih (m.delete key).2
    exact ⟨_, (dropped_delete m key).trans later⟩

theorem recorded (keys : List String) (m : MonitoredCache δ) :
    keys.foldl (fun m _ => m.record_invalidation) m =
      { m with statistics := m.statistics.map fun s => { s with invalidations := s.invalidations + keys.length } } := by
  induction keys generalizing m with
  | nil => simp
  | cons key rest ih =>
    rw [List.foldl_cons, ih]
    simp only [MonitoredCache.record_invalidation, Option.map_map, List.length_cons]
    congr 1
    exact Option.map_congr fun s _ => by simp [CacheStatistics.record_invalidation]; omega

theorem told (keys : List String) (m : MonitoredCache δ) :
    keys.foldl (fun m key_str => m.notify { entity_type := type_text key_str }) m =
      { m with notified := m.notified ++ keys.flatMap fun key_str =>
          m.invalidation_callbacks.map fun callback => (callback, { entity_type := type_text key_str }) } := by
  induction keys generalizing m with
  | nil => simp
  | cons key rest ih =>
    rw [List.foldl_cons, ih]
    simp [MonitoredCache.notify]

theorem dropped_invalidate_by_dependency (m : MonitoredCache δ) (dependency : String) :
    Dropped m (m.invalidate_by_dependency dependency).2 (m.invalidate_by_dependency dependency).1 := by
  have fewer := MonitoredCache.length_invalidate_dependencies m.manager.backend dependency
  unfold MonitoredCache.invalidate_by_dependency
  simp only [recorded, told]
  refine ⟨fewer, rfl, rfl, ?_⟩
  simp [List.length_flatMap]

/-- What an invalidation drops is what it counts and tells. -/
theorem Accounted.invalidated {s : TalliedCache δ} (accounted : s.Accounted) {after : MonitoredCache δ} {dropped : Nat}
    (drops : Dropped s.cache after dropped) : Accounted ⟨after, s.invalidated after⟩ := by
  have gone : s.cache.size - after.size = dropped := by
    have size := drops.size
    omega
  have size := drops.size
  have held := accounted.held
  refine ⟨?_, ?_, ?_⟩
  · intro statistics known
    rw [drops.statistics] at known
    obtain ⟨before, enabled, rfl⟩ := Option.map_eq_some_iff.mp known
    obtain ⟨hits, lookups, invalidations, evictions, memory⟩ := accounted.counts before enabled
    exact ⟨hits, lookups, by simp [TalliedCache.invalidated, gone, invalidations], evictions, memory⟩
  · simp only [TalliedCache.invalidated, gone]
    omega
  · simp only [TalliedCache.invalidated, gone]
    rw [drops.notified, accounted.told]

/-- A lookup is a hit or a miss. -/
theorem Accounted.looked_up {s : TalliedCache δ} (accounted : s.Accounted) (now : Nat) (key : CacheKey) :
    Accounted ⟨(s.cache.get now key).2, s.looked_up now key⟩ := by
  refine ⟨?_, ?_, accounted.told⟩
  · intro statistics known
    have recorded : (s.cache.get now key).2.statistics = s.cache.statistics.map
        (if (s.cache.manager.get now key).1.isSome then CacheStatistics.record_hit else CacheStatistics.record_miss) := rfl
    rw [recorded] at known
    obtain ⟨before, enabled, rfl⟩ := Option.map_eq_some_iff.mp known
    obtain ⟨hits, lookups, invalidations, evictions, memory⟩ := accounted.counts before enabled
    cases hit : (s.cache.manager.get now key).1.isSome with
    | true =>
      simp only [TalliedCache.looked_up, hit, if_true, CacheStatistics.record_hit]
      exact ⟨by omega, by omega, invalidations, evictions, memory⟩
    | false =>
      simp only [TalliedCache.looked_up, hit, CacheStatistics.record_miss, Bool.false_eq_true, if_false]
      exact ⟨by omega, by omega, invalidations, evictions, memory⟩
  · have smaller := s.cache.size_get now key
    have held := accounted.held
    simp only [TalliedCache.looked_up]
    omega

theorem Accounted.step {s : TalliedCache δ} (accounted : s.Accounted) (call : ManagerCall δ) : (s.step call).Accounted := by
  cases call with
  | get now key => exact accounted.looked_up now key
  | contains is_none now key => exact accounted.looked_up now key
  | set now key value ttl_seconds dependencies =>
    have larger := s.cache.size_set now key value ttl_seconds dependencies
    have held := accounted.held
    refine ⟨accounted.counts, ?_, accounted.told⟩
    show (s.cache.set now key value ttl_seconds dependencies).size + s.tally.dropped ≤ s.tally.stored + 1
    omega
  | delete key => exact accounted.invalidated (dropped_delete s.cache key)
  | invalidate key => exact accounted.invalidated (dropped_delete s.cache key)
  | invalidate_by_dependency dependency => exact accounted.invalidated (dropped_invalidate_by_dependency s.cache dependency)
  | invalidate_by_pattern pattern =>
    obtain ⟨dropped, drops⟩ := dropped_deletions _ s.cache
    exact accounted.invalidated drops
  | clear =>
    refine ⟨?_, Nat.le_refl _, accounted.told⟩
    intro statistics known
    obtain ⟨before, -, rfl⟩ := Option.map_eq_some_iff.mp known
    exact ⟨rfl, rfl, rfl, rfl, rfl⟩
  | add_invalidation_callback callback => exact ⟨accounted.counts, accounted.held, accounted.told⟩
  | remove_invalidation_callback callback => exact ⟨accounted.counts, accounted.held, accounted.told⟩

end TalliedCache
end RevitPy
