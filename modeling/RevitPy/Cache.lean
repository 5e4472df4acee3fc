import Mathlib.Data.List.Infix
import Mathlib.Data.List.MinMax
import RevitPy.Dict
import RevitPy.Loop

/-!
# The cache

Entries are stored by the text of their key, in the order in which they were
inserted or, where the least recently used entry is evicted, last accessed. Two
indexes lead from a dependency to the keys that need it and back. Times are
microseconds, and each call reads the clock once.
-/

namespace RevitPy

/-- An element id of Revit, or one the caller made up. -/
inductive ElementId
  | int (value : Int)
  | str (value : String)
  | uuid (text : String)
  deriving DecidableEq

namespace ElementId

def truthy : ElementId → Bool
  | .int value => value ≠ 0
  | .str value => value ≠ ""
  | .uuid _ => true

def text : ElementId → String
  | .int value => toString value
  | .str value => value
  | .uuid text => text

end ElementId

structure CacheKey where
  entity_type : String
  query_hash : Option String := none
  entity_id : Option ElementId := none
  relationship_path : Option String := none

namespace CacheKey

/-- What an optional part of a key contributes, where it is truthy. -/
def part (label : String) : Option String → List String
  | some text => if text ≠ "" then [label ++ text] else []
  | none => []

def id_part : Option ElementId → List String
  | some entity_id => if entity_id.truthy then ["id:" ++ entity_id.text] else []
  | none => []

/-- `str(key)`. -/
def str (key : CacheKey) : String :=
  "|".intercalate ([key.entity_type] ++ id_part key.entity_id ++ part "query:" key.query_hash ++
    part "rel:" key.relationship_path)

end CacheKey

/-- Create cache key for an entity. -/
def create_entity_cache_key (entity_type : String) (entity_id : Option ElementId) : CacheKey :=
  { entity_type := entity_type, entity_id := entity_id }

inductive EvictionPolicy
  | LRU
  | LFU
  | FIFO
  | TTL
  | SIZE_BASED
  deriving DecidableEq

/-- Configuration for cache behavior. The limits are checked when it is made. -/
structure CacheConfiguration where
  max_size : Nat := 10000
  max_memory_mb : Nat := 500
  default_ttl_seconds : Option Int := some 3600
  eviction_policy : EvictionPolicy := .LRU
  cleanup_interval_seconds : Int := 300
  max_size_positive : 0 < max_size := by decide
  max_memory_positive : 0 < max_memory_mb := by decide

/-- `CacheConfiguration()`. -/
def CacheConfiguration.defaults : CacheConfiguration := {}

/-- Whole seconds are compared with a span of the clock. -/
def exceeds (start now : Nat) (seconds : Int) : Bool := seconds * 1000000 < (now : Int) - start

structure CacheEntry (δ : Type) where
  data : δ
  created_at : Nat
  accessed_at : Nat
  access_count : Nat := 0
  ttl_seconds : Option Int := none
  dependencies : List String := []

namespace CacheEntry
variable {δ : Type}

def is_expired (entry : CacheEntry δ) (now : Nat) : Bool := match entry.ttl_seconds with
  | none => false
  | some ttl_seconds => exceeds entry.created_at now ttl_seconds

def mark_accessed (entry : CacheEntry δ) (now : Nat) : CacheEntry δ :=
  { entry with accessed_at := now, access_count := entry.access_count + 1 }

@[simp] theorem is_expired_mark_accessed (entry : CacheEntry δ) (now later : Nat) :
    (entry.mark_accessed now).is_expired later = entry.is_expired later := rfl

/-- The same entry, apart from when and how often it was read. -/
def Agree (entry other : CacheEntry δ) : Prop :=
  entry.data = other.data ∧ entry.created_at = other.created_at ∧ entry.ttl_seconds = other.ttl_seconds

theorem Agree.refl (entry : CacheEntry δ) : entry.Agree entry := ⟨rfl, rfl, rfl⟩

theorem Agree.trans {a b c : CacheEntry δ} (left : a.Agree b) (right : b.Agree c) : a.Agree c :=
  ⟨left.1.trans right.1, left.2.1.trans right.2.1, left.2.2.trans right.2.2⟩

theorem agree_mark_accessed (entry : CacheEntry δ) (now : Nat) : (entry.mark_accessed now).Agree entry := ⟨rfl, rfl, rfl⟩

theorem Agree.is_expired {entry other : CacheEntry δ} (agree : entry.Agree other) (now : Nat) :
    entry.is_expired now = other.is_expired now := by rw [CacheEntry.is_expired, CacheEntry.is_expired, agree.2.1, agree.2.2]

/-- What has expired stays expired. -/
theorem is_expired_mono {entry : CacheEntry δ} {now later : Nat} (expired : entry.is_expired now = true) (after : now ≤ later) :
    entry.is_expired later = true := by
  unfold is_expired exceeds at *
  cases limit : entry.ttl_seconds with
  | none => simp [limit] at expired
  | some ttl_seconds =>
    simp only [limit, decide_eq_true_eq] at expired ⊢
    omega

end CacheEntry

/-- In-memory cache. Sets of keys and of dependencies are lists without
    repetition. -/
structure MemoryCache (δ : Type) where
  config : CacheConfiguration := .defaults
  cache : Dict String (CacheEntry δ) := ∅
  key_dependencies : Dict String (List String) := ∅
  reverse_dependencies : Dict String (List String) := ∅
  last_cleanup : Nat := 0

namespace MemoryCache
variable {δ : Type}

/-! ## Removal -/

/-- `index[source].discard(target)`, and no empty sets. -/
def discard (target : String) (index : Dict String (List String)) (source : String) : Dict String (List String) :=
  match index.get? source with
  | none => index
  | some targets =>
    let remaining := targets.erase target
    if remaining.isEmpty then index.erase source else index.set source remaining

/-- Clean up dependency tracking for a removed key. -/
def cleanup_dependencies (c : MemoryCache δ) (key_str : String) : MemoryCache δ :=
  match c.reverse_dependencies.get? key_str with
  | none => c
  | some deps =>
    { c with
      key_dependencies := deps.foldl (discard key_str) c.key_dependencies
      reverse_dependencies := c.reverse_dependencies.erase key_str }

/-- `del self._cache[key_str]` and its dependencies. -/
def remove (c : MemoryCache δ) (key_str : String) : MemoryCache δ :=
  { c with cache := c.cache.erase key_str }.cleanup_dependencies key_str

@[simp] theorem cache_cleanup_dependencies (c : MemoryCache δ) (key_str : String) :
    (c.cleanup_dependencies key_str).cache = c.cache := by unfold cleanup_dependencies; split <;> rfl

@[simp] theorem config_cleanup_dependencies (c : MemoryCache δ) (key_str : String) :
    (c.cleanup_dependencies key_str).config = c.config := by unfold cleanup_dependencies; split <;> rfl

@[simp] theorem cache_remove (c : MemoryCache δ) (key_str : String) :
    (c.remove key_str).cache = c.cache.erase key_str := by simp [remove]

@[simp] theorem config_remove (c : MemoryCache δ) (key_str : String) : (c.remove key_str).config = c.config := by
  simp [remove]

/-! ## Eviction -/

/-- The key to evict: the first one, or the first of those used least often. -/
def victim (c : MemoryCache δ) : Option String :=
  match c.config.eviction_policy with
  | .LFU => (c.cache.entries.argmin fun item => item.2.access_count).map Prod.fst
  | _ => c.cache.keys.head?

/-- Evict one entry based on eviction policy. -/
def evict_one (c : MemoryCache δ) : MemoryCache δ := match c.victim with
  | none => c
  | some key_str => c.remove key_str

theorem victim_mem {c : MemoryCache δ} {key_str : String} (chosen : c.victim = some key_str) : key_str ∈ c.cache.keys := by
  unfold victim at chosen
  split at chosen
  · obtain ⟨item, least, rfl⟩ := Option.map_eq_some_iff.mp chosen
    exact List.mem_map_of_mem (List.argmin_mem least)
  · exact List.mem_of_head? chosen

theorem victim_exists {c : MemoryCache δ} (stored : 0 < c.cache.length) : ∃ key_str, c.victim = some key_str := by
  have nonempty : c.cache.entries ≠ [] := List.ne_nil_of_length_pos stored
  unfold victim
  split
  · rw [← Option.ne_none_iff_exists', ne_eq, Option.map_eq_none_iff, List.argmin_eq_none]
    exact nonempty
  · rw [← Option.ne_none_iff_exists', ne_eq, List.head?_eq_none_iff, Dict.keys, List.map_eq_nil_iff]
    exact nonempty

@[simp] theorem config_evict_one (c : MemoryCache δ) : c.evict_one.config = c.config := by
  unfold evict_one
  split
  · rfl
  · exact config_remove c _

theorem length_evict_one {c : MemoryCache δ} (stored : 0 < c.cache.length) : c.evict_one.cache.length < c.cache.length := by
  obtain ⟨key_str, chosen⟩ := victim_exists stored
  rw [evict_one, chosen]
  show (c.remove key_str).cache.length < _
  rw [cache_remove]
  exact Dict.length_erase_lt (victim_mem chosen)

/-- A round of `while len(self._cache) >= self._config.max_size`. -/
def shrink_size (c : MemoryCache δ) : Option (MemoryCache δ) :=
  if c.config.max_size ≤ c.cache.length then some c.evict_one else none

/-- A round of `while estimated_memory_mb > self._config.max_memory_mb`, at a
    thousandth of a megabyte an entry. -/
def shrink_memory (c : MemoryCache δ) : Option (MemoryCache δ) :=
  if 1000 * c.config.max_memory_mb < c.cache.length then some c.evict_one else none

theorem shrink_size_decreasing : Loop.Decreasing (shrink_size (δ := δ)) fun c => c.cache.length := by
  intro c d next
  unfold shrink_size at next
  split at next
  · next full =>
    obtain rfl := Option.some.inj next
    exact length_evict_one (Nat.lt_of_lt_of_le c.config.max_size_positive full)
  · cases next

theorem shrink_memory_decreasing : Loop.Decreasing (shrink_memory (δ := δ)) fun c => c.cache.length := by
  intro c d next
  unfold shrink_memory at next
  split at next
  · next full =>
    obtain rfl := Option.some.inj next
    exact length_evict_one (Nat.zero_lt_of_lt full)
  · cases next

/-- Ensure cache doesn't exceed capacity limits. -/
def ensure_capacity (c : MemoryCache δ) : MemoryCache δ :=
  Loop.exec shrink_memory _ shrink_memory_decreasing (Loop.exec shrink_size _ shrink_size_decreasing c)

section Eviction
variable {Inv : MemoryCache δ → Prop} (evicts : ∀ d, Inv d → Inv d.evict_one) {c : MemoryCache δ} (start : Inv c)
include evicts start

/-- What an eviction keeps holds once the size fits. -/
theorem shrunk_size_induction : Inv (Loop.exec shrink_size _ shrink_size_decreasing c) ∧
    (Loop.exec shrink_size _ shrink_size_decreasing c).shrink_size = none := by
  refine Loop.exec_induction shrink_size_decreasing c (fun d e kept next => ?_) start
  unfold shrink_size at next
  split at next
  · obtain rfl := Option.some.inj next
    exact evicts d kept
  · cases next

/-- What an eviction keeps is kept by both loops. -/
theorem ensure_capacity_induction : Inv c.ensure_capacity := by
  refine (Loop.exec_induction shrink_memory_decreasing _ (fun d e kept next => ?_) (shrunk_size_induction evicts start).1).1
  unfold shrink_memory at next
  split at next
  · obtain rfl := Option.some.inj next
    exact evicts d kept
  · cases next

end Eviction

/-! ## Operations -/

/-- Get cache entry by key. -/
def get (c : MemoryCache δ) (now : Nat) (key : CacheKey) : Option (CacheEntry δ) × MemoryCache δ :=
  match c.cache.get? key.str with
  | none => (none, c)
  | some entry =>
    if entry.is_expired now then (none, c.remove key.str)
    else
      let cache := c.cache.set key.str (entry.mark_accessed now)
      (some (entry.mark_accessed now),
        { c with cache := if c.config.eviction_policy = .LRU then cache.move_to_end key.str else cache })

/-- `index.setdefault(source, set()).add(target)`. -/
def track (index : Dict String (List String)) (source target : String) : Dict String (List String) :=
  index.set source ((index.getD source []).insert target)

def track_dependency (key_str : String) (c : MemoryCache δ) (dep : String) : MemoryCache δ :=
  { c with
    key_dependencies := track c.key_dependencies dep key_str
    reverse_dependencies := track c.reverse_dependencies key_str dep }

/-- Remove expired entries. -/
def cleanup_expired (c : MemoryCache δ) (now : Nat) : MemoryCache δ :=
  ((c.cache.entries.filter fun item => item.2.is_expired now).map Prod.fst).foldl remove c

/-- Store an entry under a key, whatever was there. -/
def store (c : MemoryCache δ) (key_str : String) (entry : CacheEntry δ) : MemoryCache δ :=
  entry.dependencies.foldl (track_dependency key_str) { c with cache := c.cache.set key_str entry }

/-- Set cache entry. -/
def set (c : MemoryCache δ) (now : Nat) (key : CacheKey) (entry : CacheEntry δ) : MemoryCache δ :=
  let stored := c.ensure_capacity.store key.str entry
  if exceeds stored.last_cleanup now stored.config.cleanup_interval_seconds then
    { stored.cleanup_expired now with last_cleanup := now }
  else stored

/-- Delete cache entry. -/
def delete (c : MemoryCache δ) (key : CacheKey) : Bool × MemoryCache δ :=
  if c.cache.contains key.str then (true, c.remove key.str) else (false, c)

/-- Clear all cache entries. -/
def clear (c : MemoryCache δ) : MemoryCache δ :=
  { c with cache := ∅, key_dependencies := ∅, reverse_dependencies := ∅ }

/-- Get all cache keys, with what stands before the first bar as entity type. -/
def keys (c : MemoryCache δ) : List CacheKey :=
  c.cache.keys.map fun key_str => { entity_type := String.ofList (key_str.toList.takeWhile fun c => c ≠ '|') }

def size (c : MemoryCache δ) : Nat := c.cache.length

/-- A round of the loop over the keys that depend on what is invalidated. -/
def invalidate_key (state : List String × MemoryCache δ) (key_str : String) : List String × MemoryCache δ :=
  if state.2.cache.contains key_str then (state.1.insert key_str, state.2.remove key_str) else state

/-- Invalidate all entries that depend on the given dependency. -/
def invalidate_dependencies (c : MemoryCache δ) (dependency : String) : List String × MemoryCache δ :=
  match c.key_dependencies.get? dependency with
  | none => ([], c)
  | some dependent_keys => dependent_keys.foldl invalidate_key ([], c)

/-! ## What removals keep -/

section Removals
variable {Inv : MemoryCache δ → Prop} (removes : ∀ d key_str, Inv d → Inv (d.remove key_str)) {c : MemoryCache δ} (inv : Inv c)
include removes inv

theorem evict_one_keeps : Inv c.evict_one := by
  unfold evict_one
  split
  · exact inv
  · exact removes c _ inv

theorem ensure_capacity_keeps : Inv c.ensure_capacity :=
  ensure_capacity_induction (fun _ kept => evict_one_keeps removes kept) inv

theorem removals_keep (key_strs : List String) : Inv (key_strs.foldl remove c) :=
  List.foldlRecOn (motive := Inv) key_strs remove inv fun d kept key_str _ => removes d key_str kept

theorem cleanup_expired_keeps (now : Nat) : Inv (c.cleanup_expired now) := removals_keep removes inv _

theorem delete_keeps (key : CacheKey) : Inv (c.delete key).2 := by
  unfold delete
  split
  · exact removes c _ inv
  · exact inv

theorem invalidate_dependencies_keeps (dependency : String) : Inv (c.invalidate_dependencies dependency).2 := by
  unfold invalidate_dependencies
  split
  · exact inv
  · next dependent_keys _ =>
    refine List.foldlRecOn (motive := fun state : List String × MemoryCache δ => Inv state.2) dependent_keys invalidate_key inv ?_
    intro state kept key_str _
    unfold invalidate_key
    split
    · exact removes _ _ kept
    · exact kept

end Removals

/-! ## What operations leave in the cache -/

/-- Every entry of `c` is one of `d`, up to accesses. -/
def Within (c d : MemoryCache δ) : Prop :=
  ∀ k entry, c.cache.get? k = some entry → ∃ old, d.cache.get? k = some old ∧ entry.Agree old

theorem Within.refl (c : MemoryCache δ) : c.Within c := fun _ entry found => ⟨entry, found, .refl entry⟩

theorem Within.trans {a b c : MemoryCache δ} (left : a.Within b) (right : b.Within c) : a.Within c := by
  intro k entry found
  obtain ⟨middle, found', agree⟩ := left k entry found
  obtain ⟨old, found'', agree'⟩ := right k middle found'
  exact ⟨old, found'', agree.trans agree'⟩

theorem within_remove (c : MemoryCache δ) (key_str : String) : (c.remove key_str).Within c := by
  intro k entry found
  rw [cache_remove, Dict.get?_erase] at found
  split at found
  · cases found
  · exact ⟨entry, found, .refl entry⟩

/-- Removals only take entries away. -/
theorem within_after (c d : MemoryCache δ) (key_str : String) (within : d.Within c) : (d.remove key_str).Within c :=
  (within_remove d key_str).trans within

theorem within_ensure_capacity (c : MemoryCache δ) : c.ensure_capacity.Within c := ensure_capacity_keeps (within_after c) (.refl c)

theorem within_cleanup_expired (c : MemoryCache δ) (now : Nat) : (c.cleanup_expired now).Within c :=
  cleanup_expired_keeps (within_after c) (.refl c) now

/-- An access leaves the entry under its key, wherever the key stands then. -/
theorem get?_accessed (cache : Dict String (CacheEntry δ)) (policy : EvictionPolicy) (key_str : String) (entry : CacheEntry δ)
    (k : String) : (if policy = .LRU then (cache.set key_str entry).move_to_end key_str else cache.set key_str entry).get? k =
      if key_str = k then some entry else cache.get? k := by
  rw [← Dict.get?_set]
  split
  · exact Dict.get?_move_to_end _ _ _
  · rfl

theorem within_get (c : MemoryCache δ) (now : Nat) (key : CacheKey) : (c.get now key).2.Within c := by
  unfold get
  split
  · exact .refl c
  · next entry found =>
    split
    · exact within_remove c _
    · intro k other kept
      rw [get?_accessed] at kept
      split at kept
      · next same =>
        obtain rfl := Option.some.inj kept
        exact ⟨entry, same ▸ found, CacheEntry.agree_mark_accessed entry now⟩
      · exact ⟨other, kept, .refl other⟩

/-- A hit is an entry that was stored and has not expired. -/
theorem get_hit {c : MemoryCache δ} {now : Nat} {key : CacheKey} {entry : CacheEntry δ}
    (hit : (c.get now key).1 = some entry) :
    ∃ old, c.cache.get? key.str = some old ∧ entry.Agree old ∧ old.is_expired now = false := by
  unfold get at hit
  split at hit
  · cases hit
  · next old found =>
    split at hit
    · cases hit
    · next live =>
      obtain rfl := Option.some.inj hit
      exact ⟨old, found, CacheEntry.agree_mark_accessed old now, by simpa using live⟩

/-- Recording dependencies stores nothing. -/
theorem tracked (key_str : String) (deps : List String) (c : MemoryCache δ) :
    (deps.foldl (track_dependency key_str) c).cache = c.cache ∧ (deps.foldl (track_dependency key_str) c).config = c.config := by
  induction deps generalizing c with
  | nil => exact ⟨rfl, rfl⟩
  | cons dep rest ih => exact ih (c.track_dependency key_str dep)

theorem cache_store (c : MemoryCache δ) (key_str : String) (entry : CacheEntry δ) :
    (c.store key_str entry).cache = c.cache.set key_str entry := (tracked key_str entry.dependencies _).1

theorem within_set {c : MemoryCache δ} {now : Nat} {key : CacheKey} {entry other : CacheEntry δ} {k : String}
    (found : (c.set now key entry).cache.get? k = some other) :
    k = key.str ∧ other.Agree entry ∨ ∃ old, c.cache.get? k = some old ∧ other.Agree old := by
  have stored : (c.set now key entry).Within (c.ensure_capacity.store key.str entry) := by
    unfold set
    simp only
    split
    · exact within_cleanup_expired _ now
    · exact .refl _
  obtain ⟨middle, found', agree⟩ := stored k other found
  rw [cache_store, Dict.get?_set] at found'
  split at found'
  · next same => exact Or.inl ⟨same.symm, Option.some.inj found' ▸ agree⟩
  · obtain ⟨old, found'', agree'⟩ := within_ensure_capacity c k middle found'
    exact Or.inr ⟨old, found'', agree.trans agree'⟩

theorem within_delete (c : MemoryCache δ) (key : CacheKey) : (c.delete key).2.Within c := delete_keeps (within_after c) (.refl c) key

/-- Nothing is left under a deleted key. -/
theorem get?_delete (c : MemoryCache δ) (key : CacheKey) : (c.delete key).2.cache.get? key.str = none := by
  unfold delete
  split
  · simp
  · next absent => exact (Dict.get?_none_iff _ _).mpr fun known => absent ((Dict.contains_iff _ _).mpr known)

theorem within_clear (c : MemoryCache δ) : c.clear.Within c := by
  intro k entry found
  cases found

theorem within_invalidate_dependencies (c : MemoryCache δ) (dependency : String) :
    (c.invalidate_dependencies dependency).2.Within c := invalidate_dependencies_keeps (within_after c) (.refl c) dependency

end MemoryCache

/-! ## The manager -/

/-- Main cache manager over a memory cache. -/
structure CacheManager (δ : Type) where
  backend : MemoryCache δ := {}

namespace CacheManager
variable {δ : Type}

/-- Get cached value by key. -/
def get (m : CacheManager δ) (now : Nat) (key : CacheKey) : Option δ × CacheManager δ :=
  let (entry, backend) := m.backend.get now key
  (entry.map CacheEntry.data, ⟨backend⟩)

/-- `ttl_seconds or self._config.default_ttl_seconds`. -/
def effective_ttl (config : CacheConfiguration) (ttl_seconds : Option Int) : Option Int :=
  if ttl_seconds = none ∨ ttl_seconds = some 0 then config.default_ttl_seconds else ttl_seconds

/-- Set cached value with optional TTL and dependencies. -/
def set (m : CacheManager δ) (now : Nat) (key : CacheKey) (value : δ) (ttl_seconds : Option Int)
    (dependencies : List String) : CacheManager δ :=
  ⟨m.backend.set now key
    { data := value
      created_at := now
      accessed_at := now
      ttl_seconds := effective_ttl m.backend.config ttl_seconds
      dependencies := dependencies }⟩

/-- Delete cached value by key. -/
def delete (m : CacheManager δ) (key : CacheKey) : Bool × CacheManager δ :=
  let (success, backend) := m.backend.delete key
  (success, ⟨backend⟩)

/-- Invalidate cached value (alias for delete). -/
def invalidate (m : CacheManager δ) (key : CacheKey) : Bool × CacheManager δ := m.delete key

/-- Invalidate all cached values that depend on the given dependency. -/
def invalidate_by_dependency (m : CacheManager δ) (dependency : String) : Nat × CacheManager δ :=
  let (invalidated_keys, backend) := m.backend.invalidate_dependencies dependency
  (invalidated_keys.length, ⟨backend⟩)

/-- Invalidate cached values matching a pattern. -/
def invalidate_by_pattern (m : CacheManager δ) (pattern : String) : Nat × CacheManager δ :=
  let keys_to_delete := m.backend.keys.filter fun key => decide (pattern.toList <:+: key.str.toList)
  (keys_to_delete.length, keys_to_delete.foldl (fun m key => (m.delete key).2) m)

/-- Clear all cached values. -/
def clear (m : CacheManager δ) : CacheManager δ := ⟨m.backend.clear⟩

def size (m : CacheManager δ) : Nat := m.backend.size

/-- The entry stored under the text of a key. -/
def lookup (m : CacheManager δ) (key_str : String) : Option (CacheEntry δ) := m.backend.cache.get? key_str

/-- Every entry of `m` is one of `n`, up to accesses. -/
def Within (m n : CacheManager δ) : Prop := m.backend.Within n.backend

theorem within_get (m : CacheManager δ) (now : Nat) (key : CacheKey) : (m.get now key).2.Within m :=
  m.backend.within_get now key

theorem get_hit {m : CacheManager δ} {now : Nat} {key : CacheKey} {value : δ} (hit : (m.get now key).1 = some value) :
    ∃ entry, m.lookup key.str = some entry ∧ entry.data = value ∧ entry.is_expired now = false := by
  obtain ⟨entry, hit', rfl⟩ := Option.map_eq_some_iff.mp hit
  obtain ⟨old, found, agree, live⟩ := MemoryCache.get_hit hit'
  exact ⟨old, found, agree.1.symm, live⟩

/-- What a cache holds after a value was set: that value under its key, and what
    it held before. -/
theorem lookup_set {m : CacheManager δ} {now : Nat} {key : CacheKey} {value : δ} {ttl_seconds : Option Int}
    {dependencies : List String} {k : String} {entry : CacheEntry δ}
    (found : (m.set now key value ttl_seconds dependencies).lookup k = some entry) :
    k = key.str ∧ entry.data = value ∨ ∃ old, m.lookup k = some old ∧ entry.Agree old := by
  rcases MemoryCache.within_set found with ⟨same, agree⟩ | kept
  · exact Or.inl ⟨same, agree.1⟩
  · exact Or.inr kept

theorem within_delete (m : CacheManager δ) (key : CacheKey) : (m.delete key).2.Within m := m.backend.within_delete key

theorem lookup_delete (m : CacheManager δ) (key : CacheKey) : (m.delete key).2.lookup key.str = none :=
  m.backend.get?_delete key

theorem within_clear (m : CacheManager δ) : m.clear.Within m := m.backend.within_clear

theorem within_invalidate_by_dependency (m : CacheManager δ) (dependency : String) :
    (m.invalidate_by_dependency dependency).2.Within m := m.backend.within_invalidate_dependencies dependency

theorem within_invalidate_by_pattern (m : CacheManager δ) (pattern : String) :
    (m.invalidate_by_pattern pattern).2.Within m := by
  have deletions (keys : List CacheKey) (m : CacheManager δ) : (keys.foldl (fun m key => (m.delete key).2) m).Within m := by
    induction keys generalizing m with
    | nil => exact .refl _
    | cons key rest ih => exact (ih _).trans (m.within_delete key)
  exact deletions _ m

end CacheManager

end RevitPy
