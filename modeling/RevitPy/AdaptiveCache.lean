import Mathlib.Algebra.GroupWithZero.Nat
import Mathlib.Data.List.Perm.Basic
import RevitPy.Dict
import RevitPy.Loop

/-!
# The adaptive cache

Entries expire some time after they were made. The keys used longest ago are evicted
until a new value fits, and where it does not fit the empty cache it is not stored.
Times of access and counts of accesses only serve statistics.
-/

namespace RevitPy.Performance

/-- What a Python function returns, as far as its size is estimated. -/
inductive Object (ω : Type)
  | none
  | str (text : String)
  | ndarray (nbytes : Nat) (reference : ω)
  | list (items : List (Object ω))
  | tuple (items : List (Object ω))
  | dict (items : List (Object ω × Object ω))
  | object (reference : ω)

variable {ω : Type}

def Object.is_none : Object ω → Bool
  | .none => true
  | _ => false

/-- Default estimated memory size per cached object, in bytes. -/
def DEFAULT_ESTIMATED_OBJECT_SIZE : Nat := 64

mutual

/-- Estimate memory size of object. -/
def estimate_size : Object ω → Nat
  | .str text => text.utf8ByteSize
  | .ndarray nbytes _ => nbytes
  | .list items => estimate_items items + DEFAULT_ESTIMATED_OBJECT_SIZE
  | .tuple items => estimate_items items + DEFAULT_ESTIMATED_OBJECT_SIZE
  | .dict items => estimate_pairs items + DEFAULT_ESTIMATED_OBJECT_SIZE
  | .none => DEFAULT_ESTIMATED_OBJECT_SIZE
  | .object _ => DEFAULT_ESTIMATED_OBJECT_SIZE

def estimate_items : List (Object ω) → Nat
  | [] => 0
  | item :: items => estimate_size item + estimate_items items

def estimate_pair : Object ω × Object ω → Nat
  | (k, v) => estimate_size k + estimate_size v

def estimate_pairs : List (Object ω × Object ω) → Nat
  | [] => 0
  | item :: items => estimate_pair item + estimate_pairs items

end

/-- The configuration of the cache. -/
structure OptimizationConfig where
  cache_max_size : Int := 10000
  cache_max_memory_mb : Int := 100
  cache_ttl_seconds : Int := 3600

def OptimizationConfig.max_memory_bytes (config : OptimizationConfig) : Int := config.cache_max_memory_mb * 1024 * 1024

/-- Adaptive cache with intelligent eviction and size management. The key used longest
    ago comes first in the access order. -/
structure AdaptiveCache (ω : Type) where
  cache : Dict String (Object ω) := ∅
  creation_times : Dict String Int := ∅
  memory_usage : Int := 0
  access_order : List String := []
  order_index : Dict String Bool := ∅
  ordered : ∀ k ∈ access_order, k ∈ cache.keys
  indexed : ∀ k, k ∈ order_index.keys ↔ k ∈ access_order
  distinct : access_order.Nodup

namespace AdaptiveCache

/-- `AdaptiveCache()`. -/
def init : AdaptiveCache ω where
  ordered := fun _ member => absurd member List.not_mem_nil
  indexed := fun _ => by simp
  distinct := List.nodup_nil

variable (config : OptimizationConfig) (c : AdaptiveCache ω)

/-- Check if cache entry is expired. -/
def is_expired (key : String) (now : Int) : Bool := decide (now - c.creation_times.getD key 0 > config.cache_ttl_seconds)

/-- Remove key and all associated data. -/
def remove_key (key : String) : AdaptiveCache ω := match c.cache.get? key with
  | none => c
  | some value =>
    let listed := c.order_index.contains key
    { cache := c.cache.erase key
      creation_times := c.creation_times.erase key
      memory_usage := c.memory_usage - estimate_size value
      access_order := if listed then c.access_order.erase key else c.access_order
      order_index := if listed then c.order_index.erase key else c.order_index
      ordered := by
        intro k member
        rw [Dict.mem_keys_erase]
        split at member
        · obtain ⟨other, member⟩ := c.distinct.mem_erase_iff.mp member
          exact ⟨c.ordered k member, other⟩
        · next unlisted =>
          refine ⟨c.ordered k member, ?_⟩
          rintro rfl
          exact unlisted ((Dict.contains_iff _ _).mpr ((c.indexed k).mpr member))
      indexed := by
        intro k
        split
        · rw [Dict.mem_keys_erase, c.indexed, c.distinct.mem_erase_iff, and_comm]
        · exact c.indexed k
      distinct := by
        split
        · exact c.distinct.erase key
        · exact c.distinct }

/-- Update LRU access order. The key is in the deque where the index has it. -/
def update_access_order (key : String) (known : key ∈ c.cache.keys) : AdaptiveCache ω :=
  { c with
    access_order := (if c.order_index.contains key then c.access_order.erase key else c.access_order) ++ [key]
    order_index := c.order_index.set key true
    ordered := by
      intro k member
      rcases List.mem_append.mp member with old | new
      · split at old
        · exact c.ordered k (List.mem_of_mem_erase old)
        · exact c.ordered k old
      · exact List.mem_singleton.mp new ▸ known
    indexed := by
      intro k
      rw [Dict.mem_keys_set, List.mem_append, List.mem_singleton, c.indexed, or_comm]
      by_cases same : k = key
      · simp [same]
      · split
        · simp [same, c.distinct.mem_erase_iff]
        · rfl
    distinct := by
      refine List.nodup_append.mpr ⟨?_, List.nodup_singleton key, ?_⟩
      · split
        · exact c.distinct.erase key
        · exact c.distinct
      · intro k member other single equal
        rw [List.mem_singleton.mp single] at equal
        subst equal
        split at member
        · exact c.distinct.not_mem_erase member
        · next unlisted => exact unlisted ((Dict.contains_iff _ _).mpr ((c.indexed k).mpr member)) }

/-- Evict least recently used item; `none` where there is nothing to evict. -/
def evict_item : Option (AdaptiveCache ω) := match c.access_order with
  | [] => none
  | lru_key :: _ => some (c.remove_key lru_key)

/-- Get value from cache with LRU tracking. -/
def get (key : String) (default : Object ω) (now : Int) : Object ω × AdaptiveCache ω :=
  match found : c.cache.get? key with
  | none => (default, c)
  | some value =>
    if c.is_expired config key now then (default, c.remove_key key)
    else (value, c.update_access_order key (Dict.mem_keys_of_get? found))

/-- A value of this size needs an eviction. -/
def Crowded (value_size : Nat) : Prop :=
  config.cache_max_size ≤ c.cache.length ∨ config.max_memory_bytes < c.memory_usage + value_size

instance (value_size : Nat) : Decidable (c.Crowded config value_size) := inferInstanceAs (Decidable (_ ∨ _))

/-- The loop of `set`, which also ends where there is nothing to evict. -/
def make_space (value_size : Nat) (c : AdaptiveCache ω) : Option (AdaptiveCache ω) :=
  if c.Crowded config value_size then c.evict_item else none

theorem cache_remove_key (key : String) : (c.remove_key key).cache = c.cache.erase key := by
  unfold remove_key
  split
  · next absent =>
    have kept : ∀ item ∈ c.cache.entries, decide (item.1 ≠ key) = true := by
      rintro ⟨k, v⟩ member
      refine decide_eq_true fun same => ?_
      rw [← same, (Dict.get?_some_iff _ _ _).mpr member] at absent
      cases absent
    exact Dict.ext (List.filter_eq_self.mpr kept).symm
  · rfl

variable {c} in
theorem evict_item_eq {made : AdaptiveCache ω} (evicted : c.evict_item = some made) :
    ∃ key ∈ c.cache.keys, made = c.remove_key key := by
  unfold evict_item at evicted
  split at evicted
  · cases evicted
  · next lru_key rest order =>
    refine ⟨lru_key, c.ordered lru_key (order ▸ List.mem_cons_self), (Option.some.inj evicted).symm⟩

theorem make_space_decreasing (value_size : Nat) :
    Loop.Decreasing (make_space config value_size : AdaptiveCache ω → _) fun c => c.cache.length := by
  intro c made next
  unfold make_space at next
  split at next
  · obtain ⟨key, known, rfl⟩ := evict_item_eq next
    show (c.remove_key key).cache.length < c.cache.length
    rw [cache_remove_key]
    exact Dict.length_erase_lt known
  · cases next

/-- Add new item. -/
def add (key : String) (value : Object ω) (now : Int) : AdaptiveCache ω :=
  let added : AdaptiveCache ω :=
    { c with
      cache := c.cache.set key value
      creation_times := c.creation_times.set key now
      memory_usage := c.memory_usage + estimate_size value
      ordered := fun k member => (Dict.mem_keys_set ..).mpr (Or.inr (c.ordered k member)) }
  added.update_access_order key ((Dict.mem_keys_set ..).mpr (Or.inl rfl))

/-- Set value in cache with adaptive size management. -/
def set (key : String) (value : Object ω) (now : Int) : Bool × AdaptiveCache ω :=
  let value_size := estimate_size value
  let made := Loop.exec (make_space config value_size) _ (make_space_decreasing config value_size) c
  if made.Crowded config value_size then (false, made)
  else (true, (if made.cache.contains key then made.remove_key key else made).add key value now)

variable {config c}

/-! ## Entries -/

theorem get?_of_remove_key {key k : String} {value : Object ω} (left : (c.remove_key key).cache.get? k = some value) :
    c.cache.get? k = some value := by
  rw [cache_remove_key] at left
  exact Dict.get?_of_erase left

theorem get?_of_get {key k : String} {default value : Object ω} {now : Int}
    (left : (c.get config key default now).2.cache.get? k = some value) : c.cache.get? k = some value := by
  unfold get at left
  split at left
  · exact left
  · split at left
    · exact get?_of_remove_key left
    · exact left

/-- A value that is read is that of the key. -/
theorem get?_of_hit {key : String} {default : Object ω} {now : Int} (absent : default.is_none = true)
    (hit : (c.get config key default now).1.is_none = false) : c.cache.get? key = some (c.get config key default now).1 := by
  generalize read : c.get config key default now = outcome at hit ⊢
  unfold get at read
  split at read
  · subst read
    rw [absent] at hit
    cases hit
  · next value found =>
    split at read <;> subst read
    · rw [absent] at hit
      cases hit
    · exact found

/-! ## Memory -/

/-- The memory usage is the size of what is stored. -/
def Accounted (c : AdaptiveCache ω) : Prop := c.memory_usage = ((c.cache.entries.map fun item => estimate_size item.2).sum : Nat)

theorem accounted_init : (init : AdaptiveCache ω).Accounted := rfl

theorem accounted_remove_key (accounted : c.Accounted) (key : String) : (c.remove_key key).Accounted := by
  unfold remove_key
  split
  · exact accounted
  · next value found =>
    have sizes : (c.cache.entries.map fun item => estimate_size item.2).sum =
        estimate_size value + ((c.cache.erase key).entries.map fun item => estimate_size item.2).sum :=
      ((Dict.perm_erase found).map fun item => estimate_size item.2).sum_nat
    unfold Accounted at accounted ⊢
    simp only
    omega

/-- A new key adds the size of its value. -/
theorem accounted_add {key : String} (accounted : c.Accounted) (fresh : c.cache.get? key = none) (value : Object ω) (now : Int) :
    (c.add key value now).Accounted := by
  have entries : (c.add key value now).cache.entries = c.cache.entries ++ [(key, value)] := Dict.entries_set_of_fresh fresh value
  have sizes : ((c.add key value now).cache.entries.map fun item => estimate_size item.2).sum =
      (c.cache.entries.map fun item => estimate_size item.2).sum + estimate_size value := by
    rw [entries, List.map_append, List.sum_append]
    rfl
  unfold Accounted at accounted ⊢
  rw [sizes]
  show c.memory_usage + estimate_size value = _
  omega

theorem accounted_get (accounted : c.Accounted) (key : String) (default : Object ω) (now : Int) :
    (c.get config key default now).2.Accounted := by
  unfold get
  split
  · exact accounted
  · split
    · exact accounted_remove_key accounted key
    · exact accounted

/-! ## Setting -/

/-- The empty cache has room for the value. -/
def Storable (config : OptimizationConfig) (value : Object ω) : Prop :=
  0 < config.cache_max_size ∧ estimate_size value ≤ config.max_memory_bytes

/-- The evictions leave some of the entries, and account for the others. -/
theorem make_space_spec (accounted : c.Accounted) (value_size : Nat) {made : AdaptiveCache ω}
    (evicted : Loop.exec (make_space config value_size) _ (make_space_decreasing config value_size) c = made) :
    made.Accounted ∧ ∀ k v, made.cache.get? k = some v → c.cache.get? k = some v := by
  subst evicted
  refine (Loop.exec_induction (P := fun made => made.Accounted ∧ ∀ k v, made.cache.get? k = some v → c.cache.get? k = some v)
    (make_space_decreasing config value_size) c ?_ ⟨accounted, fun _ _ found => found⟩).1
  rintro made next ⟨accounted, within⟩ stepped
  unfold make_space at stepped
  split at stepped
  · obtain ⟨key, -, rfl⟩ := evict_item_eq stepped
    exact ⟨accounted_remove_key accounted key, fun k v left => within k v (get?_of_remove_key left)⟩
  · cases stepped

theorem storable_of_uncrowded (accounted : c.Accounted) {value : Object ω} (uncrowded : ¬c.Crowded config (estimate_size value)) :
    Storable config value := by
  unfold Accounted at accounted
  obtain ⟨few, fits⟩ := not_or.mp uncrowded
  exact ⟨by omega, by omega⟩

/-- The removal of a key that the cache does not have does nothing. -/
theorem remove_if_known (c : AdaptiveCache ω) (key : String) :
    (if c.cache.contains key then c.remove_key key else c) = c.remove_key key := by
  split
  · rfl
  · next absent =>
    rw [remove_key, (Dict.get?_none_iff _ _).mpr fun known => absent ((Dict.contains_iff _ _).mpr known)]

/-- What a set leaves was there, but for the value, which is stored only where it fits. -/
theorem set_spec (accounted : c.Accounted) (key : String) (value : Object ω) (now : Int) :
    (c.set config key value now).2.Accounted ∧ ∀ k v, (c.set config key value now).2.cache.get? k = some v →
      c.cache.get? k = some v ∨ k = key ∧ v = value ∧ Storable config value := by
  unfold set
  simp only
  generalize evicted : Loop.exec (make_space config (estimate_size value)) _ (make_space_decreasing config (estimate_size value)) c = made
  obtain ⟨accounted, within⟩ := make_space_spec accounted _ evicted
  split
  · exact ⟨accounted, fun k v found => Or.inl (within k v found)⟩
  · next uncrowded =>
    have fresh : (made.remove_key key).cache.get? key = none := by rw [cache_remove_key, Dict.get?_erase_self]
    rw [remove_if_known]
    refine ⟨accounted_add (accounted_remove_key accounted key) fresh value now, fun k v found => ?_⟩
    have found : ((made.remove_key key).cache.set key value).get? k = some v := found
    rw [Dict.get?_set] at found
    split at found
    · next same => exact Or.inr ⟨same.symm, (Option.some.inj found).symm, storable_of_uncrowded accounted uncrowded⟩
    · exact Or.inl (within k v (get?_of_remove_key found))

/-- The empty cache stores what it has room for. -/
theorem set_init {value : Object ω} (storable : Storable config value) (key : String) (now : Int) :
    ((init : AdaptiveCache ω).set config key value now).2 = (init : AdaptiveCache ω).add key value now := by
  have uncrowded : ¬(init : AdaptiveCache ω).Crowded config (estimate_size value) := by
    rintro (full | large)
    · exact absurd storable.1 (Int.not_lt.mpr full)
    · exact absurd storable.2 (Int.not_le.mpr (by simpa [init] using large))
  have unmade : Loop.exec (make_space config (estimate_size value)) _ (make_space_decreasing config (estimate_size value)) init =
      (init : AdaptiveCache ω) := Loop.exec_done _ (by rw [make_space, if_neg uncrowded])
  unfold set
  simp only [unmade, if_neg uncrowded]
  rfl

/-- A new value is read until it is older than the cache allows. -/
theorem get_add (c : AdaptiveCache ω) (key : String) (value default : Object ω) {made now : Int}
    (young : now - made ≤ config.cache_ttl_seconds) :
    ((c.add key value made).get config key default now).1 = value := by
  have stored : (c.add key value made).cache.get? key = some value := Dict.get?_set_self ..
  have live : (c.add key value made).is_expired config key now = false := by
    have creation : (c.add key value made).creation_times.getD key 0 = made :=
      congrArg (fun time => Option.getD time 0) (Dict.get?_set_self c.creation_times key made)
    rw [is_expired, creation]
    exact decide_eq_false (Int.not_lt.mpr young)
  unfold get
  split
  · next absent =>
    rw [stored] at absent
    cases absent
  · next found =>
    rw [live]
    exact (Option.some.inj (stored.symm.trans found)).symm

end AdaptiveCache

end RevitPy.Performance
