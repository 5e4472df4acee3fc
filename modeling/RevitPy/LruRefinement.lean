import RevitPy.Cache
import RevitPy.Lru

/-!
# The memory cache and the cache that evicts what was used longest ago

A set of the memory cache makes room before it looks whether the key is stored, and
a key that is overwritten keeps its place. So a full cache may evict another key than
the reference does.
-/

namespace RevitPy
variable {δ : Type}

namespace MemoryCache
variable {c : MemoryCache δ}

/-- The cache is full, so that a set evicts. -/
def Full (c : MemoryCache δ) : Prop := c.config.max_size ≤ c.cache.length

instance (c : MemoryCache δ) : Decidable c.Full := inferInstanceAs (Decidable (c.config.max_size ≤ c.cache.length))

/-- No stored entry has expired. -/
def Live (c : MemoryCache δ) (now : Nat) : Prop :=
  ∀ k entry, c.cache.get? k = some entry → entry.is_expired now = false

/-- The cache after the evictions by size stays within the memory limit. -/
def WithinMemory (c : MemoryCache δ) : Prop := (Loop.exec shrink_size _ shrink_size_decreasing c).shrink_memory = none

theorem evict_first (policy : c.config.eviction_policy = .LRU) (j : String) :
    c.evict_one.cache.get? j = if c.cache.keys.head? = some j then none else c.cache.get? j := by
  have first : c.victim = c.cache.keys.head? := by simp [victim, policy]
  unfold evict_one
  rw [first]
  cases c.cache.keys.head? with
  | none => simp
  | some key_str =>
    rw [cache_remove, Dict.get?_erase]
    simp

/-- Where the cache holds no more than it may, one eviction makes room. -/
theorem ensure_capacity_first (policy : c.config.eviction_policy = .LRU) (bounded : c.cache.length ≤ c.config.max_size)
    (memory : c.WithinMemory) : c.ensure_capacity.config = c.config ∧ c.ensure_capacity.cache.length < c.config.max_size ∧
      ∀ j, c.ensure_capacity.cache.get? j = if c.Full ∧ c.cache.keys.head? = some j then none else c.cache.get? j := by
  have ensured : c.ensure_capacity = Loop.exec shrink_size _ shrink_size_decreasing c := Loop.exec_done _ memory
  rw [ensured]
  by_cases full : c.Full
  · have config := c.config_evict_one
    have fewer := length_evict_one (Nat.lt_of_lt_of_le c.config.max_size_positive full)
    have next : c.shrink_size = some c.evict_one := if_pos full
    have room : c.evict_one.shrink_size = none := if_neg (by rw [config]; omega)
    rw [Loop.exec_next _ next, Loop.exec_done _ room]
    refine ⟨config, by omega, fun j => ?_⟩
    rw [evict_first policy]
    simp only [full, true_and]
  · have room : c.shrink_size = none := if_neg full
    rw [Loop.exec_done _ room]
    exact ⟨rfl, Nat.lt_of_not_le full, fun j => by simp [full]⟩

theorem config_store (c : MemoryCache δ) (key_str : String) (entry : CacheEntry δ) : (c.store key_str entry).config = c.config :=
  (tracked key_str entry.dependencies _).2

/-- Nothing is cleaned up where nothing has expired. -/
theorem cleanup_live {now : Nat} (live : c.Live now) : c.cleanup_expired now = c := by
  have none_expired : (c.cache.entries.filter fun item => item.2.is_expired now) = [] := by
    rw [List.filter_eq_nil_iff]
    intro item member expired
    rw [live item.1 item.2 ((Dict.get?_some_iff _ _ _).mpr member)] at expired
    cases expired
  rw [cleanup_expired, none_expired]
  rfl

/-- What a set leaves under the other keys: a full cache loses its first key. -/
theorem set_first {now : Nat} {entry : CacheEntry δ} (policy : c.config.eviction_policy = .LRU)
    (bounded : c.cache.length ≤ c.config.max_size) (memory : c.WithinMemory) (live : c.Live now)
    (fresh : entry.is_expired now = false) (key : CacheKey) :
    (c.set now key entry).config = c.config ∧ (c.set now key entry).cache.length ≤ c.config.max_size ∧
      ∀ j, (c.set now key entry).cache.get? j = if key.str = j then some entry
        else if c.Full ∧ c.cache.keys.head? = some j then none else c.cache.get? j := by
  obtain ⟨config, room, kept⟩ := ensure_capacity_first policy bounded memory
  have lookup (j : String) : (c.ensure_capacity.store key.str entry).cache.get? j = if key.str = j then some entry
      else if c.Full ∧ c.cache.keys.head? = some j then none else c.cache.get? j := by
    rw [cache_store, Dict.get?_set, kept]
  have stored : (c.ensure_capacity.store key.str entry).Live now := by
    intro j other found
    rw [lookup] at found
    split at found
    · exact Option.some.inj found ▸ fresh
    · split at found
      · cases found
      · exact live j other found
  have same : (c.set now key entry).cache = (c.ensure_capacity.store key.str entry).cache ∧
      (c.set now key entry).config = (c.ensure_capacity.store key.str entry).config := by
    unfold set
    simp only
    split
    · rw [cleanup_live stored]
      exact ⟨rfl, rfl⟩
    · exact ⟨rfl, rfl⟩
  rw [same.1, same.2, config_store, config]
  refine ⟨rfl, ?_, lookup⟩
  rw [cache_store]
  have longer := Dict.length_set_le c.ensure_capacity.cache key.str entry
  omega

/-- A read marks an entry as accessed and changes nothing else. -/
theorem get_live {now : Nat} (live : c.Live now) (key : CacheKey) : (c.get now key).2.config = c.config ∧
    (c.get now key).2.cache.length = c.cache.length ∧
      ∀ j, ((c.get now key).2.cache.get? j).map CacheEntry.data = (c.cache.get? j).map CacheEntry.data := by
  have kept : (c.get now key).2.config = c.config ∧
      ∀ j, ((c.get now key).2.cache.get? j).map CacheEntry.data = (c.cache.get? j).map CacheEntry.data := by
    unfold get
    split
    · exact ⟨rfl, fun _ => rfl⟩
    · next entry found =>
      rw [if_neg (by simp [live key.str entry found])]
      refine ⟨rfl, fun j => ?_⟩
      rw [get?_accessed]
      split
      · next same =>
        rw [← same, found]
        rfl
      · rfl
  refine ⟨kept.1, Dict.length_eq_of_mem_keys fun k => not_iff_not.mp ?_, kept.2⟩
  rw [← Dict.get?_none_iff, ← Dict.get?_none_iff, ← Option.map_eq_none_iff (f := CacheEntry.data), kept.2, Option.map_eq_none_iff]

theorem delete_removes (c : MemoryCache δ) (key : CacheKey) : (c.delete key).2.config = c.config ∧
    (c.delete key).2.cache.length ≤ c.cache.length ∧
      ∀ j, (c.delete key).2.cache.get? j = if key.str = j then none else c.cache.get? j := by
  unfold delete
  split
  · refine ⟨config_remove c _, ?_, fun j => ?_⟩
    · rw [cache_remove]
      exact Dict.length_erase_le _ _
    · rw [cache_remove, Dict.get?_erase]
  · next absent =>
    refine ⟨rfl, Nat.le_refl _, fun j => ?_⟩
    split
    · next same => exact same ▸ (Dict.get?_none_iff _ _).mpr fun known => absent ((Dict.contains_iff _ _).mpr known)
    · rfl

end MemoryCache

/-! ## Runs -/

inductive LruCall (δ : Type)
  | get (now : Nat) (key : CacheKey)
  | set (now : Nat) (key : CacheKey) (entry : CacheEntry δ)
  | delete (key : CacheKey)

/-- The memory cache beside the reference, after the same calls. -/
structure PairedCache (δ : Type) where
  memory : MemoryCache δ
  reference : Lru String δ

namespace PairedCache

def start (config : CacheConfiguration) (last_cleanup : Nat) : PairedCache δ where
  memory := { config, last_cleanup }
  reference :=
    { capacity := config.max_size
      positive := config.max_size_positive
      bounded := Nat.zero_le _ }

def step (s : PairedCache δ) : LruCall δ → PairedCache δ
  | .get now key => ⟨(s.memory.get now key).2, (s.reference.get key.str).2⟩
  | .set now key entry => ⟨s.memory.set now key entry, s.reference.set key.str entry.data⟩
  | .delete key => ⟨(s.memory.delete key).2, s.reference.delete key.str⟩

def run (s : PairedCache δ) (calls : List (LruCall δ)) : PairedCache δ := calls.foldl step s

/-- Both hold the same keys, with the same values. -/
def Agrees (s : PairedCache δ) : Prop := ∀ k, (s.memory.cache.get? k).map CacheEntry.data = s.reference.items.get? k

/-- Nothing expires, and the memory limit is not reached. -/
def Undisturbed (s : PairedCache δ) : LruCall δ → Prop
  | .get now _ => s.memory.Live now
  | .set now _ entry => s.memory.Live now ∧ entry.is_expired now = false ∧ s.memory.WithinMemory
  | .delete _ => True

/-- A set on a full cache finds, first in the order of the memory cache, its own key or,
    where that is new, the key that was used longest ago. -/
def EvictsOldest (s : PairedCache δ) : LruCall δ → Prop
  | .set _ key _ => s.memory.Full → s.memory.cache.keys.head? =
      if key.str ∈ s.memory.cache.keys then some key.str else s.reference.oldest
  | _ => True

def AllUndisturbed (s : PairedCache δ) : List (LruCall δ) → Prop
  | [] => True
  | call :: rest => s.Undisturbed call ∧ AllUndisturbed (s.step call) rest

def AllEvictOldest (s : PairedCache δ) : List (LruCall δ) → Prop
  | [] => True
  | call :: rest => s.EvictsOldest call ∧ AllEvictOldest (s.step call) rest

/-- Both agree in every state that the calls lead through. -/
def AllAgree (s : PairedCache δ) : List (LruCall δ) → Prop
  | [] => s.Agrees
  | call :: rest => s.Agrees ∧ AllAgree (s.step call) rest

/-! ## Steps -/

/-- Neither holds more than the other may. -/
structure Bounded (s : PairedCache δ) : Prop where
  policy : s.memory.config.eviction_policy = .LRU
  capacity : s.reference.capacity = s.memory.config.max_size
  length : s.memory.cache.length ≤ s.memory.config.max_size

variable {s : PairedCache δ}

theorem Agrees.mem_keys (agrees : s.Agrees) (k : String) : k ∈ s.memory.cache.keys ↔ k ∈ s.reference.items.keys := by
  rw [Dict.mem_keys_iff, Dict.mem_keys_iff]
  simp only [← agrees k, Option.map_eq_some_iff]
  constructor
  · rintro ⟨entry, found⟩
    exact ⟨entry.data, entry, found, rfl⟩
  · rintro ⟨_, entry, found, _⟩
    exact ⟨entry, found⟩

theorem Agrees.full_iff (agrees : s.Agrees) (bounded : s.Bounded) : s.memory.Full ↔ s.reference.full := by
  rw [MemoryCache.Full, Lru.full, bounded.capacity, Dict.length_eq_of_mem_keys agrees.mem_keys]

/-- The first key of a full cache. -/
theorem first_of_full (full : s.memory.Full) : ∃ k, s.memory.cache.keys.head? = some k ∧ k ∈ s.memory.cache.keys := by
  have stored : 0 < s.memory.cache.length := Nat.lt_of_lt_of_le s.memory.config.max_size_positive full
  have nonempty : s.memory.cache.keys ≠ [] := by
    rw [ne_eq, ← List.length_eq_zero_iff, Dict.length_keys]
    omega
  exact ⟨_, List.head?_eq_some_head nonempty, List.head_mem nonempty⟩

/-- After a set both agree exactly if the memory cache evicts what the reference does. -/
theorem agrees_set_iff (bounded : s.Bounded) (agrees : s.Agrees) {now : Nat} {key : CacheKey} {entry : CacheEntry δ}
    (undisturbed : s.Undisturbed (.set now key entry)) :
    (s.step (.set now key entry)).Agrees ↔ s.EvictsOldest (.set now key entry) := by
  obtain ⟨live, fresh, memory⟩ := undisturbed
  obtain ⟨_, _, lookup⟩ := MemoryCache.set_first bounded.policy bounded.length memory live fresh key
  have same (j : String) : ((s.step (.set now key entry)).memory.cache.get? j).map CacheEntry.data =
      if key.str = j then some entry.data
      else if s.memory.Full ∧ s.memory.cache.keys.head? = some j then none else s.reference.items.get? j := by
    rw [step, lookup]
    split
    · rfl
    · split
      · rfl
      · exact agrees j
  have reference (j : String) : (s.step (.set now key entry)).reference.items.get? j = if key.str = j then some entry.data
      else if key.str ∉ s.memory.cache.keys ∧ s.memory.Full ∧ s.reference.oldest = some j then none
      else s.reference.items.get? j := by
    simp only [step, Lru.get?_set, agrees.mem_keys, agrees.full_iff bounded]
  constructor
  · intro agrees' full
    obtain ⟨first, head, stored⟩ := first_of_full full
    have lost := (same first).symm.trans ((agrees' first).trans (reference first))
    have held : s.reference.items.get? first ≠ none := fun absent =>
      (Dict.get?_none_iff _ _).mp absent ((agrees.mem_keys first).mp stored)
    rw [head] at lost ⊢
    by_cases this : key.str = first
    · rw [if_pos (this ▸ stored), this]
    · rw [if_neg this, if_neg this, if_pos ⟨full, rfl⟩] at lost
      split at lost
      · next evicted => rw [if_neg evicted.1, evicted.2.2]
      · exact absurd lost.symm held
  · intro evicts j
    rw [same, reference]
    split
    · rfl
    · next other =>
      by_cases full : s.memory.Full
      · rw [evicts full]
        by_cases known : key.str ∈ s.memory.cache.keys <;> simp [full, known, other]
      · simp [full]

theorem agrees_step_iff (bounded : s.Bounded) (agrees : s.Agrees) {call : LruCall δ} (undisturbed : s.Undisturbed call) :
    (s.step call).Agrees ↔ s.EvictsOldest call := by
  cases call with
  | get now key =>
    obtain ⟨_, _, kept⟩ := MemoryCache.get_live undisturbed key
    exact ⟨fun _ => trivial, fun _ j => (kept j).trans ((agrees j).trans (s.reference.get?_get key.str j).symm)⟩
  | set now key entry => exact agrees_set_iff bounded agrees undisturbed
  | delete key =>
    obtain ⟨_, _, removed⟩ := s.memory.delete_removes key
    refine ⟨fun _ => trivial, fun _ j => ?_⟩
    rw [step, removed, Lru.get?_delete, apply_ite (Option.map CacheEntry.data), agrees j]
    rfl

theorem Bounded.memory (bounded : s.Bounded) {call : LruCall δ} (undisturbed : s.Undisturbed call) :
    (s.step call).memory.config = s.memory.config ∧ (s.step call).memory.cache.length ≤ s.memory.config.max_size := by
  cases call with
  | get now key =>
    obtain ⟨same, length, _⟩ := MemoryCache.get_live undisturbed key
    exact ⟨same, length ▸ bounded.length⟩
  | set now key entry =>
    obtain ⟨live, fresh, memory⟩ := undisturbed
    obtain ⟨same, length, _⟩ := MemoryCache.set_first bounded.policy bounded.length memory live fresh key
    exact ⟨same, length⟩
  | delete key =>
    obtain ⟨same, length, _⟩ := s.memory.delete_removes key
    exact ⟨same, Nat.le_trans length bounded.length⟩

theorem Bounded.step (bounded : s.Bounded) {call : LruCall δ} (undisturbed : s.Undisturbed call) : (s.step call).Bounded := by
  obtain ⟨same, length⟩ := bounded.memory undisturbed
  have capacity : (s.step call).reference.capacity = s.reference.capacity := by cases call <;> rfl
  exact ⟨same ▸ bounded.policy, capacity.trans (same ▸ bounded.capacity), same ▸ length⟩

theorem all_agree_iff (bounded : s.Bounded) (agrees : s.Agrees) (calls : List (LruCall δ)) (undisturbed : s.AllUndisturbed calls) :
    s.AllAgree calls ↔ s.AllEvictOldest calls := by
  induction calls generalizing s with
  | nil => exact ⟨fun _ => trivial, fun _ => agrees⟩
  | cons call rest ih =>
    obtain ⟨now, later⟩ := undisturbed
    have one := agrees_step_iff bounded agrees now
    have first : (s.step call).AllAgree rest → (s.step call).Agrees := by
      cases rest with
      | nil => exact id
      | cons _ _ => exact And.left
    constructor
    · rintro ⟨_, after⟩
      have agrees' := first after
      exact ⟨one.mp agrees', (ih (bounded.step now) agrees' later).mp after⟩
    · rintro ⟨evicts, after⟩
      exact ⟨agrees, (ih (bounded.step now) (one.mpr evicts) later).mpr after⟩

/-- Over calls of a new cache that nothing disturbs, the memory cache agrees with the
    reference exactly if each set on a full cache evicts what the reference evicts. -/
theorem lru_refinement_iff (config : CacheConfiguration) (policy : config.eviction_policy = .LRU) (last_cleanup : Nat)
    (calls : List (LruCall δ)) (undisturbed : AllUndisturbed (start config last_cleanup) calls) :
    AllAgree (start config last_cleanup) calls ↔ AllEvictOldest (start config last_cleanup) calls :=
  all_agree_iff ⟨policy, rfl, Nat.zero_le _⟩ (fun _ => rfl) calls undisturbed

/-! ## Calls that nothing disturbs -/

/-- What is set never expires. -/
def Untimed : LruCall δ → Prop
  | .set _ _ entry => entry.ttl_seconds = none
  | _ => True

/-- Where the entries that fit are within the memory limit, it is never reached. -/
theorem within_memory (c : MemoryCache δ) (roomy : c.config.max_size ≤ 1000 * c.config.max_memory_mb) : c.WithinMemory := by
  have evicts : ∀ d : MemoryCache δ, d.config = c.config → d.evict_one.config = c.config :=
    fun d same => d.config_evict_one.trans same
  obtain ⟨same, ended⟩ := MemoryCache.shrunk_size_induction evicts rfl
  unfold MemoryCache.WithinMemory
  generalize Loop.exec MemoryCache.shrink_size _ MemoryCache.shrink_size_decreasing c = d at same ended ⊢
  have room : ¬d.config.max_size ≤ d.cache.length := fun full => by simp [MemoryCache.shrink_size, full] at ended
  refine if_neg ?_
  rw [same] at room ⊢
  omega

/-- No stored entry ever expires. -/
def Timeless (c : MemoryCache δ) : Prop := ∀ k entry, c.cache.get? k = some entry → entry.ttl_seconds = none

theorem Timeless.live {c : MemoryCache δ} (timeless : Timeless c) (now : Nat) : c.Live now := fun k entry found => by
  simp [CacheEntry.is_expired, timeless k entry found]

theorem Timeless.within {c d : MemoryCache δ} (timeless : Timeless c) (within : d.Within c) : Timeless d := by
  intro k entry found
  obtain ⟨old, before, agree⟩ := within k entry found
  exact agree.2.2.trans (timeless k old before)

theorem all_undisturbed (bounded : s.Bounded) (timeless : Timeless s.memory)
    (roomy : s.memory.config.max_size ≤ 1000 * s.memory.config.max_memory_mb) (calls : List (LruCall δ))
    (untimed : ∀ call ∈ calls, Untimed call) : s.AllUndisturbed calls := by
  induction calls generalizing s with
  | nil => trivial
  | cons call rest ih =>
    obtain ⟨first, later⟩ := List.forall_mem_cons.mp untimed
    have undisturbed : s.Undisturbed call := by
      cases call with
      | get now key => exact timeless.live now
      | set now key entry =>
        have fresh : entry.ttl_seconds = none := first
        exact ⟨timeless.live now, by simp [CacheEntry.is_expired, fresh], within_memory s.memory roomy⟩
      | delete key => trivial
    have timeless' : Timeless (s.step call).memory := by
      cases call with
      | get now key => exact timeless.within (s.memory.within_get now key)
      | set now key entry =>
        intro k other found
        rcases MemoryCache.within_set found with ⟨_, agree⟩ | ⟨old, before, agree⟩
        · exact agree.2.2.trans first
        · exact agree.2.2.trans (timeless k old before)
      | delete key => exact timeless.within (s.memory.within_delete key)
    have same := (bounded.memory undisturbed).1
    exact ⟨undisturbed, ih (bounded.step undisturbed) timeless' (same ▸ roomy) later⟩

theorem all_undisturbed_start (config : CacheConfiguration) (policy : config.eviction_policy = .LRU)
    (roomy : config.max_size ≤ 1000 * config.max_memory_mb) (last_cleanup : Nat) (calls : List (LruCall δ))
    (untimed : ∀ call ∈ calls, Untimed call) : AllUndisturbed (start config last_cleanup) calls :=
  all_undisturbed ⟨policy, rfl, Nat.zero_le _⟩ (fun _ _ found => by cases found) roomy calls untimed

/-! ## A cache for two -/

def pair : CacheConfiguration :=
  { CacheConfiguration.defaults with
    max_size := 2
    max_size_positive := Nat.two_pos }

def set_call (name : String) (data : Nat) : LruCall Nat :=
  .set 0 { entity_type := name } { data := data, created_at := 0, accessed_at := 0 }

/-- The wall is read, so that the door is evicted for the room. -/
def read_wall : List (LruCall Nat) :=
  [set_call "Wall" 1, set_call "Door" 2, .get 0 { entity_type := "Wall" }, set_call "Room" 3]

/-- The door is set again while the cache is full, and the wall is evicted for it. -/
def overwrite_door : List (LruCall Nat) := [set_call "Wall" 1, set_call "Door" 2, set_call "Door" 3]

theorem read_wall_agrees : AllAgree (start pair 0) read_wall := by
  have untimed : ∀ call ∈ read_wall, Untimed call := by simp [read_wall, set_call, Untimed]
  refine (lru_refinement_iff pair rfl 0 read_wall (all_undisturbed_start pair rfl (by decide) 0 read_wall untimed)).mpr ?_
  refine ⟨?_, ?_, trivial, ?_, trivial⟩ <;> unfold set_call EvictsOldest <;> decide +kernel

theorem overwrite_door_evicts :
    ¬∀ (config : CacheConfiguration) (last_cleanup : Nat) (calls : List (LruCall Nat)), config.eviction_policy = .LRU →
      AllUndisturbed (start config last_cleanup) calls → AllAgree (start config last_cleanup) calls := by
  intro agree
  have untimed : ∀ call ∈ overwrite_door, Untimed call := by simp [overwrite_door, set_call, Untimed]
  obtain ⟨_, _, _, agrees⟩ := agree pair 0 overwrite_door rfl (all_undisturbed_start pair rfl (by decide) 0 overwrite_door untimed)
  exact absurd (agrees "Wall") (by decide +kernel)

end PairedCache

end RevitPy
