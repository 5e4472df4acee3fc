import RevitPy.AdaptiveCache

/-!
# The structures of the adaptive cache

The cache keeps its keys in seven structures, and changes all of them together: a key
that is in one of them is in all, the keys stand in the order of their last use, and
the limits hold after every operation, as long as an empty cache meets them.
-/

namespace RevitPy.Performance

variable {ω : Type}

/-! ## Estimates under a recursion limit -/

mutual

/-- Estimate memory size of object, with so many frames left. The sum over the items takes one frame and the
    call for an item another, and where they are missing the default takes the place of the sum. -/
def estimate_size_within : Nat → Object ω → Nat
  | _, .str text => text.utf8ByteSize
  | _, .ndarray nbytes _ => nbytes
  | frames, .list items =>
    (if items.length > 0 ∧ frames < 2 then 0 else estimate_items_within (frames - 2) items) + DEFAULT_ESTIMATED_OBJECT_SIZE
  | frames, .tuple items =>
    (if items.length > 0 ∧ frames < 2 then 0 else estimate_items_within (frames - 2) items) + DEFAULT_ESTIMATED_OBJECT_SIZE
  | frames, .dict items =>
    (if items.length > 0 ∧ frames < 2 then 0 else estimate_pairs_within (frames - 2) items) + DEFAULT_ESTIMATED_OBJECT_SIZE
  | _, .none => DEFAULT_ESTIMATED_OBJECT_SIZE
  | _, .object _ => DEFAULT_ESTIMATED_OBJECT_SIZE

def estimate_items_within : Nat → List (Object ω) → Nat
  | _, [] => 0
  | frames, item :: items => estimate_size_within frames item + estimate_items_within frames items

def estimate_pair_within : Nat → Object ω × Object ω → Nat
  | frames, (k, v) => estimate_size_within frames k + estimate_size_within frames v

def estimate_pairs_within : Nat → List (Object ω × Object ω) → Nat
  | _, [] => 0
  | frames, item :: items => estimate_pair_within frames item + estimate_pairs_within frames items

end

mutual

/-- How deeply containers are nested in a value. -/
def nesting : Object ω → Nat
  | .list items | .tuple items => nesting_items items + 1
  | .dict items => nesting_pairs items + 1
  | _ => 0

def nesting_items : List (Object ω) → Nat
  | [] => 0
  | item :: items => max (nesting item) (nesting_items items)

def nesting_pair : Object ω × Object ω → Nat
  | (k, v) => max (nesting k) (nesting v)

def nesting_pairs : List (Object ω × Object ω) → Nat
  | [] => 0
  | item :: items => max (nesting_pair item) (nesting_pairs items)

end

mutual

/-- With two frames for each container the estimate does not depend on the frames. -/
theorem estimate_size_of_frames {frames : Nat} : ∀ {value : Object ω}, 2 * nesting value ≤ frames →
    estimate_size_within frames value = estimate_size value
  | .str _, _ | .ndarray _ _, _ | .none, _ | .object _, _ => by simp [estimate_size_within, estimate_size]
  | .list items, enough | .tuple items, enough => by
    simp only [nesting] at enough
    rw [estimate_size_within, estimate_size, if_neg (by omega), estimate_items_of_frames (by omega)]
  | .dict items, enough => by
    simp only [nesting] at enough
    rw [estimate_size_within, estimate_size, if_neg (by omega), estimate_pairs_of_frames (by omega)]

theorem estimate_items_of_frames {frames : Nat} : ∀ {items : List (Object ω)}, 2 * nesting_items items ≤ frames →
    estimate_items_within frames items = estimate_items items
  | [], _ => rfl
  | item :: items, enough => by
    simp only [nesting_items] at enough
    rw [estimate_items_within, estimate_items, estimate_size_of_frames (by omega), estimate_items_of_frames (by omega)]

theorem estimate_pair_of_frames {frames : Nat} : ∀ {pair : Object ω × Object ω}, 2 * nesting_pair pair ≤ frames →
    estimate_pair_within frames pair = estimate_pair pair
  | (k, v), enough => by
    simp only [nesting_pair] at enough
    rw [estimate_pair_within, estimate_pair, estimate_size_of_frames (by omega), estimate_size_of_frames (by omega)]

theorem estimate_pairs_of_frames {frames : Nat} : ∀ {items : List (Object ω × Object ω)}, 2 * nesting_pairs items ≤ frames →
    estimate_pairs_within frames items = estimate_pairs items
  | [], _ => rfl
  | item :: items, enough => by
    simp only [nesting_pairs] at enough
    rw [estimate_pairs_within, estimate_pairs, estimate_pair_of_frames (by omega), estimate_pairs_of_frames (by omega)]

end

/-- A list that is estimated with too few frames. -/
example : estimate_size_within 1 (.list [.none] : Object Unit) = 64 ∧ estimate_size (.list [.none] : Object Unit) = 128 := by decide

/-! ## The operations -/

/-- The cache with its statistics of accesses. -/
structure TrackedCache (ω : Type) where
  core : AdaptiveCache ω := .init
  access_times : Dict String Int := ∅
  access_counts : Dict String Nat := ∅
  /-- The keys as they were hit or set, the last use first. -/
  uses : List String := []

namespace AdaptiveCache

variable {c : AdaptiveCache ω}

theorem access_order_remove_key (c : AdaptiveCache ω) (key : String) : (c.remove_key key).access_order = c.access_order.erase key := by
  unfold remove_key
  split
  · next absent =>
    exact (List.erase_of_not_mem fun member => (Dict.get?_none_iff _ _).mp absent (c.ordered key member)).symm
  · simp only
    split
    · rfl
    · next unlisted =>
      exact (List.erase_of_not_mem fun member => unlisted ((Dict.contains_iff _ _).mpr ((c.indexed key).mpr member))).symm

theorem access_order_update (c : AdaptiveCache ω) (key : String) (known : key ∈ c.cache.keys) :
    (c.update_access_order key known).access_order = c.access_order.erase key ++ [key] := by
  unfold update_access_order
  simp only
  split
  · rfl
  · next unlisted =>
    rw [List.erase_of_not_mem fun member => unlisted ((Dict.contains_iff _ _).mpr ((c.indexed key).mpr member))]

theorem creation_times_remove_key {key : String} (known : key ∈ c.cache.keys) :
    (c.remove_key key).creation_times = c.creation_times.erase key := by
  obtain ⟨value, found⟩ := (Dict.mem_keys_iff _ _).mp known
  unfold remove_key
  split
  · next absent => cases absent.symm.trans found
  · rfl

end AdaptiveCache

namespace TrackedCache

variable (config : OptimizationConfig) (c : TrackedCache ω)

/-- Remove key and all associated data. -/
def remove_key (key : String) : TrackedCache ω :=
  if c.core.cache.contains key then
    { c with core := c.core.remove_key key, access_times := c.access_times.erase key, access_counts := c.access_counts.erase key }
  else c

/-- Evict least recently used item. -/
def evict_item : Option (TrackedCache ω) := match c.core.access_order with
  | [] => none
  | lru_key :: _ => some (c.remove_key lru_key)

/-- Get value from cache with LRU tracking, at a time, with the time that is kept for the access. -/
def get (key : String) (default : Object ω) (now accessed : Int) : Object ω × TrackedCache ω :=
  match found : c.core.cache.get? key with
  | none => (default, c)
  | some value =>
    if c.core.is_expired config key now then (default, c.remove_key key)
    else
      (value,
        { core := c.core.update_access_order key (Dict.mem_keys_of_get? found)
          access_times := c.access_times.set key accessed
          access_counts := c.access_counts.set key (c.access_counts.getD key 0 + 1)
          uses := key :: c.uses })

/-- The loop of `set`. -/
def make_space (value_size : Nat) (c : TrackedCache ω) : Option (TrackedCache ω) :=
  if c.core.Crowded config value_size then c.evict_item else none

theorem core_remove_key (key : String) : (c.remove_key key).core = c.core.remove_key key := by
  unfold remove_key
  split
  · rfl
  · rename_i absent
    rw [AdaptiveCache.remove_key, (Dict.get?_none_iff _ _).mpr fun known => absent ((Dict.contains_iff _ _).mpr known)]

theorem core_evict_item : c.evict_item.map core = c.core.evict_item := by
  unfold evict_item AdaptiveCache.evict_item
  cases c.core.access_order with
  | nil => rfl
  | cons lru_key rest => exact congrArg some (c.core_remove_key lru_key)

theorem core_make_space (value_size : Nat) (c : TrackedCache ω) :
    (c.make_space config value_size).map core = c.core.make_space config value_size := by
  unfold make_space AdaptiveCache.make_space
  split
  · exact c.core_evict_item
  · rfl

theorem make_space_decreasing (value_size : Nat) :
    Loop.Decreasing (make_space config value_size : TrackedCache ω → _) fun c => c.core.cache.length := by
  intro c made next
  have seen := core_make_space config value_size c
  rw [next] at seen
  exact AdaptiveCache.make_space_decreasing config value_size c.core made.core seen.symm

def add (key : String) (value : Object ω) (now accessed : Int) : TrackedCache ω where
  core := c.core.add key value now
  access_times := c.access_times.set key accessed
  access_counts := c.access_counts.set key 1
  uses := key :: c.uses

/-- Set value in cache with adaptive size management. -/
def set (key : String) (value : Object ω) (now accessed : Int) : Bool × TrackedCache ω :=
  let value_size := estimate_size value
  let made := Loop.exec (make_space config value_size) _ (make_space_decreasing config value_size) c
  if made.core.Crowded config value_size then (false, made)
  else (true, (if made.core.cache.contains key then made.remove_key key else made).add key value now accessed)

/-- Remove item from cache. -/
def invalidate (key : String) : Bool × TrackedCache ω :=
  if c.core.cache.contains key then (true, c.remove_key key) else (false, c)

/-- Clear all cache entries. -/
def clear : TrackedCache ω := { uses := c.uses }

end TrackedCache

inductive CacheCall (ω : Type)
  | get (key : String) (default : Object ω) (now accessed : Int)
  | set (key : String) (value : Object ω) (now accessed : Int)
  | invalidate (key : String)
  | clear

namespace TrackedCache

def step (config : OptimizationConfig) (c : TrackedCache ω) : CacheCall ω → TrackedCache ω
  | .get key default now accessed => (c.get config key default now accessed).2
  | .set key value now accessed => (c.set config key value now accessed).2
  | .invalidate key => (c.invalidate key).2
  | .clear => c.clear

/-- The cache after some calls. -/
def run (config : OptimizationConfig) (calls : List (CacheCall ω)) : TrackedCache ω := calls.foldl (step config) {}

/-- The structures have the same keys, in the order of their last use, and the memory is accounted for. -/
structure Represented (c : TrackedCache ω) : Prop where
  listed : ∀ k, k ∈ c.core.access_order ↔ k ∈ c.core.cache.keys
  once : c.core.access_order.Nodup
  used : ∀ k ∈ c.core.access_order, k ∈ c.uses
  recent : c.core.access_order.Pairwise fun older newer => c.uses.idxOf newer < c.uses.idxOf older
  indexed : ∀ k, k ∈ c.core.order_index.keys ↔ k ∈ c.core.cache.keys
  accessed : ∀ k, k ∈ c.access_times.keys ↔ k ∈ c.core.cache.keys
  created : ∀ k, k ∈ c.core.creation_times.keys ↔ k ∈ c.core.cache.keys
  counted : ∀ k, k ∈ c.access_counts.keys ↔ k ∈ c.core.cache.keys
  accounted : c.core.Accounted

/-- Neither limit is exceeded. -/
structure Limited (config : OptimizationConfig) (c : TrackedCache ω) : Prop where
  few : ¬(c.core.cache.length : Int) > config.cache_max_size
  small : ¬c.core.memory_usage > config.max_memory_bytes

variable {config : OptimizationConfig} {c : TrackedCache ω}

theorem represented_init : ({} : TrackedCache ω).Represented where
  listed _ := by simp [AdaptiveCache.init]
  once := .nil
  used _ member := absurd member List.not_mem_nil
  recent := .nil
  indexed _ := Iff.rfl
  accessed _ := Iff.rfl
  created _ := Iff.rfl
  counted _ := Iff.rfl
  accounted := AdaptiveCache.accounted_init

/-! ## Removals and uses -/

theorem remove_key_of_absent {key : String} (absent : key ∉ c.core.cache.keys) : c.remove_key key = c := by
  rw [remove_key, if_neg fun known => absent ((Dict.contains_iff _ _).mp known)]

theorem remove_key_of_known {key : String} (known : key ∈ c.core.cache.keys) : c.remove_key key =
    { c with core := c.core.remove_key key, access_times := c.access_times.erase key, access_counts := c.access_counts.erase key } := by
  rw [remove_key, if_pos ((Dict.contains_iff _ _).mpr known)]

theorem represented_remove_key (represented : c.Represented) (key : String) : (c.remove_key key).Represented := by
  by_cases known : key ∈ c.core.cache.keys
  · obtain ⟨listed, once, used, recent, indexed, accessed, created, counted, accounted⟩ := represented
    have cached (k : String) : k ∈ (c.core.remove_key key).cache.keys ↔ k ∈ c.core.cache.keys ∧ k ≠ key := by
      rw [AdaptiveCache.cache_remove_key, Dict.mem_keys_erase]
    have order := AdaptiveCache.access_order_remove_key c.core key
    have listed' (k : String) : k ∈ (c.core.remove_key key).access_order ↔ k ∈ (c.core.remove_key key).cache.keys := by
      rw [order, cached, once.mem_erase_iff, listed, and_comm]
    rw [remove_key_of_known known]
    refine ⟨listed', (c.core.remove_key key).distinct, ?_, ?_, ?_, ?_, ?_, ?_, ?_⟩
    · intro k member
      rw [order] at member
      exact used k (List.mem_of_mem_erase member)
    · rw [order]
      exact recent.sublist List.erase_sublist
    · intro k
      rw [(c.core.remove_key key).indexed, listed']
    · intro k
      rw [Dict.mem_keys_erase, accessed, cached]
    · intro k
      rw [AdaptiveCache.creation_times_remove_key known, Dict.mem_keys_erase, created, cached]
    · intro k
      rw [Dict.mem_keys_erase, counted, cached]
    · exact AdaptiveCache.accounted_remove_key accounted key
  · rw [remove_key_of_absent known]
    exact represented

/-- A use puts its key behind the others. -/
theorem recent_use {order uses : List String} (once : order.Nodup)
    (recent : order.Pairwise fun older newer => uses.idxOf newer < uses.idxOf older) (key : String) :
    (order.erase key ++ [key]).Pairwise fun older newer => (key :: uses).idxOf newer < (key :: uses).idxOf older := by
  have elsewhere {k : String} (member : k ∈ order.erase key) : (key :: uses).idxOf k = uses.idxOf k + 1 :=
    List.idxOf_cons_ne _ (once.mem_erase_iff.mp member).1.symm
  rw [List.pairwise_append]
  refine ⟨?_, List.pairwise_singleton _ _, fun older member newer last => ?_⟩
  · refine (recent.sublist List.erase_sublist).imp_of_mem fun older newer lt => ?_
    rw [elsewhere older, elsewhere newer]
    exact Nat.succ_lt_succ lt
  · rw [List.mem_singleton.mp last, List.idxOf_cons_self, elsewhere member]
    exact Nat.succ_pos _

/-- A use of a key that the cache has makes it known to all structures. -/
theorem represented_use {core : AdaptiveCache ω} {times : Dict String Int} {counts : Dict String Nat} {uses : List String} {key : String}
    (known : key ∈ core.cache.keys) (listed : ∀ k, k ≠ key → (k ∈ core.access_order ↔ k ∈ core.cache.keys))
    (used : ∀ k ∈ core.access_order, k ∈ uses)
    (recent : core.access_order.Pairwise fun older newer => uses.idxOf newer < uses.idxOf older)
    (accessed : ∀ k, k ≠ key → (k ∈ times.keys ↔ k ∈ core.cache.keys)) (created : ∀ k, k ∈ core.creation_times.keys ↔ k ∈ core.cache.keys)
    (counted : ∀ k, k ≠ key → (k ∈ counts.keys ↔ k ∈ core.cache.keys)) (accounted : core.Accounted) (time : Int) (count : Nat) :
    Represented ⟨core.update_access_order key known, times.set key time, counts.set key count, key :: uses⟩ := by
  have order := AdaptiveCache.access_order_update core key known
  have now_listed (k : String) : k ∈ (core.update_access_order key known).access_order ↔ k ∈ core.cache.keys := by
    rw [order, List.mem_append, core.distinct.mem_erase_iff, List.mem_singleton]
    by_cases same : k = key
    · simpa [same] using known
    · simpa [same] using listed k same
  have now_set {β : Type} {d : Dict String β} (others : ∀ k, k ≠ key → (k ∈ d.keys ↔ k ∈ core.cache.keys)) (v : β) (k : String) :
      k ∈ (d.set key v).keys ↔ k ∈ core.cache.keys := by
    rw [Dict.mem_keys_set]
    by_cases same : k = key
    · simpa [same] using known
    · simpa [same] using others k same
  refine ⟨now_listed, (core.update_access_order key known).distinct, ?_, ?_, ?_, now_set accessed time, created, now_set counted count, accounted⟩
  · intro k member
    rw [order, List.mem_append, List.mem_singleton] at member
    rcases member with old | new
    · exact .tail _ (used k (List.mem_of_mem_erase old))
    · exact new ▸ .head _
  · rw [order]
    exact recent_use core.distinct recent key
  · intro k
    rw [(core.update_access_order key known).indexed, now_listed]
    rfl

theorem represented_get (represented : c.Represented) (key : String) (default : Object ω) (now accessed : Int) :
    (c.get config key default now accessed).2.Represented := by
  unfold get
  split
  · exact represented
  · next value found =>
    split
    · exact represented_remove_key represented key
    · exact represented_use (Dict.mem_keys_of_get? found) (fun k _ => represented.listed k) represented.used represented.recent
        (fun k _ => represented.accessed k) represented.created (fun k _ => represented.counted k) represented.accounted _ _

theorem represented_add (represented : c.Represented) {key : String} (fresh : key ∉ c.core.cache.keys) (value : Object ω) (now accessed : Int) :
    (c.add key value now accessed).Represented := by
  have others {α β : Type} {d : Dict String α} {e : Dict String β} (same : ∀ k, k ∈ d.keys ↔ k ∈ e.keys) (v : β) (k : String) (other : k ≠ key) :
      k ∈ d.keys ↔ k ∈ (e.set key v).keys := by
    rw [Dict.mem_keys_set, same]
    simp [other]
  let added : AdaptiveCache ω :=
    { c.core with
      cache := c.core.cache.set key value
      creation_times := c.core.creation_times.set key now
      memory_usage := c.core.memory_usage + estimate_size value
      ordered := fun k member => (Dict.mem_keys_set ..).mpr (Or.inr (c.core.ordered k member)) }
  have known : key ∈ added.cache.keys := (Dict.mem_keys_set ..).mpr (Or.inl rfl)
  have accounted : added.Accounted :=
    AdaptiveCache.accounted_add represented.accounted ((Dict.get?_none_iff _ _).mpr fresh) value now
  have listed (k : String) (other : k ≠ key) : k ∈ added.access_order ↔ k ∈ added.cache.keys := by
    rw [Dict.mem_keys_set]
    simpa [other] using represented.listed k
  have created (k : String) : k ∈ added.creation_times.keys ↔ k ∈ added.cache.keys := by
    simp only [added, Dict.mem_keys_set, represented.created]
  exact represented_use known listed represented.used represented.recent (others represented.accessed value) created
    (others represented.counted value) accounted accessed 1

theorem represented_make_space (config : OptimizationConfig) (represented : c.Represented) (value_size : Nat) :
    (Loop.exec (make_space config value_size) _ (make_space_decreasing config value_size) c).Represented := by
  refine (Loop.exec_induction (P := Represented) (make_space_decreasing config value_size) c (fun d e represented next => ?_) represented).1
  unfold make_space evict_item at next
  split at next
  · split at next
    · cases next
    · cases next
      exact represented_remove_key represented _
  · cases next

theorem represented_set (represented : c.Represented) (key : String) (value : Object ω) (now accessed : Int) :
    (c.set config key value now accessed).2.Represented := by
  have made := represented_make_space config represented (estimate_size value)
  unfold set
  simp only
  split
  · exact made
  · split
    · refine represented_add (represented_remove_key made key) ?_ value now accessed
      rw [core_remove_key, AdaptiveCache.cache_remove_key, Dict.mem_keys_erase]
      simp
    · next fresh =>
      exact represented_add made (fun known => fresh ((Dict.contains_iff _ _).mpr known)) value now accessed

theorem represented_step (represented : c.Represented) (call : CacheCall ω) : (c.step config call).Represented := by
  cases call with
  | get key default now accessed => exact represented_get represented key default now accessed
  | set key value now accessed => exact represented_set represented key value now accessed
  | invalidate key =>
    show (c.invalidate key).2.Represented
    unfold invalidate
    split
    · exact represented_remove_key represented key
    · exact represented
  | clear =>
    have empty := represented_init (ω := ω)
    exact ⟨empty.listed, empty.once, fun _ member => absurd member List.not_mem_nil, .nil, empty.indexed, empty.accessed, empty.created,
      empty.counted, empty.accounted⟩

theorem represented_run (config : OptimizationConfig) (calls : List (CacheCall ω)) : (run config calls).Represented := by
  have later (c : TrackedCache ω) (represented : c.Represented) : (calls.foldl (step config) c).Represented := by
    induction calls generalizing c with
    | nil => exact represented
    | cons call rest ih => exact ih _ (represented_step represented call)
  exact later _ represented_init

/-! ## Limits -/

/-- The cache has become smaller. -/
def Smaller (made c : TrackedCache ω) : Prop :=
  made.core.cache.length ≤ c.core.cache.length ∧ made.core.memory_usage ≤ c.core.memory_usage

theorem Smaller.limited {made : TrackedCache ω} (smaller : made.Smaller c) (limited : c.Limited config) : made.Limited config := by
  obtain ⟨few, small⟩ := limited
  obtain ⟨shorter, lighter⟩ := smaller
  exact ⟨by omega, by omega⟩

theorem smaller_remove_key (c : TrackedCache ω) (key : String) : (c.remove_key key).Smaller c := by
  rw [Smaller, core_remove_key, AdaptiveCache.cache_remove_key]
  refine ⟨Dict.length_erase_le _ _, ?_⟩
  unfold AdaptiveCache.remove_key
  split
  · exact Int.le_refl _
  · simp only
    omega

theorem smaller_make_space (config : OptimizationConfig) (c : TrackedCache ω) (value_size : Nat) :
    (Loop.exec (make_space config value_size) _ (make_space_decreasing config value_size) c).Smaller c := by
  refine (Loop.exec_induction (P := (·.Smaller c)) (make_space_decreasing config value_size) c (fun d e smaller next => ?_)
    ⟨Nat.le_refl _, Int.le_refl _⟩).1
  unfold make_space evict_item at next
  split at next
  · split at next
    · cases next
    · cases next
      obtain ⟨shorter, lighter⟩ := smaller_remove_key d _
      exact ⟨Nat.le_trans shorter smaller.1, Int.le_trans lighter smaller.2⟩
  · cases next

/-- A value is added only where there is room for it. -/
theorem limited_set (limited : c.Limited config) (key : String) (value : Object ω) (now accessed : Int) :
    (c.set config key value now accessed).2.Limited config := by
  have smaller := smaller_make_space config c (estimate_size value)
  unfold set
  simp only
  generalize Loop.exec (make_space config (estimate_size value)) _ (make_space_decreasing config (estimate_size value)) c = made at smaller
  split
  · exact smaller.limited limited
  · next roomy =>
    obtain ⟨few, small⟩ := not_or.mp roomy
    have added (d : TrackedCache ω) (less : d.Smaller made) : (d.add key value now accessed).Limited config := by
      have longer : (d.add key value now accessed).core.cache.length ≤ d.core.cache.length + 1 := Dict.length_set_le _ _ _
      have heavier : (d.add key value now accessed).core.memory_usage = d.core.memory_usage + estimate_size value := rfl
      obtain ⟨shorter, lighter⟩ := less
      exact ⟨by omega, by omega⟩
    split
    · exact added _ (smaller_remove_key made key)
    · exact added _ ⟨Nat.le_refl _, Int.le_refl _⟩

theorem limited_empty (sized : 0 ≤ config.cache_max_size) (weighed : 0 ≤ config.cache_max_memory_mb) {c : TrackedCache ω}
    (few : c.core.cache.length = 0) (small : c.core.memory_usage = 0) : c.Limited config := by
  have bytes : 0 ≤ config.max_memory_bytes := by
    unfold OptimizationConfig.max_memory_bytes
    omega
  exact ⟨by omega, by omega⟩

theorem limited_step (sized : 0 ≤ config.cache_max_size) (weighed : 0 ≤ config.cache_max_memory_mb) (limited : c.Limited config)
    (call : CacheCall ω) : (c.step config call).Limited config := by
  cases call with
  | get key default now accessed =>
    show (c.get config key default now accessed).2.Limited config
    unfold get
    split
    · exact limited
    · split
      · exact (smaller_remove_key c key).limited limited
      · exact ⟨limited.few, limited.small⟩
  | set key value now accessed => exact limited_set limited key value now accessed
  | invalidate key =>
    show (c.invalidate key).2.Limited config
    unfold invalidate
    split
    · exact (smaller_remove_key c key).limited limited
    · exact limited
  | clear => exact limited_empty sized weighed rfl rfl

/-- After any calls the structures agree, and limits that are not negative are kept. -/
theorem cache_represented (sized : 0 ≤ config.cache_max_size) (weighed : 0 ≤ config.cache_max_memory_mb) (calls : List (CacheCall ω)) :
    (run config calls).Represented ∧ (run config calls).Limited config := by
  refine ⟨represented_run config calls, ?_⟩
  have later (c : TrackedCache ω) (limited : c.Limited config) : (calls.foldl (step config) c).Limited config := by
    induction calls generalizing c with
    | nil => exact limited
    | cons call rest ih => exact ih _ (limited_step sized weighed limited call)
  exact later _ (limited_empty sized weighed rfl rfl)

theorem two_walls_represented : (run { cache_max_size := 1 } [.set "w1" (.str "wall") 0 0, .set "w2" (.list [.none]) 1 1,
      .get "w2" (.none : Object Unit) 2 2]).Represented ∧
    (run { cache_max_size := 1 } [.set "w1" (.str "wall") 0 0, .set "w2" (.list [.none]) 1 1,
      .get "w2" (.none : Object Unit) 2 2]).Limited { cache_max_size := 1 } :=
  cache_represented (by decide) (by decide) _

/-- An empty cache has more entries than a negative limit allows. -/
theorem negative_limit :
    ¬((run { cache_max_size := -1 } [.clear] : TrackedCache Unit).Represented ∧
      (run { cache_max_size := -1 } [.clear] : TrackedCache Unit).Limited { cache_max_size := -1 }) := by
  intro kept
  exact kept.2.few (by decide)

end TrackedCache

end RevitPy.Performance
