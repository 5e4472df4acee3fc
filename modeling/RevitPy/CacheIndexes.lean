import RevitPy.Invalidation
import RevitPy.Runs

/-!
# The indexes of the cache

The two indexes are inverse to each other, and nothing is left in them of what was
removed. The cache never holds more entries than it is configured for.
-/

namespace RevitPy

namespace MemoryCache
variable {δ : Type} {c : MemoryCache δ}

/-! ## No empty sets -/

/-- No set of an index is empty. -/
def Filled (index : Dict String (List String)) : Prop := ∀ source targets, index.get? source = some targets → targets ≠ []

theorem filled_discard {index : Dict String (List String)} (filled : Filled index) (target source : String) :
    Filled (discard target index source) := by
  intro s targets found
  unfold discard at found
  split at found
  · exact filled s targets found
  · simp only at found
    split at found
    · exact filled s targets (Dict.get?_of_erase found)
    · next remains =>
      rw [Dict.get?_set] at found
      split at found
      · obtain rfl := Option.some.inj found
        exact fun empty => remains (List.isEmpty_iff.mpr empty)
      · exact filled s targets found

theorem filled_track {index : Dict String (List String)} (filled : Filled index) (source target : String) :
    Filled (track index source target) := by
  intro s targets found
  rw [track, Dict.get?_set] at found
  split at found
  · obtain rfl := Option.some.inj found
    exact List.ne_nil_of_mem (List.mem_insert_self ..)
  · exact filled s targets found

/-- Neither index has an empty set. -/
def BothFilled (c : MemoryCache δ) : Prop := Filled c.key_dependencies ∧ Filled c.reverse_dependencies

theorem bothFilled_remove (c : MemoryCache δ) (key_str : String) (filled : c.BothFilled) : (c.remove key_str).BothFilled := by
  constructor
  · rw [key_dependencies_remove]
    exact List.foldlRecOn (motive := Filled) _ (discard key_str) filled.1 fun _ kept source _ => filled_discard kept key_str source
  · rw [MemoryCache.remove, cleanup_dependencies]
    split
    · exact filled.2
    · exact fun source targets found => filled.2 source targets (Dict.get?_of_erase found)

theorem BothFilled.store (filled : c.BothFilled) (key_str : String) (entry : CacheEntry δ) : (c.store key_str entry).BothFilled :=
  List.foldlRecOn (motive := BothFilled) entry.dependencies (track_dependency key_str) filled
    fun _ kept dep _ => ⟨filled_track kept.1 dep key_str, filled_track kept.2 key_str dep⟩

/-! ## The number of entries -/

/-- There are no more entries than `max_size`. -/
def Bounded (c : MemoryCache δ) : Prop := c.cache.length ≤ c.config.max_size

/-- There is room for one entry. -/
def Roomy (c : MemoryCache δ) : Prop := c.cache.length < c.config.max_size

theorem bounded_remove (c : MemoryCache δ) (key_str : String) (bounded : c.Bounded) : (c.remove key_str).Bounded := by
  unfold Bounded
  rw [cache_remove, config_remove]
  exact Nat.le_trans (Dict.length_erase_le _ _) bounded

theorem roomy_remove (c : MemoryCache δ) (key_str : String) (roomy : c.Roomy) : (c.remove key_str).Roomy := by
  unfold Roomy
  rw [cache_remove, config_remove]
  exact Nat.lt_of_le_of_lt (Dict.length_erase_le _ _) roomy

/-- The first loop makes room, and the second one removes at most more. -/
theorem roomy_ensure_capacity (c : MemoryCache δ) : c.ensure_capacity.Roomy := by
  have sized := (shrunk_size_induction (fun _ (_ : True) => trivial) (c := c) trivial).2
  have start : (Loop.exec shrink_size _ shrink_size_decreasing c).Roomy := by
    generalize Loop.exec shrink_size _ shrink_size_decreasing c = d at sized
    unfold shrink_size at sized
    split at sized
    · cases sized
    · next fits => exact Nat.lt_of_not_le fits
  have keeps (d e : MemoryCache δ) (roomy : d.Roomy) (next : d.shrink_memory = some e) : e.Roomy := by
    unfold shrink_memory at next
    split at next
    · obtain rfl := Option.some.inj next
      exact evict_one_keeps roomy_remove roomy
    · cases next
  exact (Loop.exec_induction shrink_memory_decreasing _ keeps start).1

theorem Bounded.get (bounded : c.Bounded) (now : Nat) (key : CacheKey) : (c.get now key).2.Bounded := by
  unfold MemoryCache.get
  split
  · exact bounded
  · next entry found =>
    split
    · exact bounded_remove c _ bounded
    · have same : (c.cache.set key.str (entry.mark_accessed now)).length = c.cache.length :=
        Dict.length_set_of_mem (Dict.mem_keys_of_get? found) _
      show (if _ then _ else _ : Dict String (CacheEntry δ)).length ≤ c.config.max_size
      split
      · rw [Dict.length_move_to_end, same]
        exact bounded
      · rw [same]
        exact bounded

theorem bounded_store {c : MemoryCache δ} (roomy : c.Roomy) (key_str : String) (entry : CacheEntry δ) :
    (c.store key_str entry).Bounded := by
  unfold Bounded MemoryCache.store
  obtain ⟨cache, config⟩ := tracked key_str entry.dependencies { c with cache := c.cache.set key_str entry }
  rw [cache, config]
  exact Nat.le_trans (Dict.length_set_le _ _ _) roomy

theorem bounded_set (c : MemoryCache δ) (now : Nat) (key : CacheKey) (entry : CacheEntry δ) : (c.set now key entry).Bounded := by
  have stored : (c.ensure_capacity.store key.str entry).Bounded := bounded_store (roomy_ensure_capacity c) key.str entry
  unfold MemoryCache.set
  simp only
  split
  · exact cleanup_expired_keeps bounded_remove stored now
  · exact stored

theorem BothFilled.set (filled : c.BothFilled) (now : Nat) (key : CacheKey) (entry : CacheEntry δ) : (c.set now key entry).BothFilled := by
  have stored := (ensure_capacity_keeps bothFilled_remove filled).store key.str entry
  unfold MemoryCache.set
  simp only
  split
  · exact cleanup_expired_keeps bothFilled_remove stored now
  · exact stored

theorem BothFilled.get (filled : c.BothFilled) (now : Nat) (key : CacheKey) : (c.get now key).2.BothFilled := by
  unfold MemoryCache.get
  split
  · exact filled
  · split
    · exact bothFilled_remove c _ filled
    · exact filled

/-! ## All together -/

/-- What holds of the indexes and of the entries between any two calls. -/
structure Consistent (c : MemoryCache δ) : Prop where
  inverse : ∀ d k, k ∈ c.key_dependencies.getD d [] ↔ d ∈ c.reverse_dependencies.getD k []
  filled : (∀ d ks, c.key_dependencies.get? d = some ks → ks ≠ []) ∧ ∀ k ds, c.reverse_dependencies.get? k = some ds → ds ≠ []
  stored : (∀ d k, k ∈ c.key_dependencies.getD d [] → k ∈ c.cache.keys) ∧ ∀ k, k ∈ c.reverse_dependencies.keys → k ∈ c.cache.keys
  indexed : ∀ k entry, c.cache.get? k = some entry → ∀ d ∈ entry.dependencies,
    k ∈ c.key_dependencies.getD d [] ∧ d ∈ c.reverse_dependencies.getD k []
  bounded : c.cache.length ≤ c.config.max_size

theorem consistent_of_indexed {needed : String → List String} (indexed : c.Indexed needed) (filled : c.BothFilled)
    (bounded : c.Bounded) : c.Consistent where
  inverse d k := (indexed.forward d k).trans (indexed.backward d k).symm
  filled := filled
  stored := by
    refine ⟨fun d k listed => ((indexed.forward d k).mp listed).1, fun k known => ?_⟩
    obtain ⟨ds, found⟩ := (Dict.mem_keys_iff _ _).mp known
    obtain ⟨d, listed⟩ := List.exists_mem_of_ne_nil ds (filled.2 k ds found)
    exact ((indexed.backward d k).mp (by rw [Dict.getD, found]; exact listed)).1
  indexed k entry found d need := by
    have needs := indexed.current k entry found d need
    exact ⟨(indexed.forward d k).mpr ⟨Dict.mem_keys_of_get? found, needs⟩, (indexed.backward d k).mpr ⟨Dict.mem_keys_of_get? found, needs⟩⟩
  bounded := bounded

end MemoryCache

namespace CacheHistory
variable {δ : Type}

/-- What all calls keep of a cache and of the dependencies that its keys needed. -/
structure Kept (s : CacheHistory δ) : Prop where
  indexed : s.memory.Indexed s.needed
  filled : s.memory.BothFilled
  bounded : s.memory.Bounded

theorem kept_step {s : CacheHistory δ} (kept : s.Kept) (call : CacheCall δ) : (s.step call).Kept where
  indexed := indexed_step kept.indexed call
  filled := by
    have removes := MemoryCache.bothFilled_remove (δ := δ)
    cases call with
    | get now key => exact kept.filled.get now key
    | set now key entry => exact kept.filled.set now key entry
    | delete key => exact MemoryCache.delete_keeps removes kept.filled key
    | cleanup_expired now => exact MemoryCache.cleanup_expired_keeps removes kept.filled now
    | invalidate_dependencies dependency => exact MemoryCache.invalidate_dependencies_keeps removes kept.filled dependency
    | clear => exact ⟨fun _ _ found => by (cases found), fun _ _ found => by (cases found)⟩
  bounded := by
    have removes := MemoryCache.bounded_remove (δ := δ)
    cases call with
    | get now key => exact kept.bounded.get now key
    | set now key entry => exact MemoryCache.bounded_set s.memory now key entry
    | delete key => exact MemoryCache.delete_keeps removes kept.bounded key
    | cleanup_expired now => exact MemoryCache.cleanup_expired_keeps removes kept.bounded now
    | invalidate_dependencies dependency => exact MemoryCache.invalidate_dependencies_keeps removes kept.bounded dependency
    | clear => exact Nat.zero_le _

/-- The indexes and the entries of a new cache are consistent after every call, whatever
    is called. -/
theorem indexes_consistent (config : CacheConfiguration) (last_cleanup : Nat) (calls : List (CacheCall δ)) :
    Runs.Throughout step (fun s => s.memory.Consistent) ({ memory := { config, last_cleanup } } : CacheHistory δ) calls := by
  have start : Kept ({ memory := { config, last_cleanup } } : CacheHistory δ) := by
    refine ⟨MemoryCache.indexed_clear { config, last_cleanup } _, ⟨fun _ _ found => ?_, fun _ _ found => ?_⟩, Nat.zero_le _⟩
    · cases found
    · cases found
  have kept : Runs.Throughout step Kept ({ memory := { config, last_cleanup } } : CacheHistory δ) calls :=
    Runs.throughout_keeps (P := fun _ _ => True) (fun _ call kept _ => kept_step kept call) start
      (Runs.along_of_mem fun _ _ _ => trivial)
  exact Runs.throughout_mono (fun _ kept => MemoryCache.consistent_of_indexed kept.indexed kept.filled kept.bounded) kept

end CacheHistory
end RevitPy
