import RevitPy.Cache

/-!
# Invalidation by dependency

A key that is removed is removed from both indexes. A key that is overwritten keeps
the dependencies of the entry before, so that an invalidation may remove an entry
that does not depend on what is invalidated.
-/

namespace RevitPy

namespace MemoryCache
variable {δ : Type}

/-! ## The indexes -/

theorem mem_discard {index : Dict String (List String)} {source : String} (distinct : (index.getD source []).Nodup)
    (target s t : String) : t ∈ (discard target index source).getD s [] ↔
      t ∈ index.getD s [] ∧ ¬(source = s ∧ target = t) := by
  unfold discard
  split
  · next absent =>
    refine ⟨fun member => ⟨member, ?_⟩, And.left⟩
    rintro ⟨rfl, rfl⟩
    simp [Dict.getD, absent] at member
  · next targets found =>
    rw [Dict.getD, found, Option.getD_some] at distinct
    have remaining : t ∈ targets.erase target ↔ t ∈ targets ∧ target ≠ t := by
      rw [distinct.mem_erase_iff, ne_comm]
      exact and_comm
    by_cases same : source = s
    · subst same
      simp only
      split
      · next nothing =>
        have none_left : t ∉ targets.erase target := by simp [List.isEmpty_iff.mp nothing]
        simp only [Dict.getD, Dict.get?_erase_self, found, Option.getD_some, Option.getD_none, List.not_mem_nil, true_and]
        exact ⟨False.elim, fun kept => none_left (remaining.mpr kept)⟩
      · simp only [Dict.getD, Dict.get?_set_self, found, Option.getD_some, true_and]
        exact remaining
    · simp only
      split <;> simp [Dict.getD, Dict.get?_erase_ne, Dict.get?_set_ne, same]

theorem distinct_discard {index : Dict String (List String)} (distinct : ∀ s, (index.getD s []).Nodup) (target source s : String) :
    ((discard target index source).getD s []).Nodup := by
  unfold discard
  split
  · exact distinct s
  · next targets found =>
    have before := distinct source
    rw [Dict.getD, found] at before
    simp only
    split
    · rw [Dict.getD, Dict.get?_erase]
      split
      · exact List.nodup_nil
      · exact distinct s
    · rw [Dict.getD, Dict.get?_set]
      split
      · exact before.erase target
      · exact distinct s

theorem mem_track (index : Dict String (List String)) (source target s t : String) :
    t ∈ (track index source target).getD s [] ↔ t ∈ index.getD s [] ∨ source = s ∧ target = t := by
  rw [track, Dict.getD, Dict.get?_set]
  split
  · next same =>
    subst same
    simp only [Option.getD_some, List.mem_insert_iff, true_and, eq_comm, or_comm]
  · next other => simp [Dict.getD, other]

theorem distinct_track {index : Dict String (List String)} (distinct : ∀ s, (index.getD s []).Nodup) (source target s : String) :
    ((track index source target).getD s []).Nodup := by
  rw [track, Dict.getD, Dict.get?_set]
  split
  · exact (distinct source).insert
  · exact distinct s

/-- The indexes hold, for each stored key, the dependencies that it needed: those of
    the entry, and of the entries that it overwrote. -/
structure Indexed (c : MemoryCache δ) (needed : String → List String) : Prop where
  distinct : ∀ d, (c.key_dependencies.getD d []).Nodup
  forward : ∀ d k, k ∈ c.key_dependencies.getD d [] ↔ k ∈ c.cache.keys ∧ d ∈ needed k
  backward : ∀ d k, d ∈ c.reverse_dependencies.getD k [] ↔ k ∈ c.cache.keys ∧ d ∈ needed k
  current : ∀ k entry, c.cache.get? k = some entry → ∀ d ∈ entry.dependencies, d ∈ needed k

variable {c : MemoryCache δ} {needed : String → List String}

theorem mem_discards {index : Dict String (List String)} (distinct : ∀ s, (index.getD s []).Nodup) (target : String)
    (sources : List String) :
    (∀ s, ((sources.foldl (discard target) index).getD s []).Nodup) ∧
      ∀ s t, t ∈ (sources.foldl (discard target) index).getD s [] ↔ t ∈ index.getD s [] ∧ ¬(s ∈ sources ∧ target = t) := by
  induction sources generalizing index with
  | nil => exact ⟨distinct, fun s t => by simp⟩
  | cons source rest ih =>
    obtain ⟨distinct', members⟩ := ih (distinct_discard distinct target source)
    refine ⟨distinct', fun s t => ?_⟩
    rw [List.foldl_cons, members, mem_discard (distinct source)]
    simp only [List.mem_cons, eq_comm (a := s)]
    tauto

theorem key_dependencies_remove (c : MemoryCache δ) (key_str : String) : (c.remove key_str).key_dependencies =
    (c.reverse_dependencies.getD key_str []).foldl (discard key_str) c.key_dependencies := by
  rw [MemoryCache.remove, cleanup_dependencies, Dict.getD]
  split
  · next found =>
    rw [found]
    rfl
  · next deps found =>
    rw [found]
    rfl

theorem reverse_dependencies_remove (c : MemoryCache δ) (key_str k : String) :
    (c.remove key_str).reverse_dependencies.getD k [] = if key_str = k then [] else c.reverse_dependencies.getD k [] := by
  rw [MemoryCache.remove, cleanup_dependencies]
  split
  · next found =>
    split
    · next same =>
      subst same
      exact congrArg (Option.getD · []) found
    · rfl
  · rw [Dict.getD, Dict.get?_erase]
    split
    · rfl
    · rfl

theorem Indexed.remove (indexed : c.Indexed needed) (key_str : String) : (c.remove key_str).Indexed needed := by
  have stored (k : String) : k ∈ (c.remove key_str).cache.keys ↔ k ∈ c.cache.keys ∧ k ≠ key_str := by
    rw [cache_remove, Dict.mem_keys_erase]
  obtain ⟨distinct, members⟩ := mem_discards indexed.distinct key_str (c.reverse_dependencies.getD key_str [])
  rw [← key_dependencies_remove] at distinct members
  refine ⟨distinct, fun d k => ?_, fun d k => ?_, fun k entry found => ?_⟩
  · rw [members, indexed.forward, indexed.backward, stored]
    constructor
    · rintro ⟨⟨known, need⟩, other⟩
      exact ⟨⟨known, fun this => other ⟨this ▸ ⟨known, need⟩, this.symm⟩⟩, need⟩
    · rintro ⟨⟨known, differ⟩, need⟩
      exact ⟨⟨known, need⟩, fun this => differ this.2.symm⟩
  · rw [reverse_dependencies_remove, stored]
    split
    · next same => simp [same]
    · next other =>
      rw [indexed.backward]
      simp [Ne.symm other]
  · rw [cache_remove, Dict.get?_erase] at found
    split at found
    · cases found
    · exact indexed.current k entry found

/-- An access keeps the keys, and the dependencies of the entries. -/
theorem Indexed.access (indexed : c.Indexed needed) {cache : Dict String (CacheEntry δ)} (keys : ∀ k, k ∈ cache.keys ↔ k ∈ c.cache.keys)
    (entries : ∀ k entry, cache.get? k = some entry → ∃ old, c.cache.get? k = some old ∧ entry.dependencies = old.dependencies) :
    ({ c with cache := cache } : MemoryCache δ).Indexed needed where
  distinct := indexed.distinct
  forward d k := by rw [keys, ← indexed.forward]
  backward d k := by rw [keys, ← indexed.backward]
  current k entry found := by
    obtain ⟨old, before, same⟩ := entries k entry found
    exact same ▸ indexed.current k old before

theorem Indexed.get (indexed : c.Indexed needed) (now : Nat) (key : CacheKey) : (c.get now key).2.Indexed needed := by
  unfold MemoryCache.get
  split
  · exact indexed
  · next entry found =>
    split
    · exact indexed.remove _
    · refine indexed.access (fun k => ?_) fun k other found' => ?_
      · rw [Dict.mem_keys_iff, Dict.mem_keys_iff, get?_accessed]
        split
        · next same => simp [← same, found]
        · rfl
      · rw [get?_accessed] at found'
        split at found'
        · next same => exact ⟨entry, same ▸ found, Option.some.inj found' ▸ rfl⟩
        · exact ⟨other, found', rfl⟩

theorem mem_tracks (key_str : String) (deps : List String) (c : MemoryCache δ)
    (distinct : ∀ d, (c.key_dependencies.getD d []).Nodup) :
    (∀ d, ((deps.foldl (track_dependency key_str) c).key_dependencies.getD d []).Nodup) ∧
      (∀ d k, k ∈ (deps.foldl (track_dependency key_str) c).key_dependencies.getD d [] ↔
        k ∈ c.key_dependencies.getD d [] ∨ key_str = k ∧ d ∈ deps) ∧
      ∀ d k, d ∈ (deps.foldl (track_dependency key_str) c).reverse_dependencies.getD k [] ↔
        d ∈ c.reverse_dependencies.getD k [] ∨ key_str = k ∧ d ∈ deps := by
  induction deps generalizing c with
  | nil => simpa using distinct
  | cons dep rest ih =>
    obtain ⟨distinct', forward, backward⟩ := ih (c.track_dependency key_str dep) (distinct_track distinct dep key_str)
    refine ⟨distinct', fun d k => ?_, fun d k => ?_⟩
    · rw [List.foldl_cons, forward, track_dependency, mem_track, List.mem_cons, eq_comm (a := d)]
      tauto
    · rw [List.foldl_cons, backward, track_dependency, mem_track, List.mem_cons, eq_comm (a := d)]
      tauto

/-- What a key needs once an entry is stored under it. -/
def store_needed (c : MemoryCache δ) (needed : String → List String) (key_str : String) (entry : CacheEntry δ) :
    String → List String :=
  Function.update needed key_str ((if c.cache.contains key_str then needed key_str else []) ++ entry.dependencies)

theorem Indexed.store (indexed : c.Indexed needed) (key_str : String) (entry : CacheEntry δ) :
    (c.store key_str entry).Indexed (c.store_needed needed key_str entry) := by
  obtain ⟨distinct, forward, backward⟩ :=
    mem_tracks key_str entry.dependencies { c with cache := c.cache.set key_str entry } indexed.distinct
  -- What is needed is what was needed by the stored keys, and by the entry.
  have needs (d k : String) : k ∈ c.cache.keys ∧ d ∈ needed k ∨ key_str = k ∧ d ∈ entry.dependencies ↔
      k ∈ (c.store key_str entry).cache.keys ∧ d ∈ c.store_needed needed key_str entry k := by
    rw [cache_store, Dict.mem_keys_set, store_needed]
    by_cases same : key_str = k
    · subst same
      by_cases known : key_str ∈ c.cache.keys <;> simp [known]
    · simp [same, Ne.symm same]
  refine ⟨distinct, fun d k => ?_, fun d k => ?_, fun k other found d need => ?_⟩
  · rw [← needs, ← indexed.forward]
    exact forward d k
  · rw [← needs, ← indexed.backward]
    exact backward d k
  · refine ((needs d k).mp ?_).2
    rw [cache_store, Dict.get?_set] at found
    split at found
    · next same => exact Or.inr ⟨same, Option.some.inj found ▸ need⟩
    · exact Or.inl ⟨Dict.mem_keys_of_get? found, indexed.current k other found d need⟩

theorem Indexed.set (indexed : c.Indexed needed) (now : Nat) (key : CacheKey) (entry : CacheEntry δ) :
    (c.set now key entry).Indexed (c.ensure_capacity.store_needed needed key.str entry) := by
  have removes (needed : String → List String) (d : MemoryCache δ) (key_str : String) (kept : d.Indexed needed) :
      (d.remove key_str).Indexed needed := kept.remove key_str
  have stored := (ensure_capacity_keeps (removes needed) indexed).store key.str entry
  unfold MemoryCache.set
  simp only
  split
  · have cleaned := cleanup_expired_keeps (removes _) stored now
    exact ⟨cleaned.distinct, cleaned.forward, cleaned.backward, cleaned.current⟩
  · exact stored

theorem indexed_clear (c : MemoryCache δ) (needed : String → List String) : c.clear.Indexed needed where
  distinct _ := List.nodup_nil
  forward _ _ := by simp [MemoryCache.clear, Dict.getD]
  backward _ _ := by simp [MemoryCache.clear, Dict.getD]
  current _ _ found := by cases found

/-! ## Invalidations -/

/-- The rounds of an invalidation remove the stored ones among their keys. -/
theorem invalidate_keys (key_strs : List String) (state : List String × MemoryCache δ) (indexed : state.2.Indexed needed) :
    (key_strs.foldl invalidate_key state).2.Indexed needed ∧
      (∀ k, k ∈ (key_strs.foldl invalidate_key state).1 ↔ k ∈ state.1 ∨ k ∈ key_strs ∧ k ∈ state.2.cache.keys) ∧
      ∀ k, (key_strs.foldl invalidate_key state).2.cache.get? k = if k ∈ key_strs then none else state.2.cache.get? k := by
  induction key_strs generalizing state with
  | nil => exact ⟨indexed, by simp, by simp⟩
  | cons key_str rest ih =>
    rw [List.foldl_cons]
    by_cases known : key_str ∈ state.2.cache.keys
    · have round : invalidate_key state key_str = (state.1.insert key_str, state.2.remove key_str) :=
        if_pos ((Dict.contains_iff _ _).mpr known)
      obtain ⟨indexed', returned, kept⟩ := ih (state.1.insert key_str, state.2.remove key_str) (indexed.remove key_str)
      rw [round]
      refine ⟨indexed', fun k => ?_, fun k => ?_⟩
      · rw [returned, List.mem_insert_iff, cache_remove, Dict.mem_keys_erase, List.mem_cons]
        by_cases same : k = key_str
        · simp [same, known]
        · simp [same]
      · rw [kept, cache_remove, Dict.get?_erase]
        by_cases same : key_str = k <;> simp [same, eq_comm]
    · have round : invalidate_key state key_str = state := if_neg fun contained => known ((Dict.contains_iff _ _).mp contained)
      obtain ⟨indexed', returned, kept⟩ := ih state indexed
      rw [round]
      refine ⟨indexed', fun k => ?_, fun k => ?_⟩
      · rw [returned, List.mem_cons]
        by_cases same : k = key_str
        · simp [same, known]
        · simp [same]
      · rw [kept]
        by_cases same : k = key_str
        · simp [same, (Dict.get?_none_iff _ _).mpr known]
        · simp [same]

theorem invalidate_dependencies_eq (c : MemoryCache δ) (dependency : String) :
    c.invalidate_dependencies dependency = (c.key_dependencies.getD dependency []).foldl invalidate_key ([], c) := by
  unfold invalidate_dependencies Dict.getD
  split <;> simp [*]

/-- An invalidation removes exactly the entries that depend on what is invalidated, and
    returns exactly their keys. -/
structure Exact (c : MemoryCache δ) (dependency : String) : Prop where
  returned : ∀ k, k ∈ (c.invalidate_dependencies dependency).1 ↔
    ∃ entry, c.cache.get? k = some entry ∧ dependency ∈ entry.dependencies
  kept : ∀ k entry, (c.invalidate_dependencies dependency).2.cache.get? k = some entry ↔
    c.cache.get? k = some entry ∧ dependency ∉ entry.dependencies

/-- Invalidations are exact where no entry lacks a dependency that its key needed. -/
theorem Indexed.exact_iff (indexed : c.Indexed needed) :
    (∀ d, c.Exact d) ↔ ∀ k entry, c.cache.get? k = some entry → ∀ d ∈ needed k, d ∈ entry.dependencies := by
  have returned (d k : String) : k ∈ (c.invalidate_dependencies d).1 ↔ k ∈ c.cache.keys ∧ d ∈ needed k := by
    rw [invalidate_dependencies_eq, (invalidate_keys _ _ indexed).2.1, indexed.forward]
    simp only [List.not_mem_nil, false_or]
    exact and_iff_left_of_imp And.left
  have lookup (d k : String) : (c.invalidate_dependencies d).2.cache.get? k =
      if k ∈ c.cache.keys ∧ d ∈ needed k then none else c.cache.get? k := by
    rw [invalidate_dependencies_eq, (invalidate_keys _ _ indexed).2.2]
    simp only [indexed.forward]
  constructor
  · intro exact k entry found d need
    obtain ⟨other, found', depends⟩ := ((exact d).returned k).mp ((returned d k).mpr ⟨Dict.mem_keys_of_get? found, need⟩)
    rw [found] at found'
    exact Option.some.inj found' ▸ depends
  · intro current d
    have depends (k : String) (entry : CacheEntry δ) (found : c.cache.get? k = some entry) : d ∈ needed k ↔ d ∈ entry.dependencies :=
      ⟨current k entry found d, indexed.current k entry found d⟩
    refine ⟨fun k => ?_, fun k entry => ?_⟩
    · rw [returned, Dict.mem_keys_iff]
      constructor
      · rintro ⟨⟨entry, found⟩, need⟩
        exact ⟨entry, found, (depends k entry found).mp need⟩
      · rintro ⟨entry, found, depend⟩
        exact ⟨⟨entry, found⟩, (depends k entry found).mpr depend⟩
    · rw [lookup]
      constructor
      · intro kept
        split at kept
        · cases kept
        · next spared =>
          exact ⟨kept, fun depend => spared ⟨Dict.mem_keys_of_get? kept, (depends k entry kept).mpr depend⟩⟩
      · rintro ⟨found, independent⟩
        rw [if_neg fun needs => independent ((depends k entry found).mp needs.2), found]

end MemoryCache

/-! ## Runs -/

inductive CacheCall (δ : Type)
  | get (now : Nat) (key : CacheKey)
  | set (now : Nat) (key : CacheKey) (entry : CacheEntry δ)
  | delete (key : CacheKey)
  | cleanup_expired (now : Nat)
  | invalidate_dependencies (dependency : String)
  | clear

/-- A cache, and for each key the dependencies of all entries that were stored under it
    since nothing was. -/
structure CacheHistory (δ : Type) where
  memory : MemoryCache δ
  needed : String → List String := fun _ => []

namespace CacheHistory
variable {δ : Type}

def step (s : CacheHistory δ) : CacheCall δ → CacheHistory δ
  | .get now key => { s with memory := (s.memory.get now key).2 }
  | .set now key entry =>
    { memory := s.memory.set now key entry
      needed := s.memory.ensure_capacity.store_needed s.needed key.str entry }
  | .delete key => { s with memory := (s.memory.delete key).2 }
  | .cleanup_expired now => { s with memory := s.memory.cleanup_expired now }
  | .invalidate_dependencies dependency => { s with memory := (s.memory.invalidate_dependencies dependency).2 }
  | .clear => { s with memory := s.memory.clear }

def run (s : CacheHistory δ) (calls : List (CacheCall δ)) : CacheHistory δ := calls.foldl step s

/-- No stored entry lacks a dependency of an entry that it overwrote, directly or not. -/
def KeepsNeeded (s : CacheHistory δ) : Prop :=
  ∀ k entry, s.memory.cache.get? k = some entry → ∀ d ∈ s.needed k, d ∈ entry.dependencies

theorem indexed_step {s : CacheHistory δ} (indexed : s.memory.Indexed s.needed) (call : CacheCall δ) :
    (s.step call).memory.Indexed (s.step call).needed := by
  have removes (d : MemoryCache δ) (key_str : String) (kept : d.Indexed s.needed) : (d.remove key_str).Indexed s.needed :=
    kept.remove key_str
  cases call with
  | get now key => exact indexed.get now key
  | set now key entry => exact indexed.set now key entry
  | delete key => exact MemoryCache.delete_keeps removes indexed key
  | cleanup_expired now => exact MemoryCache.cleanup_expired_keeps removes indexed now
  | invalidate_dependencies dependency => exact MemoryCache.invalidate_dependencies_keeps removes indexed dependency
  | clear => exact s.memory.indexed_clear s.needed

theorem indexed_run {s : CacheHistory δ} (indexed : s.memory.Indexed s.needed) (calls : List (CacheCall δ)) :
    (s.run calls).memory.Indexed (s.run calls).needed :=
  List.foldlRecOn (motive := fun t : CacheHistory δ => t.memory.Indexed t.needed) calls step indexed
    fun _ kept call _ => indexed_step kept call

/-- After any calls to a new cache, invalidations are exact exactly if no stored entry
    lacks a dependency of an entry that it overwrote. -/
theorem exact_invalidation_iff (config : CacheConfiguration) (last_cleanup : Nat) (calls : List (CacheCall δ)) :
    let s := run { memory := { config, last_cleanup } } calls
    (∀ dependency, s.memory.Exact dependency) ↔ s.KeepsNeeded := by
  have start : ({ config, last_cleanup } : MemoryCache δ).Indexed fun _ => [] :=
    MemoryCache.indexed_clear { config, last_cleanup } _
  exact (indexed_run start calls).exact_iff

/-- A view needs a wall and is then stored again without it. -/
def views : List (CacheCall Nat) :=
  [.set 0 { entity_type := "View" } { data := 1, created_at := 0, accessed_at := 0, dependencies := ["wall"] },
    .set 0 { entity_type := "View" } { data := 2, created_at := 0, accessed_at := 0, dependencies := ["door"] }]

/-- The view is removed with the wall that it no longer needs. -/
theorem independent_view_removed :
    ¬∀ (config : CacheConfiguration) (last_cleanup : Nat) (calls : List (CacheCall Nat)) (dependency : String),
      (run { memory := { config, last_cleanup } } calls).memory.Exact dependency := by
  intro exact
  obtain ⟨entry, found, depends⟩ := ((exact .defaults 0 views "wall").returned "View").mp (by decide +kernel)
  have dependencies : ((run { memory := {} } views).memory.cache.get? "View").map CacheEntry.dependencies = some ["door"] := by
    decide +kernel
  rw [found] at dependencies
  rw [Option.some.inj dependencies] at depends
  exact absurd depends (by decide)

end CacheHistory

end RevitPy
