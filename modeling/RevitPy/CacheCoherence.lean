import RevitPy.CacheStatistics

/-!
# Coherence of the cache manager

What the cache answers is never stale. Whatever the policy, the limits and the
clock, a hit is the value of the latest call that set its key: no later call set
or deleted the key, cleared the cache, or invalidated a dependency or a pattern
of it, and its time to live has not run out.
-/

namespace RevitPy

/-- A value as a call set it. -/
structure StoredValue (δ : Type) where
  key_str : String
  data : δ
  created_at : Nat
  ttl_seconds : Option Int
  dependencies : List String

/-- An entry of a value, however often it was read. -/
structure CacheEntry.Holds {δ : Type} (entry : CacheEntry δ) (stored : StoredValue δ) : Prop where
  data : entry.data = stored.data
  created_at : entry.created_at = stored.created_at
  ttl_seconds : entry.ttl_seconds = stored.ttl_seconds
  dependencies : entry.dependencies = stored.dependencies

namespace MemoryCache
variable {δ : Type} {P : String → CacheEntry δ → Prop} {c : MemoryCache δ}

/-- Every entry has a property, given its key. -/
def Only (P : String → CacheEntry δ → Prop) (c : MemoryCache δ) : Prop := ∀ k entry, c.cache.get? k = some entry → P k entry

theorem only_self (c : MemoryCache δ) : Only (fun k entry => c.cache.get? k = some entry) c := fun _ _ found => found

theorem only_remove (d : MemoryCache δ) (key_str : String) (only : Only P d) : Only P (d.remove key_str) := by
  intro k entry found
  rw [cache_remove] at found
  exact only k entry (Dict.get?_of_erase found)

theorem Only.get (only : Only P c) (reads : ∀ k entry now, P k entry → P k (entry.mark_accessed now)) (now : Nat) (key : CacheKey) :
    Only P (c.get now key).2 := by
  unfold MemoryCache.get
  split
  · exact only
  · next entry found =>
    split
    · exact only_remove c _ only
    · intro k other kept
      rw [get?_accessed] at kept
      split at kept
      · next same =>
        obtain rfl := Option.some.inj kept
        exact reads k entry now (only k entry (same ▸ found))
      · exact only k other kept

/-- After a set, the entry is the only one under its key. -/
theorem Only.set (only : Only P c) (now : Nat) (key : CacheKey) (entry : CacheEntry δ) :
    Only (fun k other => k = key.str ∧ other = entry ∨ k ≠ key.str ∧ P k other) (c.set now key entry) := by
  have room : Only P c.ensure_capacity := ensure_capacity_keeps only_remove only
  have stored : Only (fun k other => k = key.str ∧ other = entry ∨ k ≠ key.str ∧ P k other) (c.ensure_capacity.store key.str entry) := by
    intro k other found
    rw [cache_store, Dict.get?_set] at found
    split at found
    · next same => exact .inl ⟨same.symm, (Option.some.inj found).symm⟩
    · next different => exact .inr ⟨Ne.symm different, room k other found⟩
  unfold MemoryCache.set
  simp only
  split
  · exact cleanup_expired_keeps only_remove stored now
  · exact stored

/-- No stored entry depends on what was invalidated. -/
theorem Only.invalidate {needed : String → List String} (only : Only P c) (indexed : c.Indexed needed) (dependency : String) :
    Only (fun k entry => P k entry ∧ dependency ∉ entry.dependencies) (c.invalidate_dependencies dependency).2 := by
  intro k entry found
  rw [invalidate_dependencies_eq, (invalidate_keys _ _ indexed).2.2] at found
  split at found
  · cases found
  · next unlisted =>
    refine ⟨only k entry found, fun depends => unlisted ?_⟩
    exact (indexed.forward dependency k).mpr ⟨Dict.mem_keys_of_get? found, indexed.current k entry found dependency depends⟩

/-- The configuration of a cache never changes. -/
theorem config_set (c : MemoryCache δ) (now : Nat) (key : CacheKey) (entry : CacheEntry δ) : (c.set now key entry).config = c.config := by
  have removes (d : MemoryCache δ) (key_str : String) (kept : d.config = c.config) : (d.remove key_str).config = c.config :=
    (config_remove d key_str).trans kept
  have stored : (c.ensure_capacity.store key.str entry).config = c.config :=
    (tracked key.str entry.dependencies _).2.trans (ensure_capacity_keeps removes rfl)
  unfold MemoryCache.set
  simp only
  split
  · exact cleanup_expired_keeps removes stored now
  · exact stored

theorem config_get (c : MemoryCache δ) (now : Nat) (key : CacheKey) : (c.get now key).2.config = c.config := by
  unfold MemoryCache.get
  split
  · rfl
  · split
    · exact config_remove c _
    · rfl

end MemoryCache

namespace ManagerCall
variable {δ : Type}

/-- A call sets a value, with the time to live that the configuration gives it. -/
def Sets (config : CacheConfiguration) : ManagerCall δ → StoredValue δ → Prop
  | .set now key value ttl_seconds dependencies, stored =>
    stored = ⟨key.str, value, now, CacheManager.effective_ttl config ttl_seconds, dependencies⟩
  | _, _ => False

/-- A call after which a value must not be found any more. -/
def Discards : ManagerCall δ → StoredValue δ → Prop
  | .set _ key _ _ _, stored | .delete key, stored | .invalidate key, stored => key.str = stored.key_str
  | .invalidate_by_dependency dependency, stored => dependency ∈ stored.dependencies
  | .invalidate_by_pattern pattern, stored => CacheManager.Removed pattern stored.key_str
  | .clear, _ => True
  | _, _ => False

end ManagerCall

namespace MonitoredCache
variable {δ : Type} {m : MonitoredCache δ}

/-- A value is stored under its key. -/
def Stores (m : MonitoredCache δ) (stored : StoredValue δ) : Prop :=
  ∃ entry, m.manager.lookup stored.key_str = some entry ∧ entry.Holds stored

/-- What calls keep: the configuration, and indexes that cover the dependencies. -/
structure Tracked (config : CacheConfiguration) (m : MonitoredCache δ) : Prop where
  config : m.manager.backend.config = config
  indexed : ∃ needed, m.manager.backend.Indexed needed

theorem backend_deletions (keys : List CacheKey) (m : MonitoredCache δ) :
    (keys.foldl (fun m key => (m.delete key).2) m).manager = keys.foldl (fun m key => (m.delete key).2) m.manager := by
  have one (m : MonitoredCache δ) (key : CacheKey) : (m.delete key).2.manager = (m.manager.delete key).2 := by
    unfold delete
    simp only
    split
    · rfl
    · rfl
  induction keys generalizing m with
  | nil => rfl
  | cons key rest ih => rw [List.foldl_cons, ih, one, List.foldl_cons]

theorem backend_delete (m : MonitoredCache δ) (key : CacheKey) : (m.delete key).2.manager = (m.manager.delete key).2 :=
  backend_deletions [key] m

theorem backend_invalidate_by_dependency (m : MonitoredCache δ) (dependency : String) :
    (m.invalidate_by_dependency dependency).2.manager.backend = (m.manager.backend.invalidate_dependencies dependency).2 := by
  unfold invalidate_by_dependency
  simp only [TalliedCache.recorded, TalliedCache.told]

theorem backend_invalidate_by_pattern (m : MonitoredCache δ) (pattern : String) :
    (m.invalidate_by_pattern pattern).2.manager = (m.manager.invalidate_by_pattern pattern).2 := backend_deletions _ m

/-- What a removal keeps of the entries, deletions keep. -/
theorem deletions_keep {Inv : MemoryCache δ → Prop} (removes : ∀ d key_str, Inv d → Inv (d.remove key_str)) (keys : List CacheKey)
    {m : CacheManager δ} (inv : Inv m.backend) : Inv (keys.foldl (fun m key => (m.delete key).2) m).backend := by
  induction keys generalizing m with
  | nil => exact inv
  | cons key rest ih => exact ih (m := (m.delete key).2) (MemoryCache.delete_keeps removes inv key)

theorem Tracked.step {config : CacheConfiguration} (tracked : m.Tracked config) (call : ManagerCall δ) : (m.step call).Tracked config := by
  obtain ⟨same, needed, indexed⟩ := tracked
  have removes (d : MemoryCache δ) (key_str : String) (kept : d.config = config ∧ d.Indexed needed) :
      (d.remove key_str).config = config ∧ (d.remove key_str).Indexed needed :=
    ⟨(MemoryCache.config_remove d key_str).trans kept.1, kept.2.remove key_str⟩
  have read (now : Nat) (key : CacheKey) : (m.get now key).2.Tracked config :=
    ⟨(MemoryCache.config_get m.manager.backend now key).trans same, needed, indexed.get now key⟩
  have deleted (keys : List CacheKey) : (keys.foldl (fun m key => (m.delete key).2) m).Tracked config := by
    have kept := deletions_keep removes keys (m := m.manager) ⟨same, indexed⟩
    rw [← backend_deletions] at kept
    exact ⟨kept.1, needed, kept.2⟩
  cases call with
  | get now key => exact read now key
  | contains is_none now key => exact read now key
  | set now key value ttl_seconds dependencies =>
    exact ⟨(MemoryCache.config_set m.manager.backend now key _).trans same, _, indexed.set now key _⟩
  | delete key => exact deleted [key]
  | invalidate key => exact deleted [key]
  | invalidate_by_dependency dependency =>
    have kept := MemoryCache.invalidate_dependencies_keeps removes ⟨same, indexed⟩ dependency
    rw [← backend_invalidate_by_dependency] at kept
    exact ⟨kept.1, needed, kept.2⟩
  | invalidate_by_pattern pattern => exact deleted _
  | clear => exact ⟨same, needed, MemoryCache.indexed_clear m.manager.backend needed⟩
  | add_invalidation_callback callback => exact ⟨same, needed, indexed⟩
  | remove_invalidation_callback callback => exact ⟨same, needed, indexed⟩

/-- Nothing is left under the deleted keys, and nothing new is there. -/
theorem stores_deletions (keys : List CacheKey) {stored : StoredValue δ}
    (stores : (keys.foldl (fun m key => (m.delete key).2) m).Stores stored) :
    m.Stores stored ∧ stored.key_str ∉ keys.map CacheKey.str := by
  obtain ⟨entry, found, holds⟩ := stores
  rw [backend_deletions, CacheManager.lookup, Dict.get?_some_iff, CacheManager.entries_deletions, List.mem_filter] at found
  exact ⟨⟨entry, (Dict.get?_some_iff _ _ _).mpr found.1, holds⟩, by simpa using found.2⟩

/-- What is stored after a call was set by it, or was stored before and the call does not
    discard it. -/
theorem stores_step {config : CacheConfiguration} (tracked : m.Tracked config) {call : ManagerCall δ} {stored : StoredValue δ}
    (stores : (m.step call).Stores stored) : call.Sets config stored ∨ m.Stores stored ∧ ¬call.Discards stored := by
  have before : MemoryCache.Only (fun k entry => entry.Holds stored → k = stored.key_str → m.Stores stored) m.manager.backend := by
    intro k entry found holds same
    exact ⟨entry, same ▸ found, holds⟩
  have read (now : Nat) (key : CacheKey) (stores : (m.get now key).2.Stores stored) : m.Stores stored := by
    obtain ⟨entry, found, holds⟩ := stores
    refine before.get (fun k entry now past holds => ?_) now key stored.key_str entry found holds rfl
    exact past ⟨holds.data, holds.created_at, holds.ttl_seconds, holds.dependencies⟩
  have deleted (key : CacheKey) (stores : (m.delete key).2.Stores stored) : m.Stores stored ∧ ¬key.str = stored.key_str := by
    obtain ⟨past, other⟩ := stores_deletions [key] stores
    exact ⟨past, fun same => other (by simp [same])⟩
  cases call with
  | get now key => exact .inr ⟨read now key stores, id⟩
  | contains is_none now key => exact .inr ⟨read now key stores, id⟩
  | set now key value ttl_seconds dependencies =>
    obtain ⟨entry, found, holds⟩ := stores
    rcases before.set now key _ stored.key_str entry found with ⟨same, rfl⟩ | ⟨other, past⟩
    · left
      obtain ⟨data, created_at, ttl, deps⟩ := holds
      rw [ManagerCall.Sets, ← tracked.config]
      cases stored
      simp only at same data created_at ttl deps
      simp [same, ← data, ← created_at, ← ttl, ← deps]
    · exact .inr ⟨past holds rfl, fun same => other same.symm⟩
  | delete key => exact .inr (deleted key stores)
  | invalidate key => exact .inr (deleted key stores)
  | invalidate_by_dependency dependency =>
    obtain ⟨entry, found, holds⟩ := stores
    obtain ⟨needed, indexed⟩ := tracked.indexed
    rw [step, CacheManager.lookup, backend_invalidate_by_dependency] at found
    obtain ⟨past, independent⟩ := before.invalidate indexed dependency stored.key_str entry found
    exact .inr ⟨past holds rfl, fun depends => independent (holds.dependencies ▸ depends)⟩
  | invalidate_by_pattern pattern =>
    obtain ⟨entry, found, holds⟩ := stores
    rw [step, backend_invalidate_by_pattern, CacheManager.lookup_invalidate_by_pattern] at found
    split at found
    · cases found
    · next kept => exact .inr ⟨⟨entry, found, holds⟩, kept⟩
  | clear =>
    obtain ⟨entry, found, -⟩ := stores
    cases found
  | add_invalidation_callback callback => exact .inr ⟨stores, id⟩
  | remove_invalidation_callback callback => exact .inr ⟨stores, id⟩

/-- The latest call that set a key set it to the value: no later call discards the value,
    and it has not expired. -/
def Latest (config : CacheConfiguration) (calls : List (ManagerCall δ)) (now : Nat) (key_str : String) (value : δ) : Prop :=
  ∃ before set_key ttl_seconds dependencies created_at after,
    calls = before ++ .set created_at set_key value ttl_seconds dependencies :: after ∧
    set_key.str = key_str ∧
    (∀ call ∈ after, ¬call.Discards ⟨key_str, value, created_at, CacheManager.effective_ttl config ttl_seconds, dependencies⟩) ∧
    ∀ seconds ∈ CacheManager.effective_ttl config ttl_seconds, exceeds created_at now seconds = false

/-- A wall is set twice, and read by a call in between. -/
def set_twice : List (ManagerCall Nat) :=
  [.set 0 { entity_type := "Wall" } 1 none [], .get 5 { entity_type := "Wall" }, .set 7 { entity_type := "Wall" } 2 (some 60) ["Level"]]

end MonitoredCache
end RevitPy
