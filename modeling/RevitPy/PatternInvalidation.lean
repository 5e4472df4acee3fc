import Mathlib.Data.List.TakeWhile
import RevitPy.Cache

/-!
# Invalidation by pattern

The keys of a cache are read back from their texts only up to the first bar. A pattern
is looked for in that part, and what is deleted is the key that consists of it.
-/

namespace RevitPy

/-- What stands before the first bar of a key's text. -/
def type_text (key_str : String) : String := String.ofList (key_str.toList.takeWhile fun c => c ≠ '|')

@[simp] theorem str_of_type (entity_type : String) : ({ entity_type := entity_type } : CacheKey).str = entity_type :=
  String.intercalate_singleton

theorem bar_not_mem_type_text (key_str : String) : '|' ∉ (type_text key_str).toList := by
  rw [type_text, String.toList_ofList]
  exact fun member => by simpa using List.mem_takeWhile_imp member

theorem type_text_of_bare {key_str : String} (bare : '|' ∉ key_str.toList) : type_text key_str = key_str := by
  have all : ∀ c ∈ key_str.toList, decide (c ≠ '|') = true := fun c member => decide_eq_true fun bar => bare (bar ▸ member)
  rw [type_text, List.takeWhile_eq_self_iff.mpr all, String.ofList_toList]

/-- `pattern in key_str`. -/
def Matches (pattern key_str : String) : Prop := pattern.toList <:+: key_str.toList

instance (pattern key_str : String) : Decidable (Matches pattern key_str) := inferInstanceAs (Decidable (_ <:+: _))

theorem matches_of_type_text {pattern key_str : String} (found : Matches pattern (type_text key_str)) : Matches pattern key_str := by
  rw [Matches, type_text, String.toList_ofList] at found
  exact found.trans (List.takeWhile_prefix _).isInfix

namespace CacheManager
variable {δ : Type} {m : CacheManager δ} {pattern : String}

/-- The entries that an invalidation by a pattern removes. -/
def Removed (pattern key_str : String) : Prop := '|' ∉ key_str.toList ∧ Matches pattern key_str

instance (pattern key_str : String) : Decidable (Removed pattern key_str) := inferInstanceAs (Decidable (_ ∧ _))

theorem entries_delete (m : CacheManager δ) (key : CacheKey) :
    (m.delete key).2.backend.cache.entries = m.backend.cache.entries.filter fun item => item.1 ≠ key.str := by
  show (m.backend.delete key).2.cache.entries = _
  unfold MemoryCache.delete
  split
  · rw [MemoryCache.cache_remove]
    rfl
  · next absent =>
    refine (List.filter_eq_self.mpr fun item member => ?_).symm
    rw [decide_eq_true_eq]
    exact fun same => absent ((Dict.contains_iff _ _).mpr (same ▸ List.mem_map_of_mem member))

theorem entries_deletions (keys : List CacheKey) (m : CacheManager δ) :
    (keys.foldl (fun m key => (m.delete key).2) m).backend.cache.entries =
      m.backend.cache.entries.filter fun item => item.1 ∉ keys.map CacheKey.str := by
  induction keys generalizing m with
  | nil => simp
  | cons key rest ih =>
    rw [List.foldl_cons, ih, entries_delete, List.filter_filter]
    refine List.filter_congr fun item _ => ?_
    simp only [List.map_cons, List.mem_cons, not_or, ne_eq, Bool.decide_and, Bool.and_comm]

/-- The keys that the invalidation deletes. -/
theorem mem_deleted {k : String} (stored : k ∈ m.backend.cache.keys) :
    k ∈ ((m.backend.keys.filter fun key => decide (pattern.toList <:+: key.str.toList)).map CacheKey.str) ↔ Removed pattern k := by
  simp only [MemoryCache.keys, List.mem_map, List.mem_filter, decide_eq_true_eq]
  constructor
  · rintro ⟨key, ⟨⟨key_str, -, rfl⟩, found⟩, rfl⟩
    rw [str_of_type] at found ⊢
    exact ⟨bar_not_mem_type_text key_str, found⟩
  · rintro ⟨bare, found⟩
    have text : String.ofList (k.toList.takeWhile fun c => c ≠ '|') = k := type_text_of_bare bare
    exact ⟨{ entity_type := k }, ⟨⟨k, stored, by rw [text]⟩, by rwa [str_of_type]⟩, str_of_type k⟩

/-- An invalidation by a pattern removes the entries whose keys match and have no bar. -/
theorem entries_invalidate_by_pattern (m : CacheManager δ) (pattern : String) :
    (m.invalidate_by_pattern pattern).2.backend.cache.entries =
      m.backend.cache.entries.filter fun item => ¬Removed pattern item.1 := by
  rw [invalidate_by_pattern, entries_deletions]
  refine List.filter_congr fun item member => decide_eq_decide.mpr ?_
  exact not_congr (mem_deleted (List.mem_map_of_mem member))

/-- It counts the entries in whose types the pattern is found. -/
theorem count_invalidate_by_pattern (m : CacheManager δ) (pattern : String) :
    (m.invalidate_by_pattern pattern).1 = (m.backend.cache.entries.filter fun item => Matches pattern (type_text item.1)).length := by
  have texts : m.backend.keys = m.backend.cache.entries.map fun item => { entity_type := type_text item.1 } := List.map_map
  rw [invalidate_by_pattern, texts, List.filter_map, List.length_map]
  simp only [Function.comp_def, str_of_type]
  rfl

/-- Every entry whose key matches is removed, every other one is kept, and the answer is
    how many were removed. -/
def RemovesMatching (m : CacheManager δ) (pattern : String) : Prop :=
  (∀ k, (m.invalidate_by_pattern pattern).2.lookup k = if Matches pattern k then none else m.lookup k) ∧
    (m.invalidate_by_pattern pattern).1 + (m.invalidate_by_pattern pattern).2.size = m.size

theorem lookup_invalidate_by_pattern (m : CacheManager δ) (pattern k : String) :
    (m.invalidate_by_pattern pattern).2.lookup k = if Removed pattern k then none else m.lookup k := by
  apply Option.ext
  intro entry
  rw [lookup, Dict.get?_some_iff, entries_invalidate_by_pattern, List.mem_filter, decide_eq_true_eq]
  by_cases removed : Removed pattern k
  · simp [removed]
  · simp [removed, lookup, Dict.get?_some_iff]

/-- Nothing but that happens where no key with a bar matches. -/
theorem removes_matching_iff :
    m.RemovesMatching pattern ↔ ∀ key_str ∈ m.backend.cache.keys, Matches pattern key_str → '|' ∉ key_str.toList := by
  constructor
  · intro removes key_str stored found
    by_contra bar
    obtain ⟨entry, kept⟩ := (Dict.mem_keys_iff _ _).mp stored
    have gone := removes.1 key_str
    rw [lookup_invalidate_by_pattern, if_neg fun removed => removed.1 bar, if_pos found, lookup, kept] at gone
    cases gone
  · intro bare
    have agree (item : String × CacheEntry δ) (stored : item ∈ m.backend.cache.entries) :
        (Removed pattern item.1 ↔ Matches pattern item.1) ∧ (Matches pattern (type_text item.1) ↔ Matches pattern item.1) := by
      refine ⟨and_iff_right_of_imp (bare _ (List.mem_map_of_mem stored)), matches_of_type_text, fun found => ?_⟩
      rwa [type_text_of_bare (bare _ (List.mem_map_of_mem stored) found)]
    refine ⟨fun k => ?_, ?_⟩
    · rw [lookup_invalidate_by_pattern]
      cases stored : m.lookup k with
      | none => simp
      | some entry =>
        have same := (agree (k, entry) ((Dict.get?_some_iff _ _ _).mp stored)).1
        simp [same]
    · have counted : (m.backend.cache.entries.filter fun item => Matches pattern (type_text item.1)) =
          m.backend.cache.entries.filter fun item => Matches pattern item.1 :=
        List.filter_congr fun item stored => decide_eq_decide.mpr (agree item stored).2
      have left : (m.backend.cache.entries.filter fun item => ¬Removed pattern item.1) =
          m.backend.cache.entries.filter fun item => ¬Matches pattern item.1 :=
        List.filter_congr fun item stored => decide_eq_decide.mpr (not_congr (agree item stored).1)
      have split := m.backend.cache.entries.length_eq_length_filter_add fun item => decide (Matches pattern item.1)
      rw [count_invalidate_by_pattern, counted]
      show _ + (m.invalidate_by_pattern pattern).2.backend.cache.entries.length = m.backend.cache.entries.length
      rw [entries_invalidate_by_pattern, left, split]
      simp

/-- The pattern counts the walls that it leaves. -/
theorem walls_left :
    ¬(({} : CacheManager Unit).set 0 (create_entity_cache_key "Wall" (some (.int 1))) () none []).RemovesMatching "Wall" := by
  intro removes
  have gone := congrArg Option.isSome (removes.1 "Wall|id:1")
  revert gone
  decide +kernel

end CacheManager
end RevitPy
