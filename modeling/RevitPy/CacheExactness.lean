import Mathlib.Algebra.Order.BigOperators.Group.List
import Mathlib.Algebra.Order.Group.Nat
import Mathlib.Data.List.Infix
import Mathlib.Data.List.Perm.Subperm
import Mathlib.Data.List.TakeWhile
import Mathlib.Data.Nat.Find
import RevitPy.CacheRepresentation

/-!
# What a set evicts

The loop of `set` evicts before it is known whether the value fits at all, and counts the
old entry of the key along with the others. So it evicts what is needed, and no more,
only where the value fits the empty cache and the old entry makes no difference.
-/

namespace RevitPy.Performance

variable {ω : Type}

/-- A value of a size has room beside some entries. -/
def Fits (config : OptimizationConfig) (value_size : Nat) (entries : List (String × Object ω)) : Prop :=
  (entries.length : Int) < config.cache_max_size ∧
    ((entries.map fun entry => estimate_size entry.2).sum + value_size : Nat) ≤ config.max_memory_bytes

instance (config : OptimizationConfig) (value_size : Nat) (entries : List (String × Object ω)) : Decidable (Fits config value_size entries) :=
  inferInstanceAs (Decidable (_ ∧ _))

namespace AdaptiveCache

variable (config : OptimizationConfig) (c : AdaptiveCache ω)

/-- The entries of the other keys than some. -/
def remaining (gone : List String) : List (String × Object ω) := c.cache.entries.filter fun entry => entry.1 ∉ gone

/-- The other keys than one, the least recently used first. -/
def others (key : String) : List String := c.access_order.filter (· ≠ key)

/-- The keys that were used before one. -/
def used_before (key : String) : List String := c.access_order.takeWhile (· ≠ key)

/-- The shortest beginning of the other keys, least recently used first, without which and without the old entry
    of the key a value fits. -/
structure Shortest (key : String) (value : Object ω) (gone : List String) : Prop where
  oldest : gone <+: c.others key
  fits : Fits config (estimate_size value) (c.remaining (key :: gone))
  least : ∀ shorter, shorter <+: c.others key → Fits config (estimate_size value) (c.remaining (key :: shorter)) →
    gone.length ≤ shorter.length

/-- A set that fails changes nothing, and one that succeeds stores the value and removes the shortest beginning of
    the other keys. -/
structure SetsExactly (key : String) (value : Object ω) (done : Bool) (after : Dict String (Object ω)) : Prop where
  unchanged : done = false → ∀ k, after.get? k = c.cache.get? k
  stored : done = true → after.get? key = some value ∧
    ∃ gone, c.Shortest config key value gone ∧ ∀ k, k ≠ key → after.get? k = if k ∈ gone then none else c.cache.get? k

/-- The old entry of the key makes no difference: there is none, or the keys used before are removed in any case, or
    the value fits beside it. -/
def OldEntryMinor (key : String) (value : Object ω) : Prop :=
  c.cache.get? key = none ∨ ∀ gone, c.Shortest config key value gone →
    (∀ k ∈ c.used_before key, k ∈ gone) ∨ Fits config (estimate_size value) (c.remaining gone)

variable {config c} {key : String} {value : Object ω} {value_size : Nat}

/-! ## Evictions -/

/-- The cache without some keys. -/
def removed (c : AdaptiveCache ω) (gone : List String) : AdaptiveCache ω := gone.foldl remove_key c

theorem entries_removed (c : AdaptiveCache ω) (gone : List String) : (c.removed gone).cache.entries = c.remaining gone := by
  unfold removed remaining
  induction gone generalizing c with
  | nil => simp
  | cons key rest ih =>
    rw [List.foldl_cons, ih, cache_remove_key, Dict.erase, List.filter_filter]
    refine List.filter_congr fun entry _ => ?_
    by_cases same : entry.1 = key <;> simp [same]

theorem get?_removed (c : AdaptiveCache ω) (gone : List String) (k : String) :
    (c.removed gone).cache.get? k = if k ∈ gone then none else c.cache.get? k := by
  unfold removed
  induction gone generalizing c with
  | nil => rfl
  | cons key rest ih =>
    rw [List.foldl_cons, ih, cache_remove_key, Dict.get?_erase]
    by_cases same : k = key
    · simp [same]
    · by_cases member : k ∈ rest <;> simp [member, same, Ne.symm same]

theorem accounted_removed (accounted : c.Accounted) (gone : List String) : (c.removed gone).Accounted := by
  unfold removed
  induction gone generalizing c with
  | nil => exact accounted
  | cons key rest ih => exact ih (accounted_remove_key accounted key)

theorem access_order_removed {evicted rest : List String} (order : c.access_order = evicted ++ rest) :
    (c.removed evicted).access_order = rest := by
  unfold removed
  induction evicted generalizing c with
  | nil => exact order
  | cons key more ih =>
    refine ih ?_
    rw [access_order_remove_key, order, List.cons_append, List.erase_cons_head]

theorem crowded_removed_iff (accounted : c.Accounted) (gone : List String) :
    (c.removed gone).Crowded config value_size ↔ ¬Fits config value_size (c.remaining gone) := by
  have usage := accounted_removed accounted gone
  unfold Accounted at usage
  rw [entries_removed] at usage
  have length : (c.removed gone).cache.length = (c.remaining gone).length := by rw [Dict.length, entries_removed]
  rw [Crowded, Fits, usage, length]
  omega

/-- The loop evicts the shortest beginning of the keys without which the value fits, or all. -/
theorem make_space_evicts (config : OptimizationConfig) (accounted : c.Accounted) (value_size : Nat) : ∃ evicted rest, c.access_order = evicted ++ rest ∧
    Loop.exec (make_space config value_size) _ (make_space_decreasing config value_size) c = c.removed evicted ∧
    (∀ gone, gone <+: c.access_order → Fits config value_size (c.remaining gone) → evicted <+: gone) ∧
    (rest = [] ∨ Fits config value_size (c.remaining evicted)) := by
  have kept := Loop.exec_induction (P := fun made => ∃ evicted rest, c.access_order = evicted ++ rest ∧ made = c.removed evicted ∧
      ∀ gone, gone <+: evicted → gone ≠ evicted → ¬Fits config value_size (c.remaining gone))
    (make_space_decreasing config value_size) c (fun made next kept stepped => ?_) ⟨[], c.access_order, rfl, rfl, fun gone part other => ?_⟩
  · generalize Loop.exec (make_space config value_size) _ (make_space_decreasing config value_size) c = made at kept
    obtain ⟨⟨evicted, rest, order, rfl, crowded⟩, ended⟩ := kept
    refine ⟨evicted, rest, order, rfl, fun gone part fits => ?_, ?_⟩
    · rcases List.prefix_or_prefix_of_prefix part (order ▸ List.prefix_append evicted rest) with shorter | longer
      · by_cases same : gone = evicted
        · exact same ▸ List.prefix_refl _
        · exact absurd fits (crowded gone shorter same)
      · exact longer
    · unfold make_space at ended
      split at ended
      · unfold evict_item at ended
        split at ended
        · next empty => exact .inl ((access_order_removed order).symm.trans empty)
        · cases ended
      · next roomy => exact .inr (not_not.mp fun full => roomy ((crowded_removed_iff accounted evicted).mpr full))
  · obtain ⟨evicted, rest, order, rfl, crowded⟩ := kept
    unfold make_space at stepped
    split at stepped
    · next full =>
      unfold evict_item at stepped
      split at stepped
      · cases stepped
      · next lru_key more listed =>
        rw [access_order_removed order] at listed
        subst listed
        cases stepped
        refine ⟨evicted ++ [lru_key], more, by simp [order], by simp [removed], fun gone part other => ?_⟩
        rcases List.prefix_concat_iff.mp part with same | shorter
        · exact absurd same other
        · by_cases same : gone = evicted
          · exact same ▸ (crowded_removed_iff accounted evicted).mp full
          · exact crowded gone shorter same
    · cases stepped
  · exact absurd (List.prefix_nil.mp part) other

/-! ## What a set removes -/

theorem fits_of_subset {gone more : List String} (subset : ∀ k ∈ gone, k ∈ more)
    (fits : Fits config value_size (c.remaining gone)) : Fits config value_size (c.remaining more) := by
  have part : (c.remaining more).Sublist (c.remaining gone) := by
    refine List.monotone_filter_right _ fun entry left => ?_
    simp only [decide_eq_true_eq] at left ⊢
    exact fun member => left (subset _ member)
  have fewer := part.length_le
  have lighter := (part.map fun entry => estimate_size entry.2).sum_le_sum (fun _ _ => Nat.zero_le _)
  obtain ⟨few, small⟩ := fits
  refine ⟨by omega, by omega⟩

theorem remaining_congr (gone other : List String) (same : ∀ entry ∈ c.cache.entries, entry.1 ∈ gone ↔ entry.1 ∈ other) :
    c.remaining gone = c.remaining other :=
  List.filter_congr fun entry member => by simp [same entry member]

/-- The shortest beginning is the only one. -/
theorem shortest_unique {gone other : List String} (first : c.Shortest config key value gone) (second : c.Shortest config key value other) :
    gone = other := by
  have length : gone.length = other.length :=
    Nat.le_antisymm (first.least other second.oldest second.fits) (second.least gone first.oldest first.fits)
  rcases List.prefix_or_prefix_of_prefix first.oldest second.oldest with shorter | shorter
  · exact shorter.eq_of_length length
  · exact (shorter.eq_of_length length.symm).symm

/-- Where the value fits after some removals, there is a shortest beginning. -/
theorem exists_shortest {gone : List String} (part : gone <+: c.others key)
    (fits : Fits config (estimate_size value) (c.remaining (key :: gone))) : ∃ gone, c.Shortest config key value gone := by
  classical
  have some : ∃ n, ∃ gone, gone <+: c.others key ∧ Fits config (estimate_size value) (c.remaining (key :: gone)) ∧ gone.length = n :=
    ⟨_, gone, part, fits, rfl⟩
  obtain ⟨found, oldest, fits, length⟩ := Nat.find_spec some
  refine ⟨found, oldest, fits, fun shorter part fits => ?_⟩
  rw [length]
  exact Nat.find_min' some ⟨shorter, part, fits, rfl⟩

theorem storable_iff : Storable config value ↔ Fits config (estimate_size value) ([] : List (String × Object ω)) := by
  simp [Storable, Fits]

/-- A set stores the value and removes what its loop evicts, or the loop evicts all in vain. -/
theorem set_evicts (config : OptimizationConfig) (accounted : c.Accounted) (key : String) (value : Object ω) (now : Int) : ∃ evicted rest, c.access_order = evicted ++ rest ∧
    (∀ gone, gone <+: c.access_order → Fits config (estimate_size value) (c.remaining gone) → evicted <+: gone) ∧
    (Fits config (estimate_size value) (c.remaining evicted) ∧ (c.set config key value now).1 = true ∧
        (∀ k, (c.set config key value now).2.cache.get? k = if key = k then some value else if k ∈ evicted then none else c.cache.get? k) ∨
      rest = [] ∧ ¬Fits config (estimate_size value) (c.remaining evicted) ∧ c.set config key value now = (false, c.removed evicted)) := by
  obtain ⟨evicted, rest, order, made, first, ended⟩ := make_space_evicts config accounted (estimate_size value)
  refine ⟨evicted, rest, order, first, ?_⟩
  unfold set
  simp only [made]
  by_cases fits : Fits config (estimate_size value) (c.remaining evicted)
  · rw [if_neg fun full => (crowded_removed_iff accounted evicted).mp full fits]
    refine .inl ⟨fits, rfl, fun k => ?_⟩
    rw [remove_if_known]
    have stored : (((c.removed evicted).remove_key key).add key value now).cache = ((c.removed evicted).remove_key key).cache.set key value := rfl
    rw [stored, Dict.get?_set, cache_remove_key, Dict.get?_erase, get?_removed]
    by_cases same : key = k <;> simp [same]
  · rw [if_pos ((crowded_removed_iff accounted evicted).mpr fits)]
    exact .inr ⟨ended.resolve_right fits, fits, rfl⟩

/-- A beginning of the keys that loses the given one is a beginning of the others. -/
theorem prefix_others {gone : List String} (part : gone <+: c.access_order) (key : String) :
    gone.filter (· ≠ key) <+: c.others key := part.filter _

/-- Without the old entry and the other keys that are evicted, the value fits as well. -/
theorem fits_without {evicted : List String} (fits : Fits config (estimate_size value) (c.remaining evicted)) (key : String) :
    Fits config (estimate_size value) (c.remaining (key :: evicted.filter (· ≠ key))) := by
  refine fits_of_subset (fun k member => ?_) fits
  by_cases same : k = key <;> simp [same, member]

theorem filter_ne_self {l : List String} (absent : key ∉ l) : l.filter (· ≠ key) = l :=
  List.filter_eq_self.mpr fun _ member => decide_eq_true fun same => absent (same ▸ member)

/-- What stands before a key stands in every beginning that has the key. -/
theorem mem_of_takeWhile {evicted rest : List String} (old : key ∈ evicted) {k : String}
    (before : k ∈ (evicted ++ rest).takeWhile (· ≠ key)) : k ∈ evicted := by
  induction evicted with
  | nil => simp at old
  | cons j more ih =>
    by_cases here : j = key
    · simp [here] at before
    · simp only [List.cons_append, List.takeWhile_cons, ne_eq, here, not_false_eq_true, decide_true, if_true, List.mem_cons] at before
      rcases before with rfl | later
      · exact .head _
      · exact .tail _ (ih (List.mem_of_ne_of_mem (Ne.symm here) old) later)

theorem not_mem_others (c : AdaptiveCache ω) (key : String) : key ∉ c.others key := by simp [others]

/-- A beginning of the others that goes as far as the key is one of all keys without it. -/
theorem prefix_with_key {older newer gone : List String} (order : c.access_order = older ++ key :: newer)
    (others : c.others key = older ++ newer) (part : gone <+: c.others key) (far : older <+: gone) :
    ∃ evicted, evicted <+: c.access_order ∧ (∀ k, k ∈ evicted ↔ k ∈ key :: gone) ∧ evicted.filter (· ≠ key) = gone := by
  have absent : key ∉ gone := fun member => c.not_mem_others key (part.subset member)
  obtain ⟨more, rfl⟩ := far
  have more_part : more <+: newer := by
    rw [others] at part
    exact (List.prefix_append_right_inj older).mp part
  obtain ⟨later, rfl⟩ := more_part
  refine ⟨older ++ key :: more, ⟨later, by simp [order]⟩, fun k => ?_, ?_⟩
  · simp only [List.mem_append, List.mem_cons]
    tauto
  · simpa using filter_ne_self absent

/-- Where the old entry makes no difference, the shortest beginning of the others is one of all keys without it. -/
theorem exists_prefix (listed : ∀ k, k ∈ c.access_order ↔ k ∈ c.cache.keys) (minor : c.OldEntryMinor config key value) {gone : List String}
    (shortest : c.Shortest config key value gone) : ∃ evicted, evicted <+: c.access_order ∧
      Fits config (estimate_size value) (c.remaining evicted) ∧ evicted.filter (· ≠ key) = gone := by
  have absent : key ∉ gone := fun member => c.not_mem_others key (shortest.oldest.subset member)
  by_cases known : key ∈ c.access_order
  · obtain ⟨older, newer, order⟩ := List.append_of_mem known
    have once := order ▸ c.distinct
    have parts := List.nodup_append.mp once
    have not_older : key ∉ older := fun member => parts.2.2 key member key (.head _) rfl
    have not_newer : key ∉ newer := (List.nodup_cons.mp parts.2.1).1
    have before : c.used_before key = older := by
      have all : ∀ k ∈ older, decide (k ≠ key) = true := fun k member => decide_eq_true fun same => not_older (same ▸ member)
      rw [used_before, order, List.takeWhile_append_of_pos all]
      simp
    have others : c.others key = older ++ newer := by
      rw [AdaptiveCache.others, order, List.filter_append, List.filter_cons_of_neg (by simp)]
      rw [filter_ne_self not_older, filter_ne_self not_newer]
    have with_key (far : older <+: gone) : ∃ evicted, evicted <+: c.access_order ∧
        Fits config (estimate_size value) (c.remaining evicted) ∧ evicted.filter (· ≠ key) = gone := by
      obtain ⟨evicted, part, same, left⟩ := prefix_with_key order others shortest.oldest far
      refine ⟨evicted, part, ?_, left⟩
      rw [remaining_congr evicted (key :: gone) fun entry _ => same entry.1]
      exact shortest.fits
    rcases List.prefix_or_prefix_of_prefix shortest.oldest (others ▸ List.prefix_append older newer) with short | far
    · rcases minor with none | minor
      · exact absurd ((listed key).mp known) ((Dict.get?_none_iff _ _).mp none)
      · rcases minor gone shortest with all | fits
        · -- the beginning has all keys that were used before, so it ends there
          have length : older.length ≤ gone.length := (List.subperm_of_subset parts.1 fun k member => all k (before ▸ member)).length_le
          exact with_key (short.eq_of_length_le length ▸ List.prefix_refl _)
        · exact ⟨gone, short.trans (order ▸ List.prefix_append older _), fits, filter_ne_self absent⟩
    · exact with_key far
  · have others : c.others key = c.access_order := filter_ne_self known
    refine ⟨gone, others ▸ shortest.oldest, ?_, filter_ne_self absent⟩
    rw [remaining_congr gone (key :: gone) fun entry member => ?_]
    · exact shortest.fits
    · have other : entry.1 ≠ key := fun same => known ((listed key).mpr (same ▸ List.mem_map_of_mem member))
      simp [other]

/-- On what is evicted, a set and the claim agree exactly where the old entry makes no difference. -/
theorem evicted_iff (listed : ∀ k, k ∈ c.access_order ↔ k ∈ c.cache.keys) {evicted rest : List String}
    (order : c.access_order = evicted ++ rest) (fits : Fits config (estimate_size value) (c.remaining evicted))
    (first : ∀ gone, gone <+: c.access_order → Fits config (estimate_size value) (c.remaining gone) → evicted <+: gone) :
    (∃ gone, c.Shortest config key value gone ∧
      ∀ k, k ≠ key → (if k ∈ evicted then none else c.cache.get? k) = if k ∈ gone then none else c.cache.get? k) ↔
      c.OldEntryMinor config key value := by
  have part : evicted <+: c.access_order := order ▸ List.prefix_append evicted rest
  constructor
  · intro ⟨gone, shortest, agree⟩
    have same {k : String} (other : k ≠ key) (known : k ∈ c.cache.keys) : k ∈ evicted ↔ k ∈ gone := by
      obtain ⟨v, found⟩ := (Dict.mem_keys_iff _ _).mp known
      have here := agree k other
      rw [found] at here
      by_cases out : k ∈ evicted <;> by_cases lost : k ∈ gone <;> simp_all
    by_cases known : key ∈ c.cache.keys
    · refine .inr fun gone' shortest' => ?_
      rw [shortest_unique shortest' shortest]
      by_cases old : key ∈ evicted
      · refine .inl fun k before => ?_
        have other : k ≠ key := by simpa using List.mem_takeWhile_imp before
        rw [used_before, order] at before
        have out : k ∈ evicted := mem_of_takeWhile old before
        exact (same other ((listed k).mp (part.subset out))).mp out
      · refine .inr ?_
        rw [remaining_congr gone evicted fun entry member => ?_]
        · exact fits
        · by_cases own : entry.1 = key
          · have absent : key ∉ gone := fun member => c.not_mem_others key (shortest.oldest.subset member)
            simp [own, old, absent]
          · exact (same own (List.mem_map_of_mem member)).symm
    · exact .inl ((Dict.get?_none_iff _ _).mpr known)
  · intro minor
    obtain ⟨gone, shortest⟩ := exists_shortest (prefix_others part key) (fits_without fits key)
    obtain ⟨longer, longer_part, longer_fits, rfl⟩ := exists_prefix listed minor shortest
    have shorter : evicted.filter (· ≠ key) <+: longer.filter (· ≠ key) := (first longer longer_part longer_fits).filter _
    have same := shorter.eq_of_length_le (shortest.least _ (prefix_others part key) (fits_without fits key))
    refine ⟨_, shortest, fun k other => ?_⟩
    rw [← same]
    simp [other]

theorem storable_of_fits {entries : List (String × Object ω)} (fits : Fits config (estimate_size value) entries) : Storable config value := by
  obtain ⟨few, small⟩ := fits
  exact ⟨by omega, by omega⟩

/-- A set is exact if the value fits the empty cache, or there is nothing to lose, and the old entry makes no difference. -/
theorem setsExactly_iff (listed : ∀ k, k ∈ c.access_order ↔ k ∈ c.cache.keys) (accounted : c.Accounted) (now : Int) :
    c.SetsExactly config key value (c.set config key value now).1 (c.set config key value now).2.cache ↔
      (Storable config value ∨ c.cache.entries = []) ∧ c.OldEntryMinor config key value := by
  obtain ⟨evicted, rest, order, first, ⟨fits, done, after⟩ | ⟨rfl, crowded, failed⟩⟩ := set_evicts config accounted key value now
  · rw [done, ← evicted_iff listed order fits first]
    have others (k : String) (other : k ≠ key) : (c.set config key value now).2.cache.get? k = if k ∈ evicted then none else c.cache.get? k := by
      rw [after, if_neg other.symm]
    constructor
    · intro exact
      obtain ⟨gone, shortest, agree⟩ := (exact.stored rfl).2
      exact ⟨.inl (storable_of_fits fits), gone, shortest, fun k other => (others k other).symm.trans (agree k other)⟩
    · rintro ⟨_, gone, shortest, agree⟩
      refine ⟨fun fails => (by cases fails), fun _ => ⟨by rw [after, if_pos rfl], gone, shortest, fun k other => ?_⟩⟩
      exact (others k other).trans (agree k other)
  · rw [List.append_nil] at order
    rw [failed]
    have lost (k : String) : (c.removed evicted).cache.get? k = none := by
      rw [get?_removed]
      split
      · rfl
      · next absent => exact (Dict.get?_none_iff _ _).mpr fun known => absent (order ▸ (listed k).mpr known)
    have never : ¬Storable config value := by
      rw [storable_iff]
      have all : c.remaining evicted = [] := by
        refine List.filter_eq_nil_iff.mpr fun entry member => ?_
        simpa using order ▸ (listed entry.1).mpr (List.mem_map_of_mem member)
      rwa [all] at crowded
    constructor
    · intro exact
      refine ⟨.inr (List.eq_nil_iff_forall_not_mem.mpr fun entry member => ?_), .inr fun gone shortest => ?_⟩
      · have same := exact.unchanged rfl entry.1
        rw [lost, (Dict.get?_some_iff _ _ _).mpr member] at same
        cases same
      · exact absurd (storable_of_fits shortest.fits) never
    · rintro ⟨room, _⟩
      have empty := room.resolve_left never
      refine ⟨fun _ k => ?_, fun fails => by cases fails⟩
      rw [lost, Dict.get?, empty]
      rfl

end AdaptiveCache

namespace TrackedCache

theorem core_set (config : OptimizationConfig) (c : TrackedCache ω) (key : String) (value : Object ω) (now accessed : Int) :
    (c.set config key value now accessed).1 = (c.core.set config key value now).1 ∧
      (c.set config key value now accessed).2.core = (c.core.set config key value now).2 := by
  have made := Loop.exec_map (make_space_decreasing config (estimate_size value))
    (AdaptiveCache.make_space_decreasing config (estimate_size value)) (core_make_space config (estimate_size value)) c
  unfold set AdaptiveCache.set
  simp only [← made]
  split
  · exact ⟨rfl, rfl⟩
  · split
    · exact ⟨rfl, congrArg (·.add key value now) (core_remove_key _ key)⟩
    · exact ⟨rfl, rfl⟩

end TrackedCache

end RevitPy.Performance
