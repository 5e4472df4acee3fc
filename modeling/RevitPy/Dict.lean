import Mathlib.Data.List.Nodup
import Mathlib.Data.List.Perm.Basic

/-!
# Dictionaries that remember insertion order

A dictionary keeps its items in the order in which their keys were first
inserted. Overwriting a key keeps its place, removing and inserting it again
moves it to the end. Keys are distinct by construction.
-/

namespace RevitPy

/-- Key/value pairs in insertion order, with distinct keys. -/
structure Dict (α β : Type*) where
  entries : List (α × β)
  nodup : (entries.map Prod.fst).Nodup

namespace Dict
variable {α β γ : Type*}

@[ext] theorem ext {d e : Dict α β} (same : d.entries = e.entries) : d = e := by
  cases d; cases e; cases same; rfl

instance [DecidableEq α] [DecidableEq β] : DecidableEq (Dict α β) := fun d e =>
  decidable_of_iff (d.entries = e.entries) ⟨ext, fun h => h ▸ rfl⟩

/-- The dictionary without items. -/
def empty : Dict α β := ⟨[], List.nodup_nil⟩

instance : EmptyCollection (Dict α β) := ⟨empty⟩

def keys (d : Dict α β) : List α := d.entries.map Prod.fst
def values (d : Dict α β) : List β := d.entries.map Prod.snd
def length (d : Dict α β) : Nat := d.entries.length

@[simp] theorem entries_empty : (∅ : Dict α β).entries = [] := rfl
@[simp] theorem keys_empty : (∅ : Dict α β).keys = [] := rfl
theorem length_keys (d : Dict α β) : d.keys.length = d.length := List.length_map ..
theorem keys_nodup (d : Dict α β) : d.keys.Nodup := d.nodup
/-- Dictionaries with the same keys have the same length. -/
theorem length_eq_of_mem_keys {γ : Type*} {d : Dict α β} {e : Dict α γ} (same : ∀ k, k ∈ d.keys ↔ k ∈ e.keys) :
    d.length = e.length := by
  rw [← length_keys, ← length_keys]
  exact ((List.perm_ext_iff_of_nodup d.keys_nodup e.keys_nodup).mpr same).length_eq

section
variable [DecidableEq α]

/-! ## Lookup -/

/-- The value paired with a key in a list of items. -/
def find : List (α × β) → α → Option β
  | [], _ => none
  | (j, v) :: rest, k => if j = k then some v else find rest k

def get? (d : Dict α β) (k : α) : Option β := find d.entries k
/-- `d.get(k, v)`. -/
def getD (d : Dict α β) (k : α) (v : β) : β := (d.get? k).getD v
def contains (d : Dict α β) (k : α) : Bool := decide (k ∈ d.keys)

theorem find_none_iff (items : List (α × β)) (k : α) : find items k = none ↔ k ∉ items.map Prod.fst := by
  induction items with
  | nil => simp [find]
  | cons item rest ih =>
    obtain ⟨j, v⟩ := item
    by_cases same : j = k
    · simp [find, same]
    · simp [find, same, ih, Ne.symm same]

theorem find_some_iff {items : List (α × β)} (distinct : (items.map Prod.fst).Nodup) (k : α) (v : β) :
    find items k = some v ↔ (k, v) ∈ items := by
  induction items with
  | nil => simp [find]
  | cons item rest ih =>
    obtain ⟨j, w⟩ := item
    simp only [List.map_cons, List.nodup_cons] at distinct
    by_cases same : j = k
    · subst same
      have absent : (j, v) ∉ rest := fun member => distinct.1 (List.mem_map_of_mem member)
      simp [find, absent, eq_comm]
    · simp [find, same, ih distinct.2, Ne.symm same]

@[simp] theorem get?_empty (k : α) : (∅ : Dict α β).get? k = none := rfl
theorem get?_some_iff (d : Dict α β) (k : α) (v : β) : d.get? k = some v ↔ (k, v) ∈ d.entries :=
  find_some_iff d.nodup k v
theorem get?_none_iff (d : Dict α β) (k : α) : d.get? k = none ↔ k ∉ d.keys := find_none_iff d.entries k
theorem mem_keys_iff (d : Dict α β) (k : α) : k ∈ d.keys ↔ ∃ v, d.get? k = some v := by
  rw [← not_iff_not, ← get?_none_iff, Option.eq_none_iff_forall_ne_some, not_exists]
theorem mem_keys_of_get? {d : Dict α β} {k : α} {v : β} (found : d.get? k = some v) : k ∈ d.keys :=
  (mem_keys_iff d k).mpr ⟨v, found⟩
@[simp] theorem contains_iff (d : Dict α β) (k : α) : d.contains k = true ↔ k ∈ d.keys := by simp [contains]

theorem entries_eq_filterMap (d : Dict α β) : d.entries = d.keys.filterMap fun k => (d.get? k).map (k, ·) := by
  rw [keys, List.filterMap_map]
  refine (List.filterMap_some (l := d.entries)).symm.trans (List.filterMap_congr fun item member => ?_)
  rw [Function.comp_apply, (get?_some_iff ..).mpr member, Option.map_some]
/-- Dictionaries are equal when their keys stand in one order and have the same values. -/
theorem ext_keys {d e : Dict α β} (keys : d.keys = e.keys) (values : ∀ k, d.get? k = e.get? k) : d = e := by
  apply ext
  rw [entries_eq_filterMap d, entries_eq_filterMap e, keys]
  exact List.filterMap_congr fun k _ => by rw [values k]

/-! ## Assignment -/

/-- The items after `d[k] = v`. -/
def put : List (α × β) → α → β → List (α × β)
  | [], k, v => [(k, v)]
  | (j, w) :: rest, k, v => if j = k then (k, v) :: rest else (j, w) :: put rest k v

theorem keys_put (items : List (α × β)) (k : α) (v : β) :
    (put items k v).map Prod.fst =
      if k ∈ items.map Prod.fst then items.map Prod.fst else items.map Prod.fst ++ [k] := by
  induction items with
  | nil => simp [put]
  | cons item rest ih =>
    obtain ⟨j, w⟩ := item
    by_cases same : j = k
    · simp [put, same]
    · have other : k ≠ j := Ne.symm same
      by_cases later : k ∈ rest.map Prod.fst
      · simp [put, same, ih, later]
      · simp [put, same, other, ih, later]

theorem find_put (items : List (α × β)) (k : α) (v : β) (j : α) :
    find (put items k v) j = if k = j then some v else find items j := by
  induction items with
  | nil => simp [put, find]
  | cons item rest ih =>
    obtain ⟨i, w⟩ := item
    by_cases same : i = k
    · subst same
      by_cases hit : i = j <;> simp [put, find, hit]
    · by_cases hit : i = j
      · subst hit
        simp [put, find, same, Ne.symm same]
      · simp [put, find, same, hit, ih]

/-- `d[k] = v`: a known key keeps its place, a new key goes to the end. -/
def set (d : Dict α β) (k : α) (v : β) : Dict α β where
  entries := put d.entries k v
  nodup := by
    rw [keys_put]
    split
    · exact d.nodup
    · next absent =>
      refine List.nodup_append.mpr ⟨d.nodup, List.nodup_singleton k, ?_⟩
      intro j member i single equal
      rw [List.mem_singleton] at single
      exact absent (by rw [← single, ← equal]; exact member)

theorem get?_set (d : Dict α β) (k : α) (v : β) (j : α) :
    (d.set k v).get? j = if k = j then some v else d.get? j := find_put d.entries k v j
@[simp] theorem get?_set_self (d : Dict α β) (k : α) (v : β) : (d.set k v).get? k = some v := by
  simp [get?_set]
theorem get?_set_ne (d : Dict α β) {k j : α} (v : β) (other : k ≠ j) : (d.set k v).get? j = d.get? j := by
  simp [get?_set, other]
theorem get?_set_of_absent {d : Dict α β} {k j : α} {v w : β} (absent : d.get? k = none) (found : d.get? j = some w) : (d.set k v).get? j = some w := by
  have other : k ≠ j := by
    rintro rfl
    exact nomatch absent.symm.trans found
  rw [get?_set_ne d v other, found]
theorem put_of_find {items : List (α × β)} {k : α} {v : β} (found : find items k = some v) : put items k v = items := by
  induction items with
  | nil => cases found
  | cons item rest ih =>
    obtain ⟨j, w⟩ := item
    by_cases same : j = k
    · simp only [find, same, if_true, Option.some.injEq] at found
      simp [put, same, found]
    · simp only [find, same, if_false] at found
      simp [put, same, ih found]
/-- Assigning what a key has already changes nothing. -/
theorem set_of_get? {d : Dict α β} {k : α} {v : β} (found : d.get? k = some v) : d.set k v = d := ext (put_of_find found)
theorem put_of_not_mem {items : List (α × β)} {k : α} (fresh : k ∉ items.map Prod.fst) (v : β) : put items k v = items ++ [(k, v)] := by
  induction items with
  | nil => rfl
  | cons item rest ih =>
    obtain ⟨j, w⟩ := item
    simp only [List.map_cons, List.mem_cons, not_or] at fresh
    simp [put, Ne.symm fresh.1, ih fresh.2]
theorem entries_set_of_fresh {d : Dict α β} {k : α} (fresh : d.get? k = none) (v : β) : (d.set k v).entries = d.entries ++ [(k, v)] :=
  put_of_not_mem ((get?_none_iff d k).mp fresh) v
theorem keys_set (d : Dict α β) (k : α) (v : β) :
    (d.set k v).keys = if k ∈ d.keys then d.keys else d.keys ++ [k] := keys_put d.entries k v
theorem keys_set_of_mem {d : Dict α β} {k : α} (known : k ∈ d.keys) (v : β) : (d.set k v).keys = d.keys := by
  rw [keys_set, if_pos known]
theorem keys_set_of_not_mem {d : Dict α β} {k : α} (fresh : k ∉ d.keys) (v : β) :
    (d.set k v).keys = d.keys ++ [k] := by rw [keys_set, if_neg fresh]
@[simp] theorem mem_keys_set (d : Dict α β) (k : α) (v : β) (j : α) :
    j ∈ (d.set k v).keys ↔ j = k ∨ j ∈ d.keys := by
  rw [keys_set]
  split
  · next known => exact ⟨Or.inr, fun h => h.elim (fun equal => equal ▸ known) id⟩
  · simp [or_comm]

/-- The dictionary of a list of assignments made in order. -/
def ofList (items : List (α × β)) : Dict α β := items.foldl (fun d item => d.set item.1 item.2) ∅

/-- `d.update(items)`. -/
def update (d : Dict α β) (items : List (α × β)) : Dict α β := items.foldl (fun d item => d.set item.1 item.2) d

theorem entries_update {d : Dict α β} {items : List (α × β)} (distinct : (d.keys ++ items.map Prod.fst).Nodup) :
    (d.update items).entries = d.entries ++ items := by
  induction items generalizing d with
  | nil => exact (List.append_nil _).symm
  | cons item rest ih =>
    have fresh : item.1 ∉ d.keys := fun known => (List.nodup_append.mp distinct).2.2 _ known _ List.mem_cons_self rfl
    have added := entries_set_of_fresh ((get?_none_iff d item.1).mpr fresh) item.2
    have later : ((d.set item.1 item.2).keys ++ rest.map Prod.fst).Nodup := by simpa [keys_set_of_not_mem fresh] using distinct
    exact (ih later).trans (by simp [added])
/-- Items with distinct keys are what the dictionary of their assignments holds. -/
theorem entries_ofList {items : List (α × β)} (distinct : (items.map Prod.fst).Nodup) : (ofList items).entries = items :=
  entries_update (d := ∅) (by simpa using distinct)

/-- The last of the items with a key decides, and the dictionary where there is none. -/
theorem get?_update_entries (d e : Dict α β) (k : α) : (d.update e.entries).get? k = (e.get? k).or (d.get? k) := by
  have updated (items : List (α × β)) (distinct : (items.map Prod.fst).Nodup) :
      (d.update items).get? k = (find items k).or (d.get? k) := by
    induction items generalizing d with
    | nil => rfl
    | cons item rest ih =>
      obtain ⟨fresh, distinct⟩ := List.nodup_cons.mp distinct
      rw [update, List.foldl_cons]
      refine (ih (d.set item.1 item.2) distinct).trans ?_
      by_cases same : item.1 = k
      · have absent : find rest k = none := (find_none_iff rest k).mpr (same ▸ fresh)
        simp [find, absent, same]
      · simp [find, get?_set, same]
  exact updated e.entries e.nodup

/-- What an update finds was there, or is among the items. -/
theorem mem_of_get?_update {d : Dict α β} {items : List (α × β)} {k : α} {v : β} (found : (d.update items).get? k = some v) :
    (k, v) ∈ items ∨ d.get? k = some v := by
  induction items generalizing d with
  | nil => exact Or.inr found
  | cons item rest ih =>
    rcases ih found with later | before
    · exact Or.inl (List.mem_cons_of_mem _ later)
    · rw [get?_set] at before
      split at before
      · next same =>
        obtain rfl := Option.some.inj before
        exact Or.inl (same ▸ List.mem_cons_self)
      · exact Or.inr before

/-- `dict.fromkeys(ks, v)`. -/
def fromkeys (ks : List α) (v : β) : Dict α β := ofList (ks.map fun k => (k, v))

/-! ## Removal -/

/-- `del d[k]`, or no change where the key is absent. -/
def erase (d : Dict α β) (k : α) : Dict α β where
  entries := d.entries.filter fun item => item.1 ≠ k
  nodup := d.nodup.sublist (List.filter_sublist.map Prod.fst)

theorem mem_entries_erase (d : Dict α β) (k j : α) (v : β) :
    (j, v) ∈ (d.erase k).entries ↔ (j, v) ∈ d.entries ∧ j ≠ k := by simp [erase]
theorem get?_erase (d : Dict α β) (k j : α) : (d.erase k).get? j = if k = j then none else d.get? j := by
  apply Option.ext
  intro v
  rw [get?_some_iff, mem_entries_erase]
  by_cases same : k = j
  · simp [same]
  · simp [same, Ne.symm same, get?_some_iff]
@[simp] theorem get?_erase_self (d : Dict α β) (k : α) : (d.erase k).get? k = none := by simp [get?_erase]
theorem get?_erase_ne (d : Dict α β) {k j : α} (other : k ≠ j) : (d.erase k).get? j = d.get? j := by
  simp [get?_erase, other]
/-- What a removal leaves was there. -/
theorem get?_of_erase {d : Dict α β} {k j : α} {v : β} (left : (d.erase k).get? j = some v) : d.get? j = some v := by
  rw [get?_erase] at left
  split at left
  · exact absurd left nofun
  · exact left
theorem mem_keys_erase (d : Dict α β) (k j : α) : j ∈ (d.erase k).keys ↔ j ∈ d.keys ∧ j ≠ k := by
  simp only [mem_keys_iff, get?_erase]
  by_cases same : k = j
  · simp [same]
  · simp [same, Ne.symm same]

/-- The items are the one that is removed and those that are left. -/
theorem perm_erase {d : Dict α β} {k : α} {v : β} (found : d.get? k = some v) : d.entries.Perm ((k, v) :: (d.erase k).entries) := by
  have known := (get?_some_iff d k v).mp found
  have absent : (k, v) ∉ (d.erase k).entries := fun left => ((mem_entries_erase d k k v).mp left).2 rfl
  refine (List.perm_ext_iff_of_nodup d.nodup.of_map (List.nodup_cons.mpr ⟨absent, (d.erase k).nodup.of_map⟩)).mpr ?_
  rintro ⟨j, w⟩
  rw [List.mem_cons, mem_entries_erase]
  constructor
  · intro member
    by_cases same : j = k
    · subst same
      have equal := ((get?_some_iff d j w).mpr member).symm.trans found
      exact Or.inl (by rw [Option.some.inj equal])
    · exact Or.inr ⟨member, same⟩
  · rintro (equal | ⟨member, -⟩)
    · rwa [equal]
    · exact member

theorem count_keys_set (d : Dict α β) (k : α) (v : β) (j : α) : (d.set k v).keys.count j = if k = j then 1 else d.keys.count j := by
  rw [(keys_nodup _).count, (keys_nodup _).count]
  by_cases same : k = j
  · simp [same]
  · simp [same, Ne.symm same]

theorem count_keys_erase (d : Dict α β) (k j : α) : (d.erase k).keys.count j = if k = j then 0 else d.keys.count j := by
  rw [(keys_nodup _).count, (keys_nodup _).count]
  by_cases same : k = j
  · simp [same, mem_keys_erase]
  · simp [same, Ne.symm same, mem_keys_erase]

theorem length_erase_lt {d : Dict α β} {k : α} (known : k ∈ d.keys) : (d.erase k).length < d.length := by
  obtain ⟨item, member, same⟩ := List.mem_map.mp known
  have dropped : ∃ item ∈ d.entries, ¬decide (item.1 ≠ k) = true := ⟨item, member, by simp [same]⟩
  exact List.length_filter_lt_length_iff_exists.mpr dropped

theorem length_erase_le (d : Dict α β) (k : α) : (d.erase k).length ≤ d.length := List.length_filter_le _ _

/-- `d.move_to_end(k)` of an ordered dictionary. -/
def move_to_end (d : Dict α β) (k : α) : Dict α β := match d.get? k with
  | none => d
  | some v => (d.erase k).set k v

@[simp] theorem get?_move_to_end (d : Dict α β) (k j : α) : (d.move_to_end k).get? j = d.get? j := by
  unfold move_to_end
  split
  · rfl
  · next v found =>
    rw [get?_set]
    split
    · next same => rw [← same, found]
    · next other => exact get?_erase_ne d other

/-! ## Length -/

theorem length_set_of_mem {d : Dict α β} {k : α} (known : k ∈ d.keys) (v : β) : (d.set k v).length = d.length := by
  rw [← length_keys, keys_set_of_mem known, length_keys]

theorem length_set_of_not_mem {d : Dict α β} {k : α} (fresh : k ∉ d.keys) (v : β) : (d.set k v).length = d.length + 1 := by
  rw [← length_keys, keys_set_of_not_mem fresh, List.length_append, length_keys, List.length_singleton]

theorem length_erase_of_mem {d : Dict α β} {k : α} (known : k ∈ d.keys) : (d.erase k).length + 1 = d.length := by
  obtain ⟨v, -⟩ := (mem_keys_iff d k).mp known
  have dropped : k ∉ (d.erase k).keys := by simp [mem_keys_erase]
  rw [← length_set_of_not_mem dropped v]
  refine length_eq_of_mem_keys fun j => ?_
  rw [mem_keys_set, mem_keys_erase]
  by_cases same : j = k
  · simp [same, known]
  · simp [same]

theorem length_set_le (d : Dict α β) (k : α) (v : β) : (d.set k v).length ≤ d.length + 1 := by
  by_cases known : k ∈ d.keys
  · rw [length_set_of_mem known]
    exact Nat.le_succ _
  · exact Nat.le_of_eq (length_set_of_not_mem known v)

theorem mem_keys_move_to_end (d : Dict α β) (k j : α) : j ∈ (d.move_to_end k).keys ↔ j ∈ d.keys := by
  rw [mem_keys_iff, mem_keys_iff, get?_move_to_end]

theorem length_move_to_end (d : Dict α β) (k : α) : (d.move_to_end k).length = d.length :=
  length_eq_of_mem_keys (mem_keys_move_to_end d k)

/-! ## Equality that ignores the order -/

/-- Two dictionaries have the same items, in any order. -/
def Same (d e : Dict α β) : Prop := ∀ k, d.get? k = e.get? k

theorem Same.refl (d : Dict α β) : d.Same d := fun _ => rfl
theorem Same.symm {d e : Dict α β} (same : d.Same e) : e.Same d := fun k => (same k).symm
theorem Same.trans {d e f : Dict α β} (left : d.Same e) (right : e.Same f) : d.Same f :=
  fun k => (left k).trans (right k)
theorem Same.set {d e : Dict α β} (same : d.Same e) (k : α) (v : β) : (d.set k v).Same (e.set k v) :=
  fun j => by rw [get?_set, get?_set, same j]

/-- `d == e`, where values are compared by `eqv`. -/
def eqBy (eqv : β → β → Bool) (d e : Dict α β) : Bool :=
  d.entries.length == e.entries.length &&
    d.entries.all fun item => match e.get? item.1 with
      | some w => eqv item.2 w
      | none => false

end
end Dict
end RevitPy
