import Mathlib.Algebra.BigOperators.Group.List.Basic
import Mathlib.Data.List.Induction
import RevitPy.Dict

/-!
# Grouping by a key

Items that have one key are combined, each with those before it. Where the combination
is associative, it does not matter which parts of a list are grouped before the others.
-/

namespace RevitPy.Grouping

/-- How items are told apart, and how two with one key are combined. -/
structure Rule (α β : Type*) where
  key : β → α
  combine : β → β → β
  key_combine : ∀ a b, key (combine a b) = key a

variable {α β : Type*} [DecidableEq α] (rule : Rule α β)

/-- The item of a group after one more. -/
def joined : Option β → β → β
  | some a, b => rule.combine a b
  | none, b => b

def insert (d : Dict α β) (b : β) : Dict α β := d.set (rule.key b) (joined rule (d.get? (rule.key b)) b)

/-- What a group becomes by more items. -/
def gathered (found : Option β) (bs : List β) : Option β := bs.foldl (fun found b => some (joined rule found b)) found

/-- The groups of a list, in the order of their first items. -/
def group (bs : List β) : Dict α β := bs.foldl (insert rule) ∅

/-- A list of keys after another key. -/
def note (ks : List α) (k : α) : List α := if k ∈ ks then ks else ks ++ [k]

variable {rule} {d : Dict α β}

/-! ## What is in a group -/

theorem keys_foldl (bs : List β) (d : Dict α β) : (bs.foldl (insert rule) d).keys = (bs.map rule.key).foldl note d.keys := by
  induction bs generalizing d with
  | nil => rfl
  | cons b rest ih =>
    rw [List.foldl_cons, ih, List.map_cons, List.foldl_cons]
    congr 1
    exact Dict.keys_set ..

theorem get?_foldl (bs : List β) (d : Dict α β) (k : α) :
    (bs.foldl (insert rule) d).get? k = gathered rule (d.get? k) (bs.filter fun b => rule.key b = k) := by
  induction bs generalizing d with
  | nil => rfl
  | cons b rest ih =>
    rw [List.foldl_cons, ih, insert, Dict.get?_set]
    by_cases same : rule.key b = k
    · simp [same, gathered]
    · simp [same]

theorem mem_foldl_note (l ks : List α) (k : α) : k ∈ l.foldl note ks ↔ k ∈ ks ∨ k ∈ l := by
  induction l generalizing ks with
  | nil => simp
  | cons j rest ih =>
    rw [List.foldl_cons, ih, note]
    split
    · next known =>
      rw [List.mem_cons]
      constructor
      · rintro (before | later)
        · exact .inl before
        · exact .inr (.inr later)
      · rintro (before | rfl | later)
        · exact .inl before
        · exact .inl known
        · exact .inr later
    · simp [or_assoc]

/-- Keys that are noted once are noted in the same places. -/
theorem foldl_note_foldl (l ks : List α) : (l.foldl note []).foldl note ks = l.foldl note ks := by
  induction l using List.reverseRecOn with
  | nil => rfl
  | append_singleton l k ih =>
    rw [List.foldl_append, List.foldl_append, List.foldl_cons, List.foldl_nil, List.foldl_cons, List.foldl_nil, ← ih]
    by_cases known : k ∈ l.foldl note []
    · have noted : k ∈ (l.foldl note []).foldl note ks := (mem_foldl_note _ _ _).mpr (.inr known)
      rw [note, if_pos known, note, if_pos noted]
    · rw [note, if_neg known, List.foldl_append]
      rfl

/-- The keys that are noted are those of a list without later repetitions. -/
theorem foldl_note_nil (l : List α) : l.foldl note [] = l.eraseDups := by
  induction l using List.reverseRecOn with
  | nil => rfl
  | append_singleton l k ih =>
    rw [List.foldl_append, ih, List.eraseDups_append, List.foldl_cons, List.foldl_nil, note]
    by_cases known : k ∈ l
    · simp [known, List.removeAll]
    · simp [known, List.removeAll, List.eraseDups_cons]

/-- The groups have the keys of the items, each where it first occurs. -/
theorem keys_group (bs : List β) : (group rule bs).keys = (bs.map rule.key).eraseDups := by
  rw [group, keys_foldl, Dict.keys_empty, foldl_note_nil]

/-! ## Parts that are grouped before -/

/-- Each item stands under its key. -/
def Keyed (rule : Rule α β) (d : Dict α β) : Prop := ∀ k b, d.get? k = some b → rule.key b = k

theorem keyed_insert (keyed : Keyed rule d) (b : β) : Keyed rule (insert rule d b) := by
  intro k c found
  rw [insert, Dict.get?_set] at found
  split at found
  · next same =>
    obtain rfl := Option.some.inj found
    cases before : d.get? (rule.key b) with
    | none => exact same
    | some a =>
      rw [joined, rule.key_combine]
      exact (keyed _ a before).trans same
  · exact keyed k c found

theorem keyed_group (bs : List β) : Keyed rule (group rule bs) :=
  List.foldlRecOn (motive := Keyed rule) bs (insert rule) (by intro k b found; cases found) fun _ keyed b _ => keyed_insert keyed b

theorem keys_values (keyed : Keyed rule d) : d.values.map rule.key = d.keys := by
  rw [Dict.values, Dict.keys, List.map_map]
  refine List.map_congr_left fun item member => ?_
  exact keyed item.1 item.2 ((Dict.get?_some_iff ..).mpr member)

/-- One item has a key. -/
theorem filter_values (keyed : Keyed rule d) (k : α) : (d.values.filter fun b => rule.key b = k) = (d.get? k).toList := by
  have alone (items : List (α × β)) (distinct : (items.map Prod.fst).Nodup) (each : ∀ item ∈ items, rule.key item.2 = item.1) :
      ((items.map Prod.snd).filter fun b => rule.key b = k) = (Dict.find items k).toList := by
    induction items with
    | nil => rfl
    | cons item rest ih =>
      obtain ⟨fresh, distinct⟩ := List.nodup_cons.mp distinct
      have own : rule.key item.2 = item.1 := each item List.mem_cons_self
      have others := ih distinct fun other member => each other (List.mem_cons_of_mem _ member)
      by_cases same : item.1 = k
      · have absent : Dict.find rest k = none := (Dict.find_none_iff rest k).mpr (same ▸ fresh)
        simp [Dict.find, own, same, others, absent]
      · simp [Dict.find, own, same, others]
  exact alone d.entries d.nodup fun item member => keyed _ _ ((Dict.get?_some_iff ..).mpr member)

/-- The item of a group is gathered from the items with its key. -/
theorem gathered_of_mem {bs : List β} {m : β} (member : m ∈ (group rule bs).values) :
    gathered rule none (bs.filter fun b => rule.key b = rule.key m) = some m := by
  obtain ⟨item, stored, rfl⟩ := List.mem_map.mp member
  have found : (group rule bs).get? item.1 = some item.2 := (Dict.get?_some_iff ..).mpr stored
  rw [keyed_group bs item.1 item.2 found, ← found, group, get?_foldl, Dict.get?_empty]

omit [DecidableEq α] in
/-- What adds up when two items are combined, adds up in a group. -/
theorem sum_gathered {M : Type*} [AddMonoid M] {f : β → M} (adds : ∀ a b, f (rule.combine a b) = f a + f b) {bs : List β} {m : β}
    (made : gathered rule none bs = some m) : f m = (bs.map f).sum := by
  have after (bs : List β) (a : β) (made : gathered rule (some a) bs = some m) : f m = f a + (bs.map f).sum := by
    induction bs generalizing a with
    | nil => simp [← Option.some.inj made]
    | cons b rest ih => rw [ih _ made, joined, adds, List.map_cons, List.sum_cons, add_assoc]
  cases bs with
  | nil => cases made
  | cons b rest => rw [after rest b made, List.map_cons, List.sum_cons]

omit [DecidableEq α] in
/-- What the first of two items decides, the first item of a group decides. -/
theorem first_gathered {γ : Type*} {f : β → γ} (first : ∀ a b, f (rule.combine a b) = f a) {bs : List β} {m : β}
    (made : gathered rule none bs = some m) : bs.head?.map f = some (f m) := by
  have after (bs : List β) (a : β) (made : gathered rule (some a) bs = some m) : f a = f m := by
    induction bs generalizing a with
    | nil => rw [← Option.some.inj made]
    | cons b rest ih => rw [← ih _ made, joined, first]
  cases bs with
  | nil => cases made
  | cons b rest => exact congrArg some (after rest b made)

variable (assoc : ∀ a b c, rule.combine (rule.combine a b) c = rule.combine a (rule.combine b c))
include assoc

omit [DecidableEq α] in
/-- What stands before a list is combined with the list as a whole. -/
theorem gathered_some (a : β) (bs : List β) :
    gathered rule (some a) bs = some (match gathered rule none bs with | some c => rule.combine a c | none => a) := by
  induction bs generalizing a with
  | nil => rfl
  | cons b rest ih =>
    have first : gathered rule none (b :: rest) = gathered rule (some b) rest := rfl
    have second : gathered rule (some a) (b :: rest) = gathered rule (some (rule.combine a b)) rest := rfl
    rw [first, second, ih, ih b]
    cases gathered rule none rest with
    | none => rfl
    | some c => simp only [assoc]

omit [DecidableEq α] in
theorem gathered_gathered (found : Option β) (bs : List β) : gathered rule found (gathered rule none bs).toList = gathered rule found bs := by
  cases found with
  | none => cases gathered rule none bs <;> rfl
  | some a =>
    rw [gathered_some assoc a bs]
    cases gathered rule none bs <;> rfl

/-- A list may be grouped before it is added to other groups. -/
theorem foldl_group (bs : List β) (d : Dict α β) : (group rule bs).values.foldl (insert rule) d = bs.foldl (insert rule) d := by
  refine Dict.ext_keys ?_ fun k => ?_
  · rw [keys_foldl, keys_foldl, keys_values (keyed_group bs), group, keys_foldl, Dict.keys_empty, foldl_note_foldl]
  · rw [get?_foldl, get?_foldl, filter_values (keyed_group bs), group, get?_foldl, Dict.get?_empty, gathered_gathered assoc]

/-- Two lists may be grouped apart, and their groups together. -/
theorem group_append (bs cs : List β) : group rule ((group rule bs).values ++ (group rule cs).values) = group rule (bs ++ cs) := by
  have first : (group rule bs).values.foldl (insert rule) ∅ = group rule bs := foldl_group assoc bs ∅
  have second := foldl_group assoc cs (group rule bs)
  rw [group, List.foldl_append, first, second, group, group, List.foldl_append]

end RevitPy.Grouping
