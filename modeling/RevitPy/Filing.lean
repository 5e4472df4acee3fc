import Mathlib.Data.List.Induction
import RevitPy.Dict

/-!
# Filing things under keys

Things are filed under the key that is read off them, and the last one with a key is found under
it. Where the key that a thing carries is not the one that is read, it is misfiled. If no two things
carry the same key, then under every key that no misfiled thing carries or is filed under the thing
that is found is the one that carries it.
-/

namespace RevitPy.Filing
variable {ε κ : Type*}

/-- Every thing has a key, and no two the same one. -/
structure Identified (key : ε → Option κ) (things : List ε) : Prop where
  carried : ∀ thing ∈ things, ∃ k, key thing = some k
  distinct : (things.map key).Nodup

/-- A thing whose own key is not the one that is read. -/
def Misfiled (own read : ε → Option κ) (thing : ε) : Prop := read thing ≠ own thing

/-- Of two things with one key there is only one. -/
theorem same_of_key {own : ε → Option κ} {things : List ε} (identified : Identified own things) {a b : ε} (left : a ∈ things) (right : b ∈ things)
    (same : own a = own b) : a = b :=
  List.inj_on_of_nodup_map identified.distinct left right same

variable [DecidableEq κ]

/-- The things by their keys. One that has none is not filed. -/
def file (key : ε → Option κ) (things : List ε) : Dict κ ε :=
  things.foldl (fun d thing => match key thing with
    | some k => d.set k thing
    | none => d) ∅

/-- The last thing with a key. -/
def last (key : ε → Option κ) (k : κ) (things : List ε) : Option ε := things.reverse.find? fun thing => key thing = some k

/-- The first thing with a key. -/
def first (key : ε → Option κ) (k : κ) (things : List ε) : Option ε := things.find? fun thing => key thing = some k

theorem file_concat (key : ε → Option κ) (things : List ε) (thing : ε) : file key (things ++ [thing]) = match key thing with
    | some k => (file key things).set k thing
    | none => file key things := by
  rw [file, List.foldl_append, List.foldl_cons, List.foldl_nil, ← file]

theorem get?_file (key : ε → Option κ) (things : List ε) (k : κ) : (file key things).get? k = last key k things := by
  induction things using List.reverseRecOn with
  | nil => rfl
  | append_singleton things thing ih =>
    rw [last, List.reverse_append, List.reverse_singleton, List.singleton_append, List.find?_cons, ← last, ← ih, file_concat]
    cases taken : key thing with
    | none => simp
    | some other =>
      by_cases same : other = k
      · simp [same]
      · simp [same, Dict.get?_set_ne]

theorem of_last {key : ε → Option κ} {k : κ} {things : List ε} {thing : ε} (found : last key k things = some thing) :
    thing ∈ things ∧ key thing = some k :=
  ⟨List.mem_reverse.mp (List.mem_of_find?_eq_some found), by simpa using List.find?_some found⟩

theorem last_eq_none_iff {key : ε → Option κ} {k : κ} {things : List ε} : last key k things = none ↔ ∀ thing ∈ things, key thing ≠ some k := by
  simp [last]

theorem first_eq_none_iff {key : ε → Option κ} {k : κ} {things : List ε} : first key k things = none ↔ ∀ thing ∈ things, key thing ≠ some k := by
  simp [first]

section
variable {own read : ε → Option κ} {things : List ε} (identified : Identified own things)
include identified

theorem first_eq_some_iff (k : κ) (thing : ε) : first own k things = some thing ↔ thing ∈ things ∧ own thing = some k := by
  constructor
  · intro carried
    exact ⟨List.mem_of_find?_eq_some carried, by simpa using List.find?_some carried⟩
  · rintro ⟨member, owned⟩
    cases carried : first own k things with
    | none => exact absurd owned (first_eq_none_iff.mp carried thing member)
    | some other =>
      have same : own other = some k := by simpa using List.find?_some carried
      rw [same_of_key identified (List.mem_of_find?_eq_some carried) member (same.trans owned.symm)]

/-- What is found under a key that no misfiled thing carries or is filed under. -/
theorem last_eq_first {k : κ} (free : ∀ thing ∈ things, Misfiled own read thing → own thing ≠ some k ∧ read thing ≠ some k) :
    last read k things = first own k things := by
  have agreed {thing : ε} (member : thing ∈ things) : read thing = some k ↔ own thing = some k := by
    by_cases misfiled : Misfiled own read thing
    · simp [(free thing member misfiled).1, (free thing member misfiled).2]
    · rw [not_not.mp misfiled]
  cases carried : first own k things with
  | none => exact last_eq_none_iff.mpr fun thing member filed => first_eq_none_iff.mp carried thing member ((agreed member).mp filed)
  | some thing =>
    obtain ⟨member, owned⟩ := (first_eq_some_iff identified k thing).mp carried
    cases search : last read k things with
    | none => exact absurd ((agreed member).mpr owned) (last_eq_none_iff.mp search thing member)
    | some other =>
      obtain ⟨listed, filed⟩ := of_last search
      rw [same_of_key identified listed member (((agreed listed).mp filed).trans owned.symm)]

end

end RevitPy.Filing
