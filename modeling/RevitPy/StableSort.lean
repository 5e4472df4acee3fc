import Mathlib.Data.List.Basic

/-!
# Stable sorting

A comparison that is transitive and total puts a list in one order alone, when
what it does not tell apart keeps its place. Two comparisons sort a list alike
when they agree on every two of its members in the order in which they stand.
-/

namespace RevitPy.StableSort

variable {α β : Type*}

/-- A comparison that can be sorted by. -/
structure TotalPreorder (le : α → α → Bool) : Prop where
  trans : ∀ a b c, le a b = true → le b c = true → le a c = true
  total : ∀ a b, (le a b || le b a) = true

def Equivalent (le : α → α → Bool) (a b : α) : Bool := le a b && le b a

/-- A list in order, in which what is not told apart stands as before. -/
structure StablySorts (le : α → α → Bool) (l sorted : List α) : Prop where
  perm : sorted.Perm l
  ordered : sorted.Pairwise fun a b => le a b = true
  stable : ∀ a, sorted.filter (Equivalent le a) = l.filter (Equivalent le a)

/-- Comparison by the first of several comparisons that tells two members apart. -/
def lexicographic : List (α → α → Bool) → α → α → Bool
  | [], _, _ => true
  | le :: rest, a, b => le a b && (!le b a || lexicographic rest a b)

/-- A comparison that tells two members apart decides between them alone. -/
theorem decides_alone {le : α → α → Bool} {a b : α} {rest : Bool} (apart : le a b = true → ¬le b a = true) :
    (le a b && (!le b a || rest)) = le a b := by
  cases first : le a b with
  | false => rfl
  | true => simp [apart first]

namespace TotalPreorder

variable {le : α → α → Bool}

theorem refl (h : TotalPreorder le) (a : α) : le a a = true := by
  simpa using h.total a a

theorem of_not (h : TotalPreorder le) {a b : α} (not_le : le a b = false) : le b a = true := by
  simpa [not_le] using h.total a b

theorem on {le : β → β → Bool} (h : TotalPreorder le) (key : α → β) : TotalPreorder fun a b => le (key a) (key b) :=
  ⟨fun a b c => h.trans (key a) (key b) (key c), fun a b => h.total (key a) (key b)⟩

/-- The reversed comparison. -/
theorem flip (h : TotalPreorder le) : TotalPreorder fun a b => le b a :=
  ⟨fun a b c first second => h.trans c b a second first, fun a b => h.total b a⟩

theorem equivalent_trans (h : TotalPreorder le) {a b c : α} (first : Equivalent le a b = true)
    (second : Equivalent le b c = true) : Equivalent le a c = true := by
  simp only [Equivalent, Bool.and_eq_true] at *
  exact ⟨h.trans _ _ _ first.1 second.1, h.trans _ _ _ second.2 first.2⟩

end TotalPreorder

theorem equivalent_symm {le : α → α → Bool} {a b : α} (h : Equivalent le a b = true) : Equivalent le b a = true := by
  simp only [Equivalent, Bool.and_eq_true] at *
  exact ⟨h.2, h.1⟩

theorem lexicographic_totalPreorder {les : List (α → α → Bool)} (each : ∀ le ∈ les, TotalPreorder le) :
    TotalPreorder (lexicographic les) := by
  induction les with
  | nil => exact ⟨fun _ _ _ _ _ => rfl, fun _ _ => rfl⟩
  | cons le rest ih =>
    have here := each le (by simp)
    have ih := ih fun le' member => each le' (by simp [member])
    constructor
    · intro a b c first second
      simp only [lexicographic, Bool.and_eq_true, Bool.or_eq_true, Bool.not_eq_true'] at first second ⊢
      refine ⟨here.trans _ _ _ first.1 second.1, ?_⟩
      -- when the ends are not told apart, neither is what stands between them
      by_cases ca : le c a = true
      · have ba := here.trans _ _ _ second.1 ca
        have cb := here.trans _ _ _ ca first.1
        exact .inr (ih.trans a b c (first.2.resolve_left (by simp [ba])) (second.2.resolve_left (by simp [cb])))
      · exact .inl (by simpa using ca)
    · intro a b
      simp only [lexicographic]
      cases ab : le a b with
      | false => simp [here.of_not ab]
      | true =>
        cases le b a with
        | false => rfl
        | true => simpa using ih.total a b

/-- What stands in a list of equivalent members is in order. -/
theorem filter_pairwise {le : α → α → Bool} (h : TotalPreorder le) (a : α) (l : List α) :
    (l.filter (Equivalent le a)).Pairwise fun x y => le x y = true := by
  refine List.pairwise_of_forall_mem_list fun x hx y hy => ?_
  simp only [List.mem_filter] at hx hy
  have same := h.equivalent_trans (equivalent_symm hx.2) hy.2
  simp only [Equivalent, Bool.and_eq_true] at same
  exact same.1

/-- What keeps every ordered part of a list in its order is stable. -/
theorem stablySorts_of_sublists {le : α → α → Bool} (h : TotalPreorder le) {l sorted : List α} (perm : sorted.Perm l)
    (ordered : sorted.Pairwise fun a b => le a b = true)
    (keeps : ∀ part : List α, (part.Pairwise fun a b => le a b = true) → part.Sublist l → part.Sublist sorted) :
    StablySorts le l sorted where
  perm := perm
  ordered := ordered
  stable a := by
    have kept : (l.filter (Equivalent le a)).Sublist sorted := keeps _ (filter_pairwise h a l) List.filter_sublist
    have kept : (l.filter (Equivalent le a)).Sublist (sorted.filter (Equivalent le a)) := by
      simpa using kept.filter (Equivalent le a)
    exact (kept.eq_of_length (perm.filter _).length_eq.symm).symm

theorem mergeSort_stablySorts {le : α → α → Bool} (h : TotalPreorder le) (l : List α) :
    StablySorts le l (l.mergeSort le) :=
  stablySorts_of_sublists h (l.mergeSort_perm le) (List.pairwise_mergeSort h.trans h.total l)
    fun _ ordered part => List.sublist_mergeSort h.trans h.total ordered part

/-- The least member of a list, and the first of these. -/
def IsFirst (le : α → α → Bool) (l : List α) (a : α) : Prop :=
  ∃ before after, l = before ++ a :: after ∧ (∀ b ∈ before, le b a = false) ∧ ∀ b ∈ after, le a b = true

theorem isFirst_unique {le : α → α → Bool} {l : List α} {a b : α} (first : IsFirst le l a) (second : IsFirst le l b) : a = b := by
  have earlier {before after before' after' more : List α} {a b : α} (longer : before' = before ++ more) (rest : a :: after = more ++ b :: after')
      (below : ∀ c ∈ after, le a c = true) (above : ∀ c ∈ before', le c b = false) : a = b := by
    cases more with
    | nil => exact (List.cons.inj rest).1
    | cons c more =>
      obtain ⟨rfl, rfl⟩ := List.cons.inj rest
      have apart := above a (by simp [longer])
      rw [below b (by simp)] at apart
      cases apart
  obtain ⟨before, after, rfl, above, below⟩ := first
  obtain ⟨before', after', same, above', below'⟩ := second
  rcases List.append_eq_append_iff.mp same with ⟨more, longer, rest⟩ | ⟨more, longer, rest⟩
  · exact earlier longer rest below above'
  · exact (earlier longer rest below' above).symm

/-- A stable sort begins with the first of the least members. -/
theorem head?_mergeSort_iff {le : α → α → Bool} (h : TotalPreorder le) {l : List α} {a : α} :
    (l.mergeSort le).head? = some a ↔ IsFirst le l a := by
  have sorted := mergeSort_stablySorts h l
  have first {b : α} (head : (l.mergeSort le).head? = some b) : IsFirst le l b := by
    obtain ⟨rest, shape⟩ := List.head?_eq_some_iff.mp head
    rw [shape] at sorted
    have least (c : α) (member : c ∈ l) : le b c = true := by
      rcases List.mem_cons.mp (sorted.perm.mem_iff.mpr member) with rfl | later
      · exact h.refl c
      · exact (List.pairwise_cons.mp sorted.ordered).1 c later
    have alike := (sorted.stable b).symm
    rw [List.filter_cons_of_pos (by simp [Equivalent, h.refl b])] at alike
    obtain ⟨before, after, rfl, apart, -, -⟩ := List.filter_eq_cons_iff.mp alike
    refine ⟨before, after, rfl, fun c member => ?_, fun c member => least c (by simp [member])⟩
    have below := least c (by simp [member])
    simpa [Equivalent, below] using apart c member
  refine ⟨first, fun least => ?_⟩
  cases head : (l.mergeSort le).head? with
  | none =>
    obtain ⟨before, after, rfl, -, -⟩ := least
    have empty := sorted.perm.length_eq
    rw [List.head?_eq_none_iff.mp head] at empty
    simp at empty
  | some b => rw [isFirst_unique least (first head)]

/-- Two lists in order with the same equivalents everywhere are one list. -/
theorem eq_of_equivalents {le : α → α → Bool} (h : TotalPreorder le) {s t : List α}
    (hs : s.Pairwise fun a b => le a b = true) (ht : t.Pairwise fun a b => le a b = true)
    (same : ∀ a, s.filter (Equivalent le a) = t.filter (Equivalent le a)) : s = t := by
  have self (a : α) : Equivalent le a a = true := by simp [Equivalent, h.refl a]
  induction s generalizing t with
  | nil =>
    cases t with
    | nil => rfl
    | cons b t => simpa [self b] using same b
  | cons a s ih =>
    cases t with
    | nil => simpa [self a] using same a
    | cons b t =>
      have le_ba : le b a = true := by
        have member : a ∈ (b :: t).filter (Equivalent le a) := by simp [← same a, self a]
        rcases List.mem_cons.mp (List.mem_filter.mp member).1 with rfl | member
        · exact h.refl a
        · exact (List.pairwise_cons.mp ht).1 a member
      have le_ab : le a b = true := by
        have member : b ∈ (a :: s).filter (Equivalent le b) := by simp [same b, self b]
        rcases List.mem_cons.mp (List.mem_filter.mp member).1 with rfl | member
        · exact h.refl b
        · exact (List.pairwise_cons.mp hs).1 b member
      have heads : a = b := by
        have := same a
        simp only [List.filter_cons, self a, if_true, show Equivalent le a b = true by simp [Equivalent, le_ab, le_ba]] at this
        exact (List.cons.inj this).1
      subst heads
      rw [ih (List.pairwise_cons.mp hs).2 (List.pairwise_cons.mp ht).2]
      intro x
      have := same x
      by_cases with_head : Equivalent le x a = true
      · simpa [List.filter_cons, with_head] using this
      · simpa [List.filter_cons, with_head] using this

/-- A list has one stable order. -/
theorem stablySorts_iff {le : α → α → Bool} (h : TotalPreorder le) (l sorted : List α) :
    StablySorts le l sorted ↔ sorted = l.mergeSort le := by
  have merged := mergeSort_stablySorts h l
  constructor
  · intro given
    exact eq_of_equivalents h given.ordered merged.ordered fun a => (given.stable a).trans (merged.stable a).symm
  · rintro rfl
    exact merged

theorem merge_congr {le le' : α → α → Bool} {s t : List α} (agree : ∀ a ∈ s, ∀ b ∈ t, le a b = le' a b) :
    s.merge t le = s.merge t le' := by
  simpa using List.map_merge (f := id) agree

open List.MergeSort.Internal in
/-- Merging compares only members of which the first stands before the second. -/
theorem mergeSort_congr {le le' : α → α → Bool} : ∀ {l : List α},
    (∀ a b, [a, b].Sublist l → le a b = le' a b) → l.mergeSort le = l.mergeSort le'
  | [], _ => by simp
  | [_], _ => by simp
  | a :: b :: l, agree => by
    let half := ((a :: b :: l).length + 1) / 2
    have parts : (a :: b :: l).take half ++ (a :: b :: l).drop half = a :: b :: l := List.take_append_drop _ _
    have left : ((a :: b :: l).take half).mergeSort le = ((a :: b :: l).take half).mergeSort le' :=
      mergeSort_congr fun x y before => agree x y (before.trans (List.take_sublist _ _))
    have right : ((a :: b :: l).drop half).mergeSort le = ((a :: b :: l).drop half).mergeSort le' :=
      mergeSort_congr fun x y before => agree x y (before.trans (List.drop_sublist _ _))
    have across : ∀ x ∈ ((a :: b :: l).take half).mergeSort le', ∀ y ∈ ((a :: b :: l).drop half).mergeSort le', le x y = le' x y := by
      intro x hx y hy
      refine agree x y ?_
      rw [← parts]
      exact (List.singleton_sublist.mpr (List.mem_mergeSort.mp hx)).append (List.singleton_sublist.mpr (List.mem_mergeSort.mp hy))
    rw [List.mergeSort, List.mergeSort, splitInTwo_fst, splitInTwo_snd]
    show List.merge (List.mergeSort _ le) (List.mergeSort _ le) le = List.merge (List.mergeSort _ le') (List.mergeSort _ le') le'
    rw [left, right, merge_congr across]
termination_by l => l.length

/-- Two comparisons put a list in one order exactly when they agree on what stands in it. -/
theorem mergeSort_eq_iff {le le' : α → α → Bool} (h : TotalPreorder le) (h' : TotalPreorder le') (l : List α) :
    l.mergeSort le = l.mergeSort le' ↔ ∀ a b, [a, b].Sublist l → le a b = le' a b := by
  have kept {le le' : α → α → Bool} (h : TotalPreorder le) (h' : TotalPreorder le')
      (same : l.mergeSort le = l.mergeSort le') {a b : α} (before : [a, b].Sublist l) (first : le a b = true) : le' a b = true := by
    have stands := List.pair_sublist_mergeSort h.trans h.total first before
    rw [same] at stands
    exact List.pairwise_iff_forall_sublist.mp (List.pairwise_mergeSort h'.trans h'.total l) stands
  constructor
  · intro same a b before
    rw [Bool.eq_iff_iff]
    exact ⟨kept h h' same before, kept h' h same.symm before⟩
  · exact mergeSort_congr

theorem equivalent_lexicographic (le : α → α → Bool) (rest : List (α → α → Bool)) (a b : α) :
    Equivalent (lexicographic (le :: rest)) a b = (Equivalent le a b && Equivalent (lexicographic rest) a b) := by
  cases ab : le a b <;> cases ba : le b a <;> simp [Equivalent, lexicographic, ab, ba]

/-- Sorting by the first comparison what the others have put in order sorts by all of them. -/
theorem mergeSort_after {le : α → α → Bool} {rest : List (α → α → Bool)} (first : TotalPreorder le)
    (others : TotalPreorder (lexicographic rest)) (l : List α) :
    (l.mergeSort (lexicographic rest)).mergeSort le = l.mergeSort (lexicographic (le :: rest)) := by
  have both : TotalPreorder (lexicographic (le :: rest)) := by
    have pair : TotalPreorder (lexicographic [le, lexicographic rest]) := by
      refine lexicographic_totalPreorder fun le' member => ?_
      simp only [List.mem_cons, List.not_mem_nil, or_false] at member
      rcases member with rfl | rfl
      · exact first
      · exact others
    simpa [lexicographic] using pair
  have inner := mergeSort_stablySorts others l
  have outer := mergeSort_stablySorts first (l.mergeSort (lexicographic rest))
  refine (stablySorts_iff both l _).mp ⟨outer.perm.trans inner.perm, ?_, ?_⟩
  · rw [List.pairwise_iff_forall_sublist]
    intro a b before
    have ab : le a b = true := List.pairwise_iff_forall_sublist.mp outer.ordered before
    cases ba : le b a with
    | false => simp [lexicographic, ab, ba]
    | true =>
      -- the two are not told apart, so they stand as the others have put them
      have same : [a, b].Sublist ((l.mergeSort (lexicographic rest)).filter (Equivalent le a)) := by
        rw [← outer.stable a]
        simpa [Equivalent, ab, ba, first.refl a] using before.filter (Equivalent le a)
      have ordered := List.pairwise_iff_forall_sublist.mp inner.ordered (same.trans List.filter_sublist)
      simp [lexicographic, ab, ordered]
  · intro a
    have split : Equivalent (lexicographic (le :: rest)) a =
        fun b => Equivalent (lexicographic rest) a b && Equivalent le a b := by
      funext b
      rw [equivalent_lexicographic, Bool.and_comm]
    rw [split, ← List.filter_filter, ← List.filter_filter, outer.stable a, List.filter_filter]
    rw [show (fun b => Equivalent (lexicographic rest) a b && Equivalent le a b) =
        fun b => Equivalent le a b && Equivalent (lexicographic rest) a b from funext fun b => Bool.and_comm _ _]
    rw [← List.filter_filter, inner.stable a, List.filter_filter, List.filter_filter]
    exact congrArg (l.filter ·) (funext fun b => Bool.and_comm _ _)

/-- Sorting what is sorted in parts sorts the whole. -/
theorem StablySorts.append {le : α → α → Bool} {l r s t sorted : List α} (left : StablySorts le l s) (right : StablySorts le r t)
    (whole : StablySorts le (s ++ t) sorted) : StablySorts le (l ++ r) sorted where
  perm := whole.perm.trans (left.perm.append right.perm)
  ordered := whole.ordered
  stable a := by rw [whole.stable a, List.filter_append, List.filter_append, left.stable a, right.stable a]

theorem StablySorts.singleton (le : α → α → Bool) (a : α) : StablySorts le [a] [a] := ⟨.refl _, List.pairwise_singleton _ _, fun _ => rfl⟩

theorem StablySorts.nil (le : α → α → Bool) : StablySorts le [] [] := ⟨.refl _, .nil, fun _ => rfl⟩

/-- Removing a member keeps the rest in order. -/
theorem StablySorts.erase [DecidableEq α] {le : α → α → Bool} {l sorted : List α} (sorts : StablySorts le l sorted) (a : α) :
    StablySorts le (l.erase a) (sorted.erase a) where
  perm := sorts.perm.erase a
  ordered := sorts.ordered.sublist List.erase_sublist
  stable b := by rw [← List.erase_filter, ← List.erase_filter, sorts.stable b]

end RevitPy.StableSort
