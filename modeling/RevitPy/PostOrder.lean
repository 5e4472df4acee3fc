import Mathlib.Data.Finset.Card
import Mathlib.Data.List.Nodup
import Mathlib.Logic.Relation
import RevitPy.Runs

/-!
# Depth-first walks that mark what they visit

A node is marked when it is visited and added to the result after the nodes that follow it. Without
cycles every node stands in the result after all that it leads to. Of two nodes of which neither
leads to the other the one stands first that the walk comes to first.
-/

namespace RevitPy.PostOrder
variable {α : Type*}

structure State (α : Type*) where
  visited : List α := []
  result : List α := []

/-- Visit a node, unless it is marked, with fuel for the depth of the calls. -/
def visit [DecidableEq α] (next : α → List α) : Nat → State α → α → Option (State α)
  | 0, _, _ => none
  | fuel + 1, s, n =>
    if n ∈ s.visited then some s
    else do
      let t ← (next n).foldlM (visit next fuel) { s with visited := n :: s.visited }
      return { t with result := t.result ++ [n] }

/-- One node after the other is walked to. -/
inductive Walk (next : α → List α) : State α → List α → State α → Prop
  | nil (s : State α) : Walk next s [] s
  | seen {s t : State α} {n : α} {rest : List α} (marked : n ∈ s.visited) (later : Walk next s rest t) : Walk next s (n :: rest) t
  | visit {s t u : State α} {n : α} {rest : List α} (fresh : n ∉ s.visited) (inner : Walk next { s with visited := n :: s.visited } (next n) t)
      (later : Walk next { t with result := t.result ++ [n] } rest u) : Walk next s (n :: rest) u

variable {next : α → List α} {s t : State α} {ns : List α}

/-! ## What a walk adds -/

/-- The nodes that a walk marks are those it adds to the result, each once. -/
theorem Walk.added (walk : Walk next s ns t) : ∃ added, t.result = s.result ++ added ∧ added.Nodup ∧ (∀ x ∈ added, x ∉ s.visited) ∧
    ∀ x, x ∈ t.visited ↔ x ∈ s.visited ∨ x ∈ added := by
  induction walk with
  | nil s => exact ⟨[], by simp⟩
  | seen marked later ih => exact ih
  | visit fresh inner later ihInner ihLater =>
    rename_i s t u n rest
    obtain ⟨below, result, distinct, unmarked, marks⟩ := ihInner
    obtain ⟨after, result', distinct', unmarked', marks'⟩ := ihLater
    have own : n ∉ below := fun member => unmarked n member List.mem_cons_self
    refine ⟨below ++ n :: after, by simp [result', result], ?_, ?_, fun x => ?_⟩
    · refine List.nodup_append.mpr ⟨distinct, List.nodup_cons.mpr ⟨fun member => ?_, distinct'⟩, ?_⟩
      · exact unmarked' n member ((marks n).mpr (.inl List.mem_cons_self))
      · rintro x member y other rfl
        rcases List.mem_cons.mp other with rfl | other
        · exact own member
        · exact unmarked' x other ((marks x).mpr (.inr member))
    · intro x member marked
      rcases List.mem_append.mp member with member | member
      · exact unmarked x member (List.mem_cons_of_mem _ marked)
      · rcases List.mem_cons.mp member with rfl | member
        · exact fresh marked
        · exact unmarked' x member ((marks x).mpr (.inl (List.mem_cons_of_mem _ marked)))
    · rw [marks' x]
      have marked := marks x
      simp only [marked, List.mem_cons, List.mem_append]
      tauto

theorem Walk.visited_subset (walk : Walk next s ns t) : s.visited ⊆ t.visited := by
  obtain ⟨added, -, -, -, marks⟩ := walk.added
  exact fun x member => (marks x).mpr (.inl member)

theorem Walk.marks (walk : Walk next s ns t) : ns ⊆ t.visited := by
  induction walk with
  | nil s => simp
  | seen marked later ih => exact List.cons_subset.mpr ⟨later.visited_subset marked, ih⟩
  | visit fresh inner later ihInner ihLater =>
    exact List.cons_subset.mpr ⟨later.visited_subset (inner.visited_subset List.mem_cons_self), ihLater⟩

/-- One node leads to another in any number of steps. -/
def Leads (next : α → List α) : α → α → Prop := Relation.ReflTransGen fun a b => b ∈ next a

theorem leads_inside {all : List α} (inside : ∀ n ∈ all, next n ⊆ all) {n x : α} (listed : n ∈ all) (leads : Leads next n x) : x ∈ all := by
  induction leads with
  | refl => exact listed
  | tail _ step ih => exact inside _ ih step

/-- What a walk marks is what its nodes lead to. -/
theorem Walk.leads (walk : Walk next s ns t) : ∀ x ∈ t.visited, x ∈ s.visited ∨ ∃ n ∈ ns, Leads next n x := by
  induction walk with
  | nil s => exact fun x member => .inl member
  | seen marked later ih => exact fun x member => (ih x member).imp id fun ⟨n, listed, leads⟩ => ⟨n, List.mem_cons_of_mem _ listed, leads⟩
  | visit fresh inner later ihInner ihLater =>
    rename_i s t u n rest
    intro x member
    rcases ihLater x member with before | ⟨m, listed, leads⟩
    · rcases ihInner x before with marked | ⟨d, listed, leads⟩
      · rcases List.mem_cons.mp marked with rfl | old
        · exact .inr ⟨x, List.mem_cons_self, .refl⟩
        · exact .inl old
      · exact .inr ⟨n, List.mem_cons_self, .head listed leads⟩
    · exact .inr ⟨m, List.mem_cons_of_mem _ listed, leads⟩

/-- A walk from nothing through distinct nodes that lead to no others has them all in its result. -/
theorem Walk.perm (walk : Walk next {} ns t) (distinct : ns.Nodup) (inside : ∀ n ∈ ns, next n ⊆ ns) : t.result.Perm ns := by
  obtain ⟨added, result, once, -, marks⟩ := walk.added
  obtain rfl : t.result = added := by simpa using result
  refine (List.perm_ext_iff_of_nodup once distinct).mpr fun x => ?_
  have marked : x ∈ t.visited ↔ x ∈ t.result := by simpa using marks x
  refine ⟨fun member => ?_, fun listed => marked.mp (walk.marks listed)⟩
  obtain ⟨n, listed, leads⟩ := (walk.leads x (marked.mpr member)).resolve_left (by simp)
  exact leads_inside inside listed leads

/-! ## Without cycles -/

/-- Each node stands after the nodes that a step leads to. -/
def Closed (step : α → α → Prop) (result : List α) : Prop := ∀ before n after, result = before ++ n :: after → ∀ d, step n d → d ∈ before

section
variable {step : α → α → Prop} {result : List α} (closed : Closed step result)
include closed

theorem Closed.concat {n : α} (following : ∀ d, step n d → d ∈ result) : Closed step (result ++ [n]) := by
  intro before m after split d edge
  rcases Runs.split_concat split with ⟨rfl, rfl, -⟩ | ⟨between, -, same⟩
  · exact following d edge
  · exact closed before m between same d edge

/-- All that a node leads to stands before it. -/
theorem Closed.path {before after : List α} {n d : α} (split : result = before ++ n :: after) (path : Relation.TransGen step n d) : d ∈ before := by
  induction path with
  | single edge => exact closed before n after split _ edge
  | tail _ edge ih =>
    obtain ⟨first, rest, same⟩ := List.append_of_mem ih
    subst same
    exact List.mem_append_left _ (closed first _ (rest ++ n :: after) (by simp [split]) _ edge)

theorem Closed.leads {n d : α} (member : n ∈ result) (leads : Relation.ReflTransGen step n d) : d ∈ result := by
  obtain ⟨before, after, split⟩ := List.append_of_mem member
  rcases Relation.reflTransGen_iff_eq_or_transGen.mp leads with rfl | path
  · exact member
  · exact split ▸ List.mem_append_left _ (closed.path split path)

theorem Closed.idxOf_lt [DecidableEq α] (distinct : result.Nodup) {n d : α} (member : n ∈ result) (path : Relation.TransGen step n d) :
    result.idxOf d < result.idxOf n := by
  obtain ⟨before, after, split⟩ := List.append_of_mem member
  have earlier : d ∈ before := closed.path split path
  rw [split] at distinct
  have fresh : n ∉ before := fun inside => (List.nodup_append.mp distinct).2.2 n inside n List.mem_cons_self rfl
  rw [split, List.idxOf_append_of_mem earlier, List.idxOf_append_of_notMem fresh, List.idxOf_cons_self]
  have less := List.idxOf_lt_length_of_mem earlier
  omega

end

/-- A state from which some nodes are walked to: the result is closed, and what is marked but not in
    the result leads to these nodes. -/
structure Ready (next : α → List α) (s : State α) (ns : List α) : Prop where
  closed : Closed (fun a b => b ∈ next a) s.result
  marked : s.result ⊆ s.visited
  open_path : ∀ v ∈ s.visited, v ∉ s.result → ∀ n ∈ ns, Relation.TransGen (fun a b => b ∈ next a) v n

theorem Ready.tail {n : α} (ready : Ready next s (n :: ns)) : Ready next s ns :=
  ⟨ready.closed, ready.marked, fun v member unfinished m listed => ready.open_path v member unfinished m (List.mem_cons_of_mem _ listed)⟩

theorem Ready.inner {n : α} (ready : Ready next s (n :: ns)) : Ready next { s with visited := n :: s.visited } (next n) := by
  refine ⟨ready.closed, fun x member => List.mem_cons_of_mem _ (ready.marked member), fun v member unfinished d step => ?_⟩
  rcases List.mem_cons.mp member with rfl | member
  · exact .single step
  · exact (ready.open_path v member unfinished n List.mem_cons_self).tail step

/-- What is marked but not in the result is the same after a walk. -/
theorem Walk.unfinished (walk : Walk next s ns t) {v : α} (marked : v ∈ t.visited) (missing : v ∉ t.result) : v ∈ s.visited ∧ v ∉ s.result := by
  obtain ⟨added, result, -, -, marks⟩ := walk.added
  rw [result, List.mem_append, not_or] at missing
  exact ⟨((marks v).mp marked).resolve_right missing.2, missing.1⟩

/-- The result stays among what is marked. -/
theorem Walk.result_subset (walk : Walk next s ns t) (marked : s.result ⊆ s.visited) : t.result ⊆ t.visited := by
  obtain ⟨added, result, -, -, marks⟩ := walk.added
  intro x member
  rw [result, List.mem_append] at member
  exact (marks x).mpr (member.imp (marked ·) id)

section
variable (acyclic : ∀ n, ¬Relation.TransGen (fun a b => b ∈ next a) n n)
include acyclic

/-- A node that is marked and leads to a node of the walk is in the result, or there was a cycle. -/
theorem Ready.finished {n x : α} (ready : Ready next s ns) (marked : n ∈ s.visited) (listed : n ∈ ns) (leads : Leads next n x) : x ∈ s.visited := by
  by_cases done : n ∈ s.result
  · exact ready.marked (ready.closed.leads done leads)
  · exact absurd (ready.open_path n marked done n listed) (acyclic n)

/-- When the nodes that follow a node have been walked to, they are in the result. -/
theorem Walk.following {n : α} {rest : List α} (inner : Walk next { s with visited := n :: s.visited } (next n) t) (ready : Ready next s (n :: rest)) :
    ∀ d ∈ next n, d ∈ t.result := by
  intro d step
  by_contra missing
  obtain ⟨marked, early⟩ := inner.unfinished (inner.marks step) missing
  rcases List.mem_cons.mp marked with rfl | marked
  · exact acyclic d (.single step)
  · exact acyclic d ((ready.open_path d marked early n List.mem_cons_self).tail step)

theorem Walk.later_ready {n : α} {rest : List α} (inner : Walk next { s with visited := n :: s.visited } (next n) t) (ready : Ready next s (n :: rest))
    (closed : Closed (fun a b => b ∈ next a) t.result) : Ready next { t with result := t.result ++ [n] } rest where
  closed := closed.concat (inner.following acyclic ready)
  marked := List.append_subset.mpr ⟨inner.result_subset ready.inner.marked, List.cons_subset.mpr ⟨inner.visited_subset List.mem_cons_self, List.nil_subset _⟩⟩
  open_path v marked missing := by
    rw [List.mem_append, not_or] at missing
    obtain ⟨marked, early⟩ := inner.unfinished marked missing.1
    have other : v ≠ n := fun same => missing.2 (List.mem_singleton.mpr same)
    exact ready.tail.open_path v ((List.mem_cons.mp marked).resolve_left other) early

theorem Walk.closed (walk : Walk next s ns t) (ready : Ready next s ns) : Closed (fun a b => b ∈ next a) t.result := by
  induction walk with
  | nil s => exact ready.closed
  | seen marked later ih => exact ih ready.tail
  | visit fresh inner later ihInner ihLater => exact ihLater (inner.later_ready acyclic ready (ihInner ready.inner))

end

/-! ## Which of two nodes stands first -/

/-- Going through nodes, one comes to `d` before `m`: the first node that leads to one of them leads
    to `d` alone, or to both, and then one comes to `d` first going through what follows that node. -/
inductive First (next : α → List α) (d m : α) : List α → Prop
  | neither {n : α} {rest : List α} (hd : ¬Leads next n d) (hm : ¬Leads next n m) (later : First next d m rest) : First next d m (n :: rest)
  | only {n : α} {rest : List α} (hd : Leads next n d) (hm : ¬Leads next n m) : First next d m (n :: rest)
  | both {n : α} {rest : List α} (hd : Leads next n d) (hm : Leads next n m) (inner : First next d m (next n)) : First next d m (n :: rest)

/-- `d` stands before every `m`. -/
def Precedes (d m : α) (result : List α) : Prop := ∃ before after, result = before ++ d :: after ∧ m ∉ before

theorem Precedes.append {d m : α} {result : List α} (precedes : Precedes d m result) (rest : List α) : Precedes d m (result ++ rest) := by
  obtain ⟨before, after, rfl, absent⟩ := precedes
  exact ⟨before, after ++ rest, by simp, absent⟩

/-- Neither of two nodes leads to the other. -/
structure Unrelated (next : α → List α) (d m : α) : Prop where
  forth : ¬Leads next d m
  back : ¬Leads next m d

theorem Unrelated.symm {d m : α} (unrelated : Unrelated next d m) : Unrelated next m d := ⟨unrelated.back, unrelated.forth⟩

/-- What leads to both of two unrelated nodes is neither of them. -/
theorem Unrelated.other {d m n : α} (unrelated : Unrelated next d m) (hd : Leads next n d) (hm : Leads next n m) : d ≠ n ∧ m ≠ n :=
  ⟨fun same => unrelated.forth (same ▸ hm), fun same => unrelated.back (same ▸ hd)⟩

theorem Walk.unmarked {n d : α} (inner : Walk next { s with visited := n :: s.visited } (next n) t) (fresh : d ∉ s.visited) (apart : ¬Leads next n d) :
    d ∉ t.visited := by
  intro marked
  rcases inner.leads d marked with old | ⟨x, step, leads⟩
  · rcases List.mem_cons.mp old with rfl | old
    · exact apart .refl
    · exact fresh old
  · exact apart (.head step leads)

section
variable (acyclic : ∀ n, ¬Relation.TransGen (fun a b => b ∈ next a) n n)
include acyclic

/-- The one of two unrelated nodes that a walk comes to first stands first in the result. -/
theorem Walk.precedes {d m : α} (unrelated : Unrelated next d m) (first : First next d m ns) (walk : Walk next s ns t) (ready : Ready next s ns)
    (freshD : d ∉ s.visited) (freshM : m ∉ s.visited) : Precedes d m t.result := by
  induction first generalizing s t with
  | neither hd hm later ih =>
    cases walk with
    | seen marked walk => exact ih walk ready.tail freshD freshM
    | visit fresh inner walk =>
      exact ih walk (inner.later_ready acyclic ready (inner.closed acyclic ready.inner)) (inner.unmarked freshD hd) (inner.unmarked freshM hm)
  | only hd hm =>
    cases walk with
    | seen marked walk => exact absurd (ready.finished acyclic marked List.mem_cons_self hd) freshD
    | visit fresh inner walk =>
      have later := inner.later_ready acyclic ready (inner.closed acyclic ready.inner)
      obtain ⟨added, result, -⟩ := walk.added
      obtain ⟨before, after, split⟩ := List.append_of_mem (later.closed.leads (List.mem_append_right _ List.mem_cons_self) hd)
      refine result ▸ Precedes.append ⟨before, after, split, fun member => ?_⟩ added
      exact inner.unmarked freshM hm (later.marked (split ▸ List.mem_append_left _ member))
  | both hd hm first ih =>
    obtain ⟨notD, notM⟩ := unrelated.other hd hm
    cases walk with
    | seen marked walk => exact absurd (ready.finished acyclic marked List.mem_cons_self hd) freshD
    | visit fresh inner walk =>
      obtain ⟨added, result, -⟩ := walk.added
      have precedes := ih inner ready.inner (List.not_mem_cons_of_ne_of_not_mem notD freshD) (List.not_mem_cons_of_ne_of_not_mem notM freshM)
      exact result ▸ (precedes.append _).append added

/-- A walk that comes to one of two unrelated nodes comes to one of them first. -/
theorem Walk.first_total {d m : α} (unrelated : Unrelated next d m) (walk : Walk next s ns t) (ready : Ready next s ns)
    (freshD : d ∉ s.visited) (freshM : m ∉ s.visited) (leads : ∃ n ∈ ns, Leads next n d ∨ Leads next n m) : First next d m ns ∨ First next m d ns := by
  induction walk with
  | nil s => exact absurd leads (by simp)
  | seen marked later ih =>
    rename_i s t n rest
    have hd : ¬Leads next n d := fun hd => freshD (ready.finished acyclic marked List.mem_cons_self hd)
    have hm : ¬Leads next n m := fun hm => freshM (ready.finished acyclic marked List.mem_cons_self hm)
    obtain ⟨x, listed, leads⟩ := leads
    have listed : x ∈ rest := (List.mem_cons.mp listed).resolve_left (by rintro rfl; exact leads.elim hd hm)
    exact (ih ready.tail freshD freshM ⟨x, listed, leads⟩).imp (.neither hd hm) (.neither hm hd)
  | visit fresh inner later ihInner ihLater =>
    rename_i s t u n rest
    by_cases hd : Leads next n d <;> by_cases hm : Leads next n m
    · obtain ⟨notD, notM⟩ := unrelated.other hd hm
      obtain ⟨x, step, leads⟩ := (Relation.ReflTransGen.cases_head hd).resolve_left fun same => notD same.symm
      exact (ihInner ready.inner (List.not_mem_cons_of_ne_of_not_mem notD freshD) (List.not_mem_cons_of_ne_of_not_mem notM freshM)
        ⟨x, step, .inl leads⟩).imp (.both hd hm) (.both hm hd)
    · exact .inl (.only hd hm)
    · exact .inr (.only hm hd)
    · obtain ⟨x, listed, leads⟩ := leads
      have listed : x ∈ rest := (List.mem_cons.mp listed).resolve_left (by rintro rfl; exact leads.elim hd hm)
      exact (ihLater (inner.later_ready acyclic ready (inner.closed acyclic ready.inner)) (inner.unmarked freshD hd) (inner.unmarked freshM hm)
        ⟨x, listed, leads⟩).imp (.neither hd hm) (.neither hm hd)

end

/-! ## That the visits end -/

variable [DecidableEq α]

theorem visit_seen (fuel : Nat) {n : α} (marked : n ∈ s.visited) : visit next (fuel + 1) s n = some s := if_pos marked

theorem visit_fresh {fuel : Nat} {n : α} (fresh : n ∉ s.visited) (ran : (next n).foldlM (visit next fuel) { s with visited := n :: s.visited } = some t) :
    visit next (fuel + 1) s n = some { t with result := t.result ++ [n] } := by
  simp [visit, fresh, ran]

/-- With fuel for the nodes that are not marked the visits are a walk. -/
theorem exists_walk {all : List α} (inside : ∀ n ∈ all, next n ⊆ all) (fuel : Nat) :
    ∀ (s : State α) (ns : List α), ns ⊆ all → (all.toFinset \ s.visited.toFinset).card < fuel → ∃ t, ns.foldlM (visit next fuel) s = some t ∧ Walk next s ns t := by
  induction fuel with
  | zero => exact fun _ _ _ enough => absurd enough (Nat.not_lt_zero _)
  | succ fuel ih =>
    intro s ns
    induction ns generalizing s with
    | nil => exact fun _ _ => ⟨s, rfl, .nil s⟩
    | cons n rest others =>
      intro within enough
      obtain ⟨listed, within⟩ := List.cons_subset.mp within
      by_cases marked : n ∈ s.visited
      · obtain ⟨t, ran, walk⟩ := others s within enough
        exact ⟨t, by rwa [List.foldlM_cons, visit_seen fuel marked], .seen marked walk⟩
      · -- The node is marked before what follows it is visited, so fewer are left.
        have fewer : all.toFinset \ (n :: s.visited).toFinset ⊂ all.toFinset \ s.visited.toFinset := by
          rw [Finset.ssubset_iff_of_subset (Finset.sdiff_subset_sdiff le_rfl (by simp [Finset.subset_insert]))]
          exact ⟨n, by simp [listed, marked], by simp⟩
        have less := Finset.card_lt_card fewer
        obtain ⟨t, ran, inner⟩ := ih { s with visited := n :: s.visited } (next n) (inside n listed) (less.trans_le (Nat.lt_succ_iff.mp enough))
        have grown : s.visited ⊆ t.visited := List.Subset.trans (List.subset_cons_self _ _) inner.visited_subset
        have left : all.toFinset \ t.visited.toFinset ⊆ all.toFinset \ s.visited.toFinset :=
          Finset.sdiff_subset_sdiff le_rfl fun x member => List.mem_toFinset.mpr (grown (List.mem_toFinset.mp member))
        obtain ⟨u, ran', walk⟩ := others { t with result := t.result ++ [n] } within ((Finset.card_le_card left).trans_lt enough)
        exact ⟨u, by rwa [List.foldlM_cons, visit_fresh marked ran], .visit marked inner walk⟩

theorem Precedes.idxOf_lt {d m : α} {result : List α} (distinct : d ≠ m) (precedes : Precedes d m result) : result.idxOf d < result.idxOf m := by
  obtain ⟨before, after, rfl, absent⟩ := precedes
  have early : (before ++ d :: after).idxOf d ≤ before.length := by
    by_cases member : d ∈ before
    · rw [List.idxOf_append_of_mem member]
      exact List.idxOf_le_length
    · simp [List.idxOf_append_of_notMem member]
  rw [List.idxOf_append_of_notMem absent, List.idxOf_cons_ne _ distinct]
  omega

/-- Of two nodes of a walk that starts from nothing, the one stands before the other that the other
    leads to, and else the one that the walk comes to first. -/
theorem Walk.before_iff {d m : α} (acyclic : ∀ n, ¬Relation.TransGen (fun a b => b ∈ next a) n n) (walk : Walk next {} ns t)
    (other : d ≠ m) (one_way : ¬Leads next d m) (listed : m ∈ ns) : t.result.idxOf d < t.result.idxOf m ↔ Leads next m d ∨ First next d m ns := by
  have ready : Ready next {} ns := ⟨fun _ _ _ split => by simp at split, by simp, by simp⟩
  obtain ⟨added, result, distinct, -, marks⟩ := walk.added
  obtain rfl : t.result = added := by simpa using result
  by_cases back : Leads next m d
  · have member : m ∈ t.result := by simpa using (marks m).mp (walk.marks listed)
    have path := (Relation.reflTransGen_iff_eq_or_transGen.mp back).resolve_left other
    exact iff_of_true ((walk.closed acyclic ready).idxOf_lt distinct member path) (.inl back)
  · have unrelated : Unrelated next d m := ⟨one_way, back⟩
    refine ⟨fun before => .inr ?_, fun first => ?_⟩
    · refine (walk.first_total acyclic unrelated ready (by simp) (by simp) ⟨m, listed, .inr .refl⟩).resolve_right fun first => ?_
      have after := (walk.precedes acyclic unrelated.symm first ready (by simp) (by simp)).idxOf_lt other.symm
      omega
    · exact (walk.precedes acyclic unrelated (first.resolve_left back) ready (by simp) (by simp)).idxOf_lt other

end RevitPy.PostOrder
