import Mathlib.Algebra.BigOperators.Group.Finset.Basic
import Mathlib.Algebra.GroupWithZero.Nat
import Mathlib.Algebra.Order.BigOperators.Group.Finset
import Mathlib.Data.Finite.Defs
import Mathlib.Order.WellFounded
import Mathlib.Data.Fintype.Order
import RevitPy.Dict
import RevitPy.Loop

/-!
# Kahn's algorithm on a dictionary of adjacency lists

Nodes leave a queue in which they are placed once nothing still waiting points
at them. Every node of the result comes after all the nodes that point at it,
and the result is missing exactly the nodes that a cycle leads to.
-/

namespace RevitPy.Kahn
open Finset
variable {α : Type*} [DecidableEq α]

/-! ## The algorithm -/

/-- The nodes that `n` points at. -/
def next (edges : Dict α (List α)) (n : α) : List α := edges.getD n []

/-- `degree[n] += 1`, where `n` is known. -/
def count (degree : Dict α Int) (n : α) : Dict α Int :=
  match degree.get? n with
  | some v => degree.set n (v + 1)
  | none => degree

/-- How many edges point at each node. -/
def inDegree (edges : Dict α (List α)) : Dict α Int :=
  edges.entries.foldl (fun degree item => item.2.foldl count degree) (Dict.fromkeys edges.keys 0)

structure State (α : Type*) where
  queue : List α
  degree : Dict α Int
  order : List α

/-- Every node that nothing points at is ready. -/
def start (edges : Dict α (List α)) : State α where
  queue := ((inDegree edges).entries.filter fun item => item.2 = 0).map Prod.fst
  degree := inDegree edges
  order := []

/-- `degree[n] -= 1`, where `n` is known; a node that reaches zero is ready. -/
def visit (s : State α) (n : α) : State α :=
  match s.degree.get? n with
  | some v => { s with
      degree := s.degree.set n (v - 1)
      queue := if v - 1 = 0 then s.queue ++ [n] else s.queue }
  | none => s

def step (edges : Dict α (List α)) (s : State α) : Option (State α) :=
  match s.queue with
  | [] => none
  | current :: queue =>
    some ((next edges current).foldl visit { s with queue := queue, order := s.order ++ [current] })

/-- The nodes in the queue and those that are still waited for. -/
def measure (s : State α) : Nat := s.queue.length + s.degree.entries.countP fun item => decide (0 < item.2)

private theorem countP_put (items : List (α × Int)) (n : α) (v w : Int) (distinct : (items.map Prod.fst).Nodup)
    (found : (n, v) ∈ items) :
    (Dict.put items n w).countP (fun item => decide (0 < item.2)) + (if 0 < v then 1 else 0) =
      items.countP (fun item => decide (0 < item.2)) + (if 0 < w then 1 else 0) := by
  induction items with
  | nil => simp at found
  | cons item rest ih =>
    obtain ⟨m, u⟩ := item
    simp only [List.map_cons, List.nodup_cons] at distinct
    by_cases same : m = n
    · subst same
      have value : u = v := by
        rcases List.mem_cons.mp found with equal | later
        · exact (Prod.mk.inj equal).2.symm
        · exact absurd (List.mem_map_of_mem later) distinct.1
      subst value
      simp only [Dict.put, ↓reduceIte, List.countP_cons, decide_eq_true_eq]
      omega
    · have later : (n, v) ∈ rest := by
        rcases List.mem_cons.mp found with equal | later
        · exact absurd (Prod.mk.inj equal).1.symm same
        · exact later
      have counted := ih distinct.2 later
      simp only [Dict.put, same, ↓reduceIte, List.countP_cons, decide_eq_true_eq]
      omega

private theorem measure_visit (s : State α) (n : α) : measure (visit s n) ≤ measure s := by
  unfold visit
  cases found : s.degree.get? n with
  | none => exact Nat.le_refl _
  | some v =>
    have counted := countP_put s.degree.entries n v (v - 1) s.degree.nodup ((s.degree.get?_some_iff n v).mp found)
    simp only [measure, Dict.set]
    split
    · next zero =>
      have positive : 0 < v := by omega
      simp only [zero, positive, ↓reduceIte, lt_self_iff_false] at counted
      simp only [List.length_append, List.length_singleton, zero]
      omega
    · split at counted <;> split at counted <;> omega

theorem step_decreasing (edges : Dict α (List α)) : Loop.Decreasing (step edges) measure := by
  intro s t stepped
  unfold step at stepped
  cases shape : s.queue with
  | nil => simp [shape] at stepped
  | cons current queue =>
    simp only [shape, Option.some.injEq] at stepped
    subst stepped
    have visited : ∀ (ns : List α) (s : State α), measure (ns.foldl visit s) ≤ measure s := by
      intro ns
      induction ns with
      | nil => intro s; exact Nat.le_refl _
      | cons n rest ih => intro s; exact (ih (visit s n)).trans (measure_visit s n)
    refine (visited _ _).trans_lt ?_
    simp [measure, shape]

/-- The nodes in the order in which they leave the queue. -/
def order (edges : Dict α (List α)) : List α :=
  (Loop.exec (step edges) measure (step_decreasing edges) (start edges)).order

/-! ## The degrees count the edges -/

/-- `n` points at `d`, and both are nodes. -/
def Edge (edges : Dict α (List α)) (n d : α) : Prop := n ∈ edges.keys ∧ d ∈ edges.keys ∧ d ∈ next edges n

theorem next_of_mem {edges : Dict α (List α)} {n : α} {ds : List α} (member : (n, ds) ∈ edges.entries) :
    next edges n = ds := by
  simp [next, Dict.getD, (edges.get?_some_iff n ds).mpr member]

private theorem get?_count (degree : Dict α Int) (n d : α) :
    (count degree n).get? d = (degree.get? d).map (· + (([n].count d : Nat) : Int)) := by
  unfold count
  by_cases same : n = d
  · subst same
    cases found : degree.get? n with
    | none => simp [found]
    | some v => simp
  · cases known : degree.get? n with
    | none => cases found : degree.get? d <;> simp [same]
    | some v => cases found : degree.get? d <;> simp [Dict.get?_set, same, found]

private theorem get?_counts (ns : List α) (degree : Dict α Int) (d : α) :
    (ns.foldl count degree).get? d = (degree.get? d).map (· + ((ns.count d : Nat) : Int)) := by
  induction ns generalizing degree with
  | nil => cases found : degree.get? d <;> simp [found]
  | cons n rest ih =>
    rw [List.foldl_cons, ih, get?_count]
    cases degree.get? d with
    | none => rfl
    | some v =>
      simp only [Option.map_some, Option.some.injEq, List.count_cons, List.count_nil]
      omega

private theorem get?_inDegree_items (items : List (α × List α)) (degree : Dict α Int) (d : α) :
    (items.foldl (fun degree item => item.2.foldl count degree) degree).get? d =
      (degree.get? d).map (· + (((items.map fun item => item.2.count d).sum : Nat) : Int)) := by
  induction items generalizing degree with
  | nil => cases found : degree.get? d <;> simp [found]
  | cons item rest ih =>
    rw [List.foldl_cons, ih, get?_counts]
    cases degree.get? d with
    | none => rfl
    | some v =>
      simp only [Option.map_some, Option.some.injEq, List.map_cons, List.sum_cons]
      omega

private theorem get?_fromkeys (ns : List α) (v : Int) (d : α) :
    (Dict.fromkeys ns v).get? d = if d ∈ ns then some v else none := by
  suffices filled : ∀ degree : Dict α Int, ((ns.map fun n => (n, v)).foldl (fun d item => d.set item.1 item.2) degree).get? d =
      if d ∈ ns then some v else degree.get? d by simpa [Dict.fromkeys, Dict.ofList] using filled ∅
  induction ns with
  | nil => intro degree; simp
  | cons n rest ih =>
    intro degree
    rw [List.map_cons, List.foldl_cons, ih]
    by_cases later : d ∈ rest
    · simp [later]
    · by_cases same : n = d
      · simp [later, same]
      · simp [later, same, Ne.symm same, Dict.get?_set]

/-- The edges that point at a node, counted with their repetitions. -/
def total (edges : Dict α (List α)) (ns : Finset α) (d : α) : Nat := ∑ n ∈ ns, (next edges n).count d

theorem get?_inDegree (edges : Dict α (List α)) (d : α) :
    (inDegree edges).get? d = if d ∈ edges.keys then some (total edges edges.keys.toFinset d : Int) else none := by
  have counted : (edges.entries.map fun item => item.2.count d).sum = total edges edges.keys.toFinset d := by
    rw [total, List.sum_toFinset _ edges.keys_nodup, Dict.keys, List.map_map]
    congr 1
    apply List.map_congr_left
    rintro ⟨n, ds⟩ member
    simp [next_of_mem member]
  rw [inDegree, get?_inDegree_items, get?_fromkeys, counted]
  split <;> simp

/-! ## The loop invariant -/

/-- What holds while the successors `rest` of the last node taken are still to
    be visited: the degree of a node counts the edges from nodes that have not
    left the queue, and exactly the nodes of degree zero are ready or gone. -/
private structure Invariant (edges : Dict α (List α)) (rest : List α) (s : State α) : Prop where
  distinct : (s.order ++ s.queue).Nodup
  unknown : ∀ d, d ∉ edges.keys → s.degree.get? d = none
  known : ∀ d ∈ s.order ++ s.queue, d ∈ edges.keys
  degrees : ∀ d ∈ edges.keys,
    s.degree.get? d = some ((total edges (edges.keys.toFinset \ s.order.toFinset) d + rest.count d : Nat) : Int)
  ready : ∀ d ∈ edges.keys, d ∈ s.order ++ s.queue ↔ s.degree.get? d = some 0
  before : ∀ d ∈ s.order, ∀ n, Edge edges n d → n ∈ s.order ∧ s.order.idxOf n < s.order.idxOf d

private theorem invariant_start (edges : Dict α (List α)) : Invariant edges [] (start edges) := by
  have queued (d : α) : d ∈ (start edges).queue ↔ (inDegree edges).get? d = some 0 := by
    simp [start, Dict.get?_some_iff]
  refine ⟨?_, ?_, ?_, ?_, ?_, ?_⟩
  · simpa [start] using (inDegree edges).nodup.sublist (List.filter_sublist.map Prod.fst)
  · intro d absent; simp [start, get?_inDegree, absent]
  · intro d member
    have zero : (inDegree edges).get? d = some 0 := (queued d).mp (by simpa [start] using member)
    by_contra absent
    simp [get?_inDegree, absent] at zero
  · intro d member; simp [start, get?_inDegree, member]
  · intro d _
    have listed : d ∈ (start edges).order ++ (start edges).queue ↔ d ∈ (start edges).queue := by simp [start]
    rw [listed, queued]
    rfl
  · intro d member; simp [start] at member

private theorem invariant_visit {edges : Dict α (List α)} {n : α} {rest : List α} {s : State α}
    (inv : Invariant edges (n :: rest) s) : Invariant edges rest (visit s n) := by
  unfold visit
  by_cases known : n ∈ edges.keys
  · have degree := inv.degrees n known
    have waiting : n ∉ s.order ++ s.queue := by
      rw [inv.ready n known, degree]
      simp only [List.count_cons_self, Option.some.injEq]
      omega
    simp only [degree]
    have value : ((total edges (edges.keys.toFinset \ s.order.toFinset) n + (n :: rest).count n : Nat) : Int) - 1 =
        ((total edges (edges.keys.toFinset \ s.order.toFinset) n + rest.count n : Nat) : Int) := by
      simp only [List.count_cons_self]
      omega
    rw [value]
    refine ⟨?_, ?_, ?_, ?_, ?_, inv.before⟩
    · split
      · rw [← List.append_assoc]
        exact List.nodup_append.mpr ⟨inv.distinct, List.nodup_singleton n, fun a member b single equal =>
          waiting (by rw [← List.mem_singleton.mp single, ← equal]; exact member)⟩
      · exact inv.distinct
    · intro d absent
      have other : n ≠ d := fun equal => absent (equal ▸ known)
      simp [Dict.get?_set, other, inv.unknown d absent]
    · intro d member
      split at member
      · rw [← List.append_assoc] at member
        rcases List.mem_append.mp member with old | new
        · exact inv.known d old
        · rw [List.mem_singleton] at new; exact new ▸ known
      · exact inv.known d member
    · intro d member
      by_cases same : n = d
      · subst same; simp
      · simp [Dict.get?_set, same, inv.degrees d member]
    · intro d member
      by_cases same : n = d
      · subst same
        simp only [Dict.get?_set_self, Option.some.injEq]
        split
        · next zero => simp [zero]
        · next positive => exact ⟨fun listed => absurd listed waiting, fun zero => absurd zero positive⟩
      · rw [Dict.get?_set_ne _ _ same, ← inv.ready d member]
        split
        · simp [Ne.symm same]
        · rfl
  · simp only [inv.unknown n known]
    refine ⟨inv.distinct, inv.unknown, inv.known, ?_, inv.ready, inv.before⟩
    intro d member
    have other : n ≠ d := fun equal => known (equal ▸ member)
    simpa [List.count_cons, other] using inv.degrees d member

private theorem invariant_take {edges : Dict α (List α)} {current : α} {queue : List α} {s : State α}
    (shape : s.queue = current :: queue) (inv : Invariant edges [] s) :
    Invariant edges (next edges current) { s with queue := queue, order := s.order ++ [current] } := by
  have listed : current ∈ s.order ++ s.queue := by simp [shape]
  have node : current ∈ edges.keys := inv.known current listed
  have distinct : (s.order ++ current :: queue).Nodup := by simpa [shape] using inv.distinct
  have fresh : current ∉ s.order := by
    intro member
    exact (List.nodup_append.mp distinct).2.2 current member current (by simp) rfl
  have members (d : α) : d ∈ (s.order ++ [current]) ++ queue ↔ d ∈ s.order ++ s.queue := by simp [shape]
  have released : ∀ n, Edge edges n current → n ∈ s.order := by
    intro n edge
    by_contra absent
    have zero := (inv.ready current node).mp listed
    rw [inv.degrees current node] at zero
    have inside : n ∈ edges.keys.toFinset \ s.order.toFinset := by simp [edge.1, absent]
    have positive : 0 < (next edges n).count current := List.count_pos_iff.mpr edge.2.2
    have bound : (next edges n).count current ≤ total edges (edges.keys.toFinset \ s.order.toFinset) current :=
      Finset.single_le_sum (f := fun n => (next edges n).count current) (fun _ _ => Nat.zero_le _) inside
    simp only [List.count_nil, Option.some.injEq] at zero
    omega
  refine ⟨by simpa using distinct, inv.unknown, ?_, ?_, ?_, ?_⟩
  · intro d member; exact inv.known d ((members d).mp member)
  · intro d member
    have inside : current ∈ edges.keys.toFinset \ s.order.toFinset := by simp [node, fresh]
    have without : edges.keys.toFinset \ (s.order ++ [current]).toFinset =
        (edges.keys.toFinset \ s.order.toFinset).erase current := by
      ext n
      simp only [mem_sdiff, List.mem_toFinset, List.mem_append, List.mem_singleton, mem_erase]
      tauto
    have split : total edges ((edges.keys.toFinset \ s.order.toFinset).erase current) d +
        (next edges current).count d = total edges (edges.keys.toFinset \ s.order.toFinset) d :=
      Finset.sum_erase_add _ _ inside
    rw [inv.degrees d member, without, split]
    simp
  · intro d member; rw [members d]; exact inv.ready d member
  · intro d member n edge
    rcases List.mem_append.mp member with old | new
    · obtain ⟨earlier, less⟩ := inv.before d old n edge
      exact ⟨by simp [earlier], by rwa [List.idxOf_append_of_mem earlier, List.idxOf_append_of_mem old]⟩
    · rw [List.mem_singleton] at new
      subst new
      have earlier := released n edge
      refine ⟨by simp [earlier], ?_⟩
      rw [List.idxOf_append_of_mem earlier, List.idxOf_append_of_notMem fresh]
      have bound := List.idxOf_lt_length_of_mem earlier
      simp
      omega

private theorem invariant_step {edges : Dict α (List α)} {s t : State α} (inv : Invariant edges [] s)
    (stepped : step edges s = some t) : Invariant edges [] t := by
  have visited : ∀ (ns : List α) (s : State α), Invariant edges ns s → Invariant edges [] (ns.foldl visit s) := by
    intro ns
    induction ns with
    | nil => intro s inv; exact inv
    | cons n rest ih => intro s inv; exact ih (visit s n) (invariant_visit inv)
  unfold step at stepped
  cases shape : s.queue with
  | nil => simp [shape] at stepped
  | cons current queue =>
    simp only [shape, Option.some.injEq] at stepped
    subst stepped
    exact visited _ _ (invariant_take shape inv)

private theorem invariant_end (edges : Dict α (List α)) :
    ∃ s : State α, s.order = order edges ∧ s.queue = [] ∧ Invariant edges [] s := by
  obtain ⟨inv, ended⟩ := Loop.exec_induction (step_decreasing edges) (start edges)
    (fun s t => invariant_step) (invariant_start edges)
  refine ⟨_, rfl, ?_, inv⟩
  unfold step at ended
  split at ended
  · next empty => exact empty
  · cases ended

/-! ## The result -/

theorem order_nodup (edges : Dict α (List α)) : (order edges).Nodup := by
  obtain ⟨s, same, empty, inv⟩ := invariant_end edges
  have distinct := inv.distinct
  rwa [same, empty, List.append_nil] at distinct
theorem order_subset (edges : Dict α (List α)) : ∀ n ∈ order edges, n ∈ edges.keys := by
  obtain ⟨s, same, _, inv⟩ := invariant_end edges
  intro n member
  exact inv.known n (by rw [same]; exact List.mem_append_left _ member)

/-- A node comes after every node that points at it. -/
theorem order_before (edges : Dict α (List α)) {n d : α} (edge : Edge edges n d) (member : d ∈ order edges) :
    n ∈ order edges ∧ (order edges).idxOf n < (order edges).idxOf d := by
  obtain ⟨s, same, _, inv⟩ := invariant_end edges
  have earlier := inv.before d (by rw [same]; exact member) n edge
  rwa [same] at earlier

/-- A node that is left out is waited for by another one that is left out. -/
theorem left_out (edges : Dict α (List α)) {d : α} (node : d ∈ edges.keys) (absent : d ∉ order edges) :
    ∃ n, Edge edges n d ∧ n ∉ order edges := by
  obtain ⟨s, same, empty, inv⟩ := invariant_end edges
  have waiting : ¬ s.degree.get? d = some 0 := by
    rw [← inv.ready d node, same, empty, List.append_nil]
    exact absent
  rw [inv.degrees d node] at waiting
  have nonzero : total edges (edges.keys.toFinset \ s.order.toFinset) d ≠ 0 := by
    intro zero
    exact waiting (by simp [zero])
  obtain ⟨n, inside, positive⟩ := Finset.exists_ne_zero_of_sum_ne_zero nonzero
  simp only [mem_sdiff, List.mem_toFinset] at inside
  exact ⟨n, ⟨inside.1, node, List.count_pos_iff.mp (Nat.pos_of_ne_zero positive)⟩, by rw [← same]; exact inside.2⟩

theorem order_before_path (edges : Dict α (List α)) {n d : α} (path : Relation.TransGen (Edge edges) n d)
    (member : d ∈ order edges) : n ∈ order edges ∧ (order edges).idxOf n < (order edges).idxOf d := by
  induction path with
  | single edge => exact order_before edges edge member
  | tail _ edge ih =>
    obtain ⟨middle, less⟩ := order_before edges edge member
    exact ⟨(ih middle).1, (ih middle).2.trans less⟩

/-- No edges lead back to where they started. -/
def Acyclic (edges : Dict α (List α)) : Prop := ∀ n, ¬ Relation.TransGen (Edge edges) n n

theorem not_mem_of_cycle (edges : Dict α (List α)) {n : α} (cycle : Relation.TransGen (Edge edges) n n) :
    n ∉ order edges :=
  fun member => Nat.lt_irrefl _ (order_before_path edges cycle member).2

/-- Without a cycle every node is in the result. -/
theorem mem_order_of_acyclic (edges : Dict α (List α)) (acyclic : Acyclic edges) :
    ∀ n ∈ edges.keys, n ∈ order edges := by
  let Left := { n : α // n ∈ edges.keys ∧ n ∉ order edges }
  have finite : Finite Left :=
    Finite.of_injective (fun n : Left => (⟨n.1, List.mem_toFinset.mpr n.2.1⟩ : edges.keys.toFinset))
      fun a b same => Subtype.ext (congrArg (fun n => n.1) same)
  let path (a b : Left) : Prop := Relation.TransGen (Edge edges) a.1 b.1
  have trans : IsTrans Left path := ⟨fun _ _ _ left right => left.trans right⟩
  have irrefl : Std.Irrefl path := ⟨fun a => acyclic a.1⟩
  have wellFounded : WellFounded path := Finite.wellFounded_of_trans_of_irrefl path
  intro n node
  by_contra absent
  obtain ⟨least, _, minimal⟩ := wellFounded.has_min Set.univ ⟨⟨n, node, absent⟩, trivial⟩
  obtain ⟨m, edge, missing⟩ := left_out edges least.2.1 least.2.2
  exact minimal ⟨m, edge.1, missing⟩ trivial (.single edge)

theorem order_perm_of_acyclic (edges : Dict α (List α)) (acyclic : Acyclic edges) :
    (order edges).Perm edges.keys :=
  (List.perm_ext_iff_of_nodup (order_nodup edges) edges.keys_nodup).mpr fun n =>
    ⟨order_subset edges n, mem_order_of_acyclic edges acyclic n⟩

/-- The result is complete exactly when there is no cycle. -/
theorem complete_iff_acyclic (edges : Dict α (List α)) :
    (∀ n ∈ edges.keys, n ∈ order edges) ↔ Acyclic edges := by
  constructor
  · intro complete n cycle
    have node : n ∈ edges.keys := by
      obtain ⟨_, edge, _⟩ := Relation.TransGen.head'_iff.mp cycle
      exact edge.1
    exact not_mem_of_cycle edges cycle (complete n node)
  · exact mem_order_of_acyclic edges

end RevitPy.Kahn
