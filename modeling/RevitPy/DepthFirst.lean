import RevitPy.Kahn
import RevitPy.PostOrder

/-!
# Depth-first search on a dictionary of adjacency lists

A node is finished after the nodes that it points at. The path that leads to a node is
kept, and the search stops at a node that is on its own path. The search from one node
after the other, in any order, finishes every node exactly where there is no cycle.
-/

namespace RevitPy.DepthFirst
open Kahn
variable {α : Type*} [DecidableEq α]

/-! ## The algorithm -/

/-- The nodes that are finished, in their order, and those that are not. -/
structure State (α : Type*) where
  finished : List α
  waiting : List α

def State.finish (s : State α) (n : α) : State α where
  finished := s.finished ++ [n]
  waiting := s.waiting.filter fun m => m ≠ n

/-- Why a search stops: a node on its own path, or no fuel. -/
inductive Stop (α : Type*)
  | cycle (s : State α) (visiting : List α) (n : α)
  | exhausted

/-- Finish a node and what it leads to. What is no key of the dictionary is skipped. -/
def visit (edges : Dict α (List α)) : Nat → List α → State α → α → Except (Stop α) (State α)
  | 0, _, _, _ => .error .exhausted
  | fuel + 1, visiting, s, n =>
    if n ∈ visiting then .error (.cycle s visiting n)
    else if n ∈ s.finished then .ok s
    else match edges.get? n with
      | none => .ok s
      | some targets => match targets.foldlM (visit edges fuel (visiting ++ [n])) s with
        | .ok t => .ok (t.finish n)
        | .error stop => .error stop

/-- Visit one waiting node after the other, each the first in the order of its moment. -/
def visitAll (edges : Dict α (List α)) (order : State α → List α) : Nat → State α → Except (Stop α) (State α)
  | 0, _ => .error .exhausted
  | fuel + 1, s => match order s with
    | [] => .ok s
    | n :: _ => match visit edges (edges.length + 1) [] s n with
      | .ok t => visitAll edges order fuel t
      | .error stop => .error stop

def start (edges : Dict α (List α)) : State α where
  finished := []
  waiting := edges.keys

def search (edges : Dict α (List α)) (order : State α → List α) : Except (Stop α) (State α) :=
  visitAll edges order (edges.length + 1) (start edges)

/-! ## What is finished -/

/-- Each node before which all the nodes stand that it points at. -/
def Closed (edges : Dict α (List α)) (finished : List α) : Prop :=
  ∀ before n after, finished = before ++ n :: after → ∀ d, Edge edges n d → d ∈ before

structure Good (edges : Dict α (List α)) (s : State α) : Prop where
  distinct : s.finished.Nodup
  known : ∀ n ∈ s.finished, n ∈ edges.keys
  waiting : ∀ n, n ∈ s.waiting ↔ n ∈ edges.keys ∧ n ∉ s.finished
  closed : Closed edges s.finished

variable {edges : Dict α (List α)}

theorem good_start (edges : Dict α (List α)) : Good edges (start edges) where
  distinct := List.nodup_nil
  known := by simp [start]
  waiting := by simp [start]
  closed := by
    intro before n after split
    simp [start] at split

theorem Closed.append {finished : List α} (closed : Closed edges finished) {n : α}
    (targets : ∀ d, Edge edges n d → d ∈ finished) : Closed edges (finished ++ [n]) :=
  PostOrder.Closed.concat closed targets

/-- Everything that a node leads to stands before it. -/
theorem Closed.path {finished : List α} (closed : Closed edges finished) {before after : List α} {n d : α}
    (split : finished = before ++ n :: after) (path : Relation.TransGen (Edge edges) n d) : d ∈ before :=
  PostOrder.Closed.path closed split path

theorem Good.acyclic {s : State α} (good : Good edges s) (all : ∀ n ∈ edges.keys, n ∈ s.finished) : Acyclic edges := by
  intro n cycle
  obtain ⟨_, first, _⟩ := Relation.TransGen.head'_iff.mp cycle
  obtain ⟨before, after, split⟩ := List.append_of_mem (all n first.1)
  have earlier : n ∈ before := good.closed.path split cycle
  have distinct := good.distinct
  rw [split] at distinct
  exact (List.nodup_append.mp distinct).2.2 n earlier n List.mem_cons_self rfl

/-- A node is finished once all the nodes are that it points at. -/
theorem Good.finish {s : State α} (good : Good edges s) {n : α} (node : n ∈ edges.keys) (fresh : n ∉ s.finished)
    (targets : ∀ d, Edge edges n d → d ∈ s.finished) : Good edges (s.finish n) where
  distinct := by
    refine List.nodup_append.mpr ⟨good.distinct, List.nodup_singleton n, ?_⟩
    rintro m member _ single rfl
    exact fresh (List.mem_singleton.mp single ▸ member)
  known := by
    intro m member
    rcases List.mem_append.mp member with before | last
    · exact good.known m before
    · exact List.mem_singleton.mp last ▸ node
  waiting := by
    intro m
    simp only [State.finish, List.mem_filter, good.waiting, decide_eq_true_eq, List.mem_append, List.mem_singleton, not_or,
      and_assoc]
  closed := good.closed.append targets

/-! ## One visit -/

/-- The nodes on the path to a node that is visited. -/
structure Path (edges : Dict α (List α)) (s : State α) (visiting : List α) : Prop where
  distinct : visiting.Nodup
  known : ∀ v ∈ visiting, v ∈ edges.keys
  unfinished : ∀ v ∈ visiting, v ∉ s.finished

/-- What visits from a state answer: the wanted nodes are finished, or there is a cycle. -/
def Visited (edges : Dict α (List α)) (visiting : List α) (s : State α) (wanted : List α) :
    Except (Stop α) (State α) → Prop
  | .ok t => Good edges t ∧ s.finished <+: t.finished ∧ (∀ v ∈ visiting, v ∉ t.finished) ∧
      ∀ n ∈ wanted, n ∈ edges.keys → n ∈ t.finished
  | .error (.cycle _ _ _) => ¬Acyclic edges
  | .error .exhausted => False

omit [DecidableEq α] in
theorem Path.length_le {s : State α} {visiting : List α} (path : Path edges s visiting) : visiting.length ≤ edges.length := by
  rw [← edges.length_keys]
  exact (List.subperm_of_subset path.distinct path.known).length_le

omit [DecidableEq α] in
theorem Path.snoc {s : State α} {visiting : List α} (path : Path edges s visiting) {n : α} (node : n ∈ edges.keys)
    (off : n ∉ visiting) (fresh : n ∉ s.finished) : Path edges s (visiting ++ [n]) where
  distinct := by
    refine List.nodup_append.mpr ⟨path.distinct, List.nodup_singleton n, ?_⟩
    rintro m member _ single rfl
    exact off (List.mem_singleton.mp single ▸ member)
  known := by
    intro m member
    rcases List.mem_append.mp member with before | last
    · exact path.known m before
    · exact List.mem_singleton.mp last ▸ node
  unfinished := by
    intro m member
    rcases List.mem_append.mp member with before | last
    · exact path.unfinished m before
    · exact List.mem_singleton.mp last ▸ fresh

/-- Visits one after the other do what each of them does. -/
theorem visited_all {visiting : List α} {f : State α → α → Except (Stop α) (State α)} {targets : List α}
    (each : ∀ s n, n ∈ targets → Good edges s → Path edges s visiting → Visited edges visiting s [n] (f s n))
    {s : State α} (good : Good edges s) (path : Path edges s visiting) :
    Visited edges visiting s targets (targets.foldlM f s) := by
  induction targets generalizing s with
  | nil => exact ⟨good, List.prefix_refl _, path.unfinished, by simp⟩
  | cons n rest ih =>
    have first := each s n List.mem_cons_self good path
    rw [List.foldlM_cons]
    match answer : f s n with
    | .error (.cycle _ _ _) => rwa [answer] at first
    | .error .exhausted => rwa [answer] at first
    | .ok t =>
      rw [answer] at first
      obtain ⟨good', grown, unfinished, done⟩ := first
      have later := ih (fun u m member => each u m (List.mem_cons_of_mem _ member)) good' ⟨path.distinct, path.known, unfinished⟩
      show Visited edges visiting s (n :: rest) (rest.foldlM f t)
      match answer' : rest.foldlM f t with
      | .error (.cycle _ _ _) => rwa [answer'] at later
      | .error .exhausted => rwa [answer'] at later
      | .ok u =>
        rw [answer'] at later
        obtain ⟨good'', grown', unfinished', done'⟩ := later
        refine ⟨good'', grown.trans grown', unfinished', ?_⟩
        intro m member node
        rcases List.mem_cons.mp member with rfl | member
        · exact grown'.subset (done m List.mem_cons_self node)
        · exact done' m member node

/-- With fuel for the nodes that are not on the path, a visit finishes the node or finds a cycle. -/
theorem visited_visit (fuel : Nat) {visiting : List α} {s : State α} {n : α} (good : Good edges s) (path : Path edges s visiting)
    (leads : n ∈ edges.keys → ∀ v ∈ visiting, Relation.TransGen (Edge edges) v n)
    (enough : edges.length < fuel + visiting.length) : Visited edges visiting s [n] (visit edges fuel visiting s n) := by
  induction fuel generalizing visiting s n with
  | zero =>
    have bounded := path.length_le
    omega
  | succ fuel ih =>
    rw [visit]
    by_cases on : n ∈ visiting
    · rw [if_pos on]
      exact fun acyclic => acyclic n (leads (path.known n on) n on)
    · rw [if_neg on]
      by_cases done : n ∈ s.finished
      · rw [if_pos done]
        exact ⟨good, List.prefix_refl _, path.unfinished, fun m single _ => List.mem_singleton.mp single ▸ done⟩
      · rw [if_neg done]
        cases found : edges.get? n with
        | none =>
          refine ⟨good, List.prefix_refl _, path.unfinished, fun m single node => ?_⟩
          obtain rfl := List.mem_singleton.mp single
          exact absurd node ((edges.get?_none_iff m).mp found)
        | some targets =>
          have node : n ∈ edges.keys := Dict.mem_keys_of_get? found
          have points : next edges n = targets := by simp [next, Dict.getD, found]
          have each (u : State α) (d : α) (member : d ∈ targets) (good' : Good edges u) (path' : Path edges u (visiting ++ [n])) :
              Visited edges (visiting ++ [n]) u [d] (visit edges fuel (visiting ++ [n]) u d) := by
            refine ih good' path' ?_ (by simp; omega)
            intro known v onPath
            have edge : Edge edges n d := ⟨node, known, points ▸ member⟩
            rcases List.mem_append.mp onPath with before | last
            · exact (leads node v before).tail edge
            · exact List.mem_singleton.mp last ▸ .single edge
          have inner := visited_all each good (path.snoc node on done)
          show Visited edges visiting s [n] (match targets.foldlM (visit edges fuel (visiting ++ [n])) s with
            | .ok t => .ok (t.finish n)
            | .error stop => .error stop)
          rcases answer : targets.foldlM (visit edges fuel (visiting ++ [n])) s with (⟨u, path', d⟩ | _) | t
          · rwa [answer] at inner
          · rwa [answer] at inner
          · rw [answer] at inner
            obtain ⟨good', grown, unfinished, finished⟩ := inner
            have fresh : n ∉ t.finished := unfinished n (by simp)
            refine ⟨good'.finish node fresh fun d edge => finished d (points ▸ edge.2.2) edge.2.1, ?_, ?_, ?_⟩
            · exact grown.trans (List.prefix_append _ _)
            · intro v member
              have other : v ≠ n := fun same => on (same ▸ member)
              simp [State.finish, unfinished v (List.mem_append_left _ member), other]
            · intro m single _
              simp [State.finish, List.mem_singleton.mp single]

/-- A part of the search finishes nodes of a kind, after those that are finished already. -/
structure Finishes (edges : Dict α (List α)) (kind : α → Prop) (s t : State α) : Prop where
  grown : s.finished <+: t.finished
  known : ∀ m ∈ t.finished, m ∈ edges.keys
  kind : ∀ m ∈ t.finished, m ∈ s.finished ∨ kind m

section
variable {kind : α → Prop} {s t u : State α}

omit [DecidableEq α] in
theorem Finishes.refl (known : ∀ m ∈ s.finished, m ∈ edges.keys) : Finishes edges kind s s :=
  ⟨List.prefix_refl _, known, fun _ => .inl⟩

omit [DecidableEq α] in
theorem Finishes.trans (first : Finishes edges kind s t) (second : Finishes edges kind t u) :
    Finishes edges kind s u where
  grown := first.grown.trans second.grown
  known := second.known
  kind m member := (second.kind m member).elim (first.kind m) .inr

omit [DecidableEq α] in
theorem Finishes.imp {other : α → Prop} (finishes : Finishes edges kind s t) (within : ∀ m, kind m → other m) :
    Finishes edges other s t :=
  ⟨finishes.grown, finishes.known, fun m member => (finishes.kind m member).imp_right (within m)⟩

theorem Finishes.finish (finishes : Finishes edges kind s t) {n : α} (node : n ∈ edges.keys) (own : kind n) :
    Finishes edges kind s (t.finish n) where
  grown := finishes.grown.trans (List.prefix_append _ _)
  known m member := (List.mem_append.mp member).elim (finishes.known m) fun last => List.mem_singleton.mp last ▸ node
  kind m member := (List.mem_append.mp member).elim (finishes.kind m) fun last => .inr (List.mem_singleton.mp last ▸ own)

omit [DecidableEq α] in
/-- Where each part of a loop finishes nodes of a kind, the loop does. -/
theorem Finishes.foldlM {ε : Type*} {part : State α → α → Except ε (State α)} {ds : List α}
    (each : ∀ d ∈ ds, ∀ s t, (∀ m ∈ s.finished, m ∈ edges.keys) → part s d = .ok t → Finishes edges kind s t)
    (known : ∀ m ∈ s.finished, m ∈ edges.keys) (ran : ds.foldlM part s = .ok t) : Finishes edges kind s t := by
  induction ds generalizing s with
  | nil =>
    cases ran
    exact .refl known
  | cons d rest ih =>
    rw [List.foldlM_cons] at ran
    cases first : part s d with
    | error e => rw [first] at ran; cases ran
    | ok u =>
      rw [first] at ran
      have here := each d (.head _) s u known first
      exact here.trans (ih (fun d member => each d (.tail _ member)) here.known ran)

end

/-- A visit finishes nothing but what its node leads to. -/
theorem finishes_visit (fuel : Nat) {visiting : List α} {s t : State α} {n : α} (answer : visit edges fuel visiting s n = .ok t)
    (known : ∀ m ∈ s.finished, m ∈ edges.keys) :
    Finishes edges (fun m => n ∈ edges.keys ∧ Relation.ReflTransGen (Edge edges) n m) s t := by
  induction fuel generalizing visiting s t n with
  | zero => cases answer
  | succ fuel ih =>
    rw [visit] at answer
    by_cases on : n ∈ visiting
    · simp [on] at answer
    rw [if_neg on] at answer
    by_cases done : n ∈ s.finished
    · rw [if_pos done, Except.ok.injEq] at answer
      exact answer ▸ .refl known
    rw [if_neg done] at answer
    cases found : edges.get? n with
    | none =>
      simp only [found, Except.ok.injEq] at answer
      exact answer ▸ .refl known
    | some targets =>
      have node : n ∈ edges.keys := Dict.mem_keys_of_get? found
      have points : next edges n = targets := by simp [next, Dict.getD, found]
      cases ran : targets.foldlM (visit edges fuel (visiting ++ [n])) s with
      | error stop => simp [found, ran] at answer
      | ok u =>
        simp only [found, ran, Except.ok.injEq] at answer
        subst answer
        refine (Finishes.foldlM (fun d member s' t' known' first => ?_) known ran).finish node ⟨node, .refl⟩
        refine (ih first known').imp ?_
        rintro m ⟨target, path⟩
        exact ⟨node, path.head ⟨node, target, points ▸ member⟩⟩

/-! ## The whole search -/

/-- What the whole search answers: every node is finished, or there is a cycle. -/
def Searched (edges : Dict α (List α)) : Except (Stop α) (State α) → Prop
  | .ok t => Good edges t ∧ ∀ n ∈ edges.keys, n ∈ t.finished
  | .error (.cycle _ _ _) => ¬Acyclic edges
  | .error .exhausted => False

theorem Good.length_le {s : State α} (good : Good edges s) : s.finished.length ≤ edges.length := by
  rw [← edges.length_keys]
  exact (List.subperm_of_subset good.distinct good.known).length_le

/-- What is finished is the beginning of what is finished later. -/
theorem visitAll_prefix {order : State α → List α} (fuel : Nat) {s t : State α} (known : ∀ m ∈ s.finished, m ∈ edges.keys)
    (answer : visitAll edges order fuel s = .ok t) : s.finished <+: t.finished := by
  induction fuel generalizing s with
  | zero => cases answer
  | succ fuel ih =>
    rw [visitAll] at answer
    cases next : order s with
    | nil =>
      simp only [next, Except.ok.injEq] at answer
      exact answer ▸ List.prefix_refl _
    | cons n rest =>
      cases first : visit edges (edges.length + 1) [] s n with
      | error stop => simp [next, first] at answer
      | ok u =>
        simp only [next, first] at answer
        have here := finishes_visit _ first known
        exact here.grown.trans (ih here.known answer)

section
variable {order : State α → List α} (perm : ∀ s, (order s).Perm s.waiting)
include perm

theorem searched_visitAll (fuel : Nat) {s : State α} (good : Good edges s) (enough : edges.length < fuel + s.finished.length) :
    Searched edges (visitAll edges order fuel s) := by
  induction fuel generalizing s with
  | zero =>
    have bounded := good.length_le
    omega
  | succ fuel ih =>
    rw [visitAll]
    match next : order s with
    | [] =>
      have none_waiting : s.waiting = [] := List.nil_perm.mp (next ▸ perm s)
      refine ⟨good, fun n node => ?_⟩
      by_contra missing
      exact absurd ((good.waiting n).mpr ⟨node, missing⟩) (by simp [none_waiting])
    | n :: rest =>
      have member : n ∈ s.waiting := (perm s).mem_iff.mp (by simp [next])
      obtain ⟨node, missing⟩ := (good.waiting n).mp member
      have path : Path edges s [] := ⟨List.nodup_nil, by simp, by simp⟩
      have visited := visited_visit (edges.length + 1) (n := n) good path (by simp) (by simp)
      show Searched edges (match visit edges (edges.length + 1) [] s n with
        | .ok t => visitAll edges order fuel t
        | .error stop => .error stop)
      match answer : visit edges (edges.length + 1) [] s n with
      | .error (.cycle _ _ _) => rwa [answer] at visited
      | .error .exhausted => rwa [answer] at visited
      | .ok t =>
        rw [answer] at visited
        obtain ⟨good', grown, _, finished⟩ := visited
        have longer : s.finished.length < t.finished.length := by
          refine lt_of_le_of_ne grown.length_le fun same => ?_
          rw [grown.eq_of_length same] at missing
          exact missing (finished n List.mem_cons_self node)
        exact ih good' (by omega)

/-- The search ends, with every node finished or with a cycle. -/
theorem searched (edges : Dict α (List α)) : Searched edges (search edges order) :=
  searched_visitAll perm (edges.length + 1) (good_start edges) (by simp [start])

end

/-- What stands before the node that is visited first is what that node leads to. -/
theorem before_first {order : State α → List α} {t : State α} {n m : α} {rest : List α} (first : order (start edges) = n :: rest)
    (node : n ∈ edges.keys) (answer : search edges order = .ok t) (before : t.finished.idxOf m < t.finished.idxOf n) :
    Relation.TransGen (Edge edges) n m := by
  rw [search, visitAll] at answer
  cases visited : visit edges (edges.length + 1) [] (start edges) n with
  | error stop => simp [first, visited] at answer
  | ok u =>
    simp only [first, visited] at answer
    have here := finishes_visit _ visited (by simp [start])
    obtain ⟨later, split⟩ := visitAll_prefix _ here.known answer
    have done : n ∈ u.finished := by
      have path : Path edges (start edges) [] := ⟨List.nodup_nil, by simp, by simp⟩
      have finished := visited_visit (edges.length + 1) (n := n) (good_start edges) path (by simp) (by simp)
      rw [visited] at finished
      exact finished.2.2.2 n List.mem_cons_self node
    have inside : m ∈ u.finished := by
      by_contra outside
      rw [← split, List.idxOf_append_of_mem done, List.idxOf_append_of_notMem outside] at before
      have := List.idxOf_lt_length_of_mem done
      omega
    rcases here.kind m inside with earlier | ⟨-, path⟩
    · simp [start] at earlier
    · rcases Relation.reflTransGen_iff_eq_or_transGen.mp path with rfl | path
      · exact absurd before (Nat.lt_irrefl _)
      · exact path

theorem Good.perm_keys {s : State α} (good : Good edges s) (all : ∀ n ∈ edges.keys, n ∈ s.finished) :
    s.finished.Perm edges.keys :=
  (List.perm_ext_iff_of_nodup good.distinct edges.keys_nodup).mpr fun n => ⟨good.known n, all n⟩

/-- A finished node stands after every node that it points at. -/
theorem Good.idxOf_lt {s : State α} (good : Good edges s) {n d : α} (edge : Edge edges n d) (member : n ∈ s.finished) :
    s.finished.idxOf d < s.finished.idxOf n :=
  PostOrder.Closed.idxOf_lt good.closed good.distinct member (.single edge)

end RevitPy.DepthFirst
