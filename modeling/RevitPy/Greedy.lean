import Mathlib.Logic.Relation
import RevitPy.Dict

/-!
# Greedy breadth-first assignment

Keys come with constraints, first come, first served. A key met for the first
time gets the value that its constraint chooses, and the value may need other
keys in turn; a later constraint on the key only checks the value. Each job
carries the round in which its constraint was raised.
-/

namespace RevitPy.Greedy

/-- What the assignment depends on. -/
structure Problem (κ σ ρ : Type*) where
  choose : κ → σ → Option ρ
  admits : ρ → σ → Bool
  needs : κ → ρ → List (κ × σ)
  choose_admits : ∀ k c r, choose k c = some r → admits r c = true

structure Job (κ σ : Type*) where
  key : κ
  constraint : σ
  round : Nat

/-- The values are kept with the rounds in which they were chosen. -/
structure State (κ σ ρ : Type*) where
  pending : List (Job κ σ)
  assigned : Dict κ (ρ × Nat)

variable {κ σ ρ : Type*} [DecidableEq κ]

def start (roots : List (κ × σ)) : State κ σ ρ := ⟨roots.map fun root => ⟨root.1, root.2, 0⟩, ∅⟩

/-- The jobs that a value chosen in a round raises. -/
def raised (p : Problem κ σ ρ) (k : κ) (r : ρ) (round : Nat) : List (Job κ σ) :=
  (p.needs k r).map fun need => ⟨need.1, need.2, round + 1⟩

/-- One job without conflict. -/
inductive Step (p : Problem κ σ ρ) : State κ σ ρ → State κ σ ρ → Prop
  | settled {job rest assigned r round} : assigned.get? job.key = some (r, round) →
      p.admits r job.constraint = true → Step p ⟨job :: rest, assigned⟩ ⟨rest, assigned⟩
  | chosen {job rest assigned r} : assigned.get? job.key = none → p.choose job.key job.constraint = some r →
      Step p ⟨job :: rest, assigned⟩
        ⟨rest ++ raised p job.key r job.round, assigned.set job.key (r, job.round)⟩

/-- All jobs were done without conflict. -/
def Solution (p : Problem κ σ ρ) (roots : List (κ × σ)) (assigned : Dict κ (ρ × Nat)) : Prop :=
  Relation.ReflTransGen (Step p) (start roots) ⟨[], assigned⟩

/-- Where a job comes from: the roots, or a value chosen in the round before. -/
inductive Origin (p : Problem κ σ ρ) (roots : List (κ × σ)) (assigned : Dict κ (ρ × Nat)) : Job κ σ → Prop
  | root {k c} : (k, c) ∈ roots → Origin p roots assigned ⟨k, c, 0⟩
  | need {q r round k c} : assigned.get? q = some (r, round) → (k, c) ∈ p.needs q r →
      Origin p roots assigned ⟨k, c, round + 1⟩

/-- The key of a job has a value that its constraint admits, chosen no later
    than in the round of the job. -/
def Met (p : Problem κ σ ρ) (assigned : Dict κ (ρ × Nat)) (job : Job κ σ) : Prop :=
  ∃ r round, assigned.get? job.key = some (r, round) ∧ round ≤ job.round ∧ p.admits r job.constraint = true

/-- The rounds are done one after the other, every job raised is pending or met,
    and every value was chosen by a job of its round. -/
structure Layered (p : Problem κ σ ρ) (roots : List (κ × σ)) (s : State κ σ ρ) : Prop where
  sorted : s.pending.Pairwise fun a b => a.round ≤ b.round
  spread : ∀ a ∈ s.pending, ∀ b ∈ s.pending, b.round ≤ a.round + 1
  tight : ∀ k r round, s.assigned.get? k = some (r, round) → ∀ job ∈ s.pending, round ≤ job.round
  origin : ∀ job ∈ s.pending, Origin p roots s.assigned job
  covered : ∀ job, Origin p roots s.assigned job → job ∈ s.pending ∨ Met p s.assigned job
  cause : ∀ k r round, s.assigned.get? k = some (r, round) →
    ∃ c, p.choose k c = some r ∧ Origin p roots s.assigned ⟨k, c, round⟩

variable {p : Problem κ σ ρ} {roots : List (κ × σ)}

theorem layered_start : Layered p roots (start roots) where
  sorted := List.pairwise_map.mpr (List.pairwise_of_forall fun _ _ => Nat.le_refl _)
  spread := by
    intro a ha b hb
    obtain ⟨root, -, rfl⟩ := List.mem_map.mp hb
    exact Nat.zero_le _
  tight := by simp [start]
  origin := by
    intro job member
    obtain ⟨root, inside, rfl⟩ := List.mem_map.mp member
    exact .root inside
  covered := by
    intro job origin
    cases origin with
    | root member => exact Or.inl (List.mem_map_of_mem member)
    | need found => simp [start] at found
  cause := by simp [start]

private theorem layered_settled {job : Job κ σ} {rest : List (Job κ σ)} {assigned : Dict κ (ρ × Nat)} {r : ρ}
    {round : Nat} (inv : Layered p roots ⟨job :: rest, assigned⟩) (found : assigned.get? job.key = some (r, round))
    (fits : p.admits r job.constraint = true) : Layered p roots ⟨rest, assigned⟩ where
  sorted := (List.pairwise_cons.mp inv.sorted).2
  spread a ha b hb := inv.spread a (by simp [ha]) b (by simp [hb])
  tight k r round found other member := inv.tight k r round found other (by simp [member])
  origin other member := inv.origin other (by simp [member])
  covered other origin := by
    rcases inv.covered other origin with pending | met
    · rcases List.mem_cons.mp pending with rfl | later
      · exact Or.inr ⟨r, round, found, inv.tight _ r round found other (by simp), fits⟩
      · exact Or.inl later
    · exact Or.inr met
  cause := inv.cause

/-- A job comes from where it came when another key is given a value. -/
private theorem Origin.set {assigned : Dict κ (ρ × Nat)} {key : κ} {v : ρ × Nat} (absent : assigned.get? key = none) {job : Job κ σ}
    (origin : Origin p roots assigned job) : Origin p roots (assigned.set key v) job := by
  cases origin with
  | root member => exact .root member
  | need found member => exact .need (Dict.get?_set_of_absent absent found) member

private theorem Met.set {assigned : Dict κ (ρ × Nat)} {key : κ} {v : ρ × Nat} (absent : assigned.get? key = none) {job : Job κ σ}
    (met : Met p assigned job) : Met p (assigned.set key v) job := by
  obtain ⟨r, round, found, early, fits⟩ := met
  exact ⟨r, round, Dict.get?_set_of_absent absent found, early, fits⟩

omit [DecidableEq κ] in
private theorem round_of_raised {k : κ} {r : ρ} {round : Nat} {job : Job κ σ} (member : job ∈ raised p k r round) : job.round = round + 1 := by
  obtain ⟨need, -, rfl⟩ := List.mem_map.mp member
  rfl

private theorem layered_chosen {job : Job κ σ} {rest : List (Job κ σ)} {assigned : Dict κ (ρ × Nat)} {r : ρ}
    (inv : Layered p roots ⟨job :: rest, assigned⟩) (absent : assigned.get? job.key = none)
    (choice : p.choose job.key job.constraint = some r) :
    Layered p roots ⟨rest ++ raised p job.key r job.round, assigned.set job.key (r, job.round)⟩ := by
  have first : ∀ other ∈ rest, job.round ≤ other.round := (List.pairwise_cons.mp inv.sorted).1
  have last : ∀ other ∈ rest, other.round ≤ job.round + 1 := fun other member =>
    inv.spread job (by simp) other (by simp [member])
  constructor
  case sorted =>
    refine List.pairwise_append.mpr ⟨(List.pairwise_cons.mp inv.sorted).2, ?_, ?_⟩
    · exact List.pairwise_map.mpr (List.pairwise_of_forall fun _ _ => Nat.le_refl _)
    · intro a old b fresh
      rw [round_of_raised fresh]
      exact last a old
  case spread =>
    intro a ha b hb
    rcases List.mem_append.mp ha with oldA | newA <;> rcases List.mem_append.mp hb with oldB | newB
    · exact inv.spread a (by simp [oldA]) b (by simp [oldB])
    · rw [round_of_raised newB]; exact Nat.succ_le_succ (first a oldA)
    · rw [round_of_raised newA]; exact Nat.le_trans (last b oldB) (Nat.le_succ _)
    · rw [round_of_raised newA, round_of_raised newB]; exact Nat.le_succ _
  case tight =>
    intro k v round found other member
    have late : job.round ≤ other.round := by
      rcases List.mem_append.mp member with old | fresh
      · exact first other old
      · rw [round_of_raised fresh]; exact Nat.le_succ _
    rw [Dict.get?_set] at found
    split at found
    · cases found; exact late
    · exact Nat.le_trans (inv.tight k v round found job (by simp)) late
  case origin =>
    intro other member
    rcases List.mem_append.mp member with old | fresh
    · exact (inv.origin other (by simp [old])).set absent
    · obtain ⟨need, needed, rfl⟩ := List.mem_map.mp fresh
      exact .need (Dict.get?_set_self _ _ _) needed
  case covered =>
    intro other origin
    have before (origin : Origin p roots assigned other) :
        other ∈ rest ++ raised p job.key r job.round ∨ Met p (assigned.set job.key (r, job.round)) other := by
      rcases inv.covered other origin with pending | met
      · rcases List.mem_cons.mp pending with rfl | later
        · exact Or.inr ⟨r, other.round, Dict.get?_set_self _ _ _, Nat.le_refl _, p.choose_admits _ _ _ choice⟩
        · exact Or.inl (List.mem_append_left _ later)
      · exact Or.inr (met.set absent)
    cases origin with
    | root member => exact before (.root member)
    | @need q v round k c found member =>
      rw [Dict.get?_set] at found
      split at found
      · next same =>
        cases found
        exact Or.inl (List.mem_append_right _ (List.mem_map.mpr ⟨(k, c), same ▸ member, rfl⟩))
      · exact before (.need found member)
  case cause =>
    intro k v round found
    rw [Dict.get?_set] at found
    split at found
    · next same =>
      cases found
      exact ⟨job.constraint, same ▸ choice, same ▸ (inv.origin job (by simp)).set absent⟩
    · obtain ⟨c, chosen, origin⟩ := inv.cause k v round found
      exact ⟨c, chosen, origin.set absent⟩

theorem layered_step {s t : State κ σ ρ} (inv : Layered p roots s) (step : Step p s t) : Layered p roots t := by
  cases step with
  | settled found fits => exact layered_settled inv found fits
  | chosen absent choice => exact layered_chosen inv absent choice

theorem layered_run {s : State κ σ ρ} (steps : Relation.ReflTransGen (Step p) (start roots) s) : Layered p roots s := by
  induction steps with
  | refl => exact layered_start
  | tail _ step ih => exact layered_step ih step

/-! ## Solutions -/

variable {assigned : Dict κ (ρ × Nat)}

/-- In a solution every root and every need of a chosen value is met. -/
theorem met_of_solution (solution : Solution p roots assigned) {job : Job κ σ} (origin : Origin p roots assigned job) :
    Met p assigned job := by
  rcases (layered_run solution).covered job origin with pending | met
  · simp at pending
  · exact met

theorem root_met (solution : Solution p roots assigned) {k : κ} {c : σ} (member : (k, c) ∈ roots) :
    ∃ r round, assigned.get? k = some (r, round) ∧ p.admits r c = true := by
  obtain ⟨r, round, found, -, fits⟩ := met_of_solution solution (.root member)
  exact ⟨r, round, found, fits⟩

theorem need_met (solution : Solution p roots assigned) {q : κ} {v : ρ × Nat} (found : assigned.get? q = some v) {k : κ}
    {c : σ} (member : (k, c) ∈ p.needs q v.1) : ∃ r round, assigned.get? k = some (r, round) ∧ p.admits r c = true := by
  have source : assigned.get? q = some (v.1, v.2) := found
  obtain ⟨r, round, found, -, fits⟩ := met_of_solution solution (.need source member)
  exact ⟨r, round, found, fits⟩

theorem chosen_of_solution (solution : Solution p roots assigned) {k : κ} {v : ρ × Nat}
    (found : assigned.get? k = some v) : ∃ c, p.choose k c = some v.1 := by
  obtain ⟨c, chosen, -⟩ := (layered_run solution).cause k v.1 v.2 found
  exact ⟨c, chosen⟩

/-- Two constraints that admit each other's choices choose alike. -/
def Agreeing (p : Problem κ σ ρ) : Prop :=
  ∀ k c c' r r', p.choose k c = some r → p.choose k c' = some r' → p.admits r c' = true → p.admits r' c = true → r = r'

private theorem same_round (agreeing : Agreeing p) {roots' : List (κ × σ)} {assigned' : Dict κ (ρ × Nat)}
    (left : Solution p roots assigned) (right : Solution p roots' assigned')
    (perm : ∀ root, root ∈ roots ↔ root ∈ roots') (n : Nat)
    (earlier : ∀ k r round, round < n → (assigned.get? k = some (r, round) ↔ assigned'.get? k = some (r, round)))
    (k : κ) (r : ρ) (found : assigned.get? k = some (r, n)) : assigned'.get? k = some (r, n) := by
  -- The jobs of round `n` were raised by values of earlier rounds, which the solutions share.
  have shift {job : Job κ σ} (origin : Origin p roots assigned job) (early : job.round ≤ n) :
      Origin p roots' assigned' job := by
    cases origin with
    | root member => exact .root ((perm _).mp member)
    | need source member => exact .need ((earlier _ _ _ early).mp source) member
  have back {job : Job κ σ} (origin : Origin p roots' assigned' job) (early : job.round ≤ n) :
      Origin p roots assigned job := by
    cases origin with
    | root member => exact .root ((perm _).mpr member)
    | need source member => exact .need ((earlier _ _ _ early).mpr source) member
  obtain ⟨c, chosen, origin⟩ := (layered_run left).cause k r n found
  obtain ⟨r', round', found', early, fits'⟩ := met_of_solution right (shift origin (Nat.le_refl n))
  obtain ⟨c', chosen', origin'⟩ := (layered_run right).cause k r' round' found'
  obtain ⟨v, round, again, late, fits⟩ := met_of_solution left (back origin' early)
  rw [found, Option.some.injEq, Prod.mk.injEq] at again
  obtain ⟨rfl, rfl⟩ := again
  have equal : r = r' := agreeing k c c' r r' chosen chosen' fits fits'
  rw [found', equal, Nat.le_antisymm early late]

/-- Solutions from the same roots, in any order, choose the same values. -/
theorem solution_unique (agreeing : Agreeing p) {roots' : List (κ × σ)} {assigned' : Dict κ (ρ × Nat)}
    (left : Solution p roots assigned) (right : Solution p roots' assigned')
    (perm : ∀ root, root ∈ roots ↔ root ∈ roots') : assigned.Same assigned' := by
  have rounds (n : Nat) : ∀ k r round, round < n →
      (assigned.get? k = some (r, round) ↔ assigned'.get? k = some (r, round)) := by
    induction n with
    | zero => intro k r round early; omega
    | succ n ih =>
      intro k r round early
      by_cases last : round = n
      · subst last
        exact ⟨same_round agreeing left right perm round ih k r,
          same_round agreeing right left (fun root => (perm root).symm) round
            (fun k r round early => (ih k r round early).symm) k r⟩
      · exact ih k r round (by omega)
  intro k
  apply Option.ext
  rintro ⟨r, round⟩
  exact rounds (round + 1) k r round (Nat.lt_succ_self round)

end RevitPy.Greedy
