import RevitPy.ApiTransactions

/-!
# Committing a group

A group commits its members one after the other. Where one fails, the members before it
are rolled back, but a committed transaction is not rolled back by its method, and the
members after it are left as they are.
-/

namespace RevitPy.Api
variable {σ η : Type} {p : Provider σ η}

/-! ## The members one after the other -/

/-- Every member commits in its turn. -/
def AllCommit (p : Provider σ η) : List (Transaction σ η) → σ → Prop
  | [], _ => True
  | t :: rest, s => t.Commits p s ∧ AllCommit p rest (t.committed p s)

theorem run_each_commits {members : List (Transaction σ η)} {s : σ} (commit : AllCommit p members s) :
    (run_each (Transaction.commit p) members s).1 = .returned () := by
  induction members generalizing s with
  | nil => rfl
  | cons t rest ih =>
    rw [run_each, Transaction.commit_of_commits commit.1]
    exact ih commit.2

/-- A member that commits is the first of those done, and is committed. -/
theorem run_each_first {t : Transaction σ η} {s : σ} (commits : t.Commits p s) (rest : List (Transaction σ η)) :
    ∃ committed done, committed._status = .COMMITTED ∧ (run_each (Transaction.commit p) (t :: rest) s).2.1.1 = committed :: done := by
  rw [run_each, Transaction.commit_of_commits commits]
  exact ⟨_, _, rfl, rfl⟩

/-- Where not all members commit, the method of the group stops at one of them. -/
theorem run_each_fails {members : List (Transaction σ η)} (started : ∀ t ∈ members, t._status = .STARTED) {s : σ}
    (fails : ¬AllCommit p members s) : (run_each (Transaction.commit p) members s).1 ≠ .returned () := by
  induction members generalizing s with
  | nil => exact absurd trivial fails
  | cons t rest ih =>
    rw [run_each]
    by_cases commits : t.Commits p s
    · rw [Transaction.commit_of_commits commits]
      exact ih (fun u member => started u (List.mem_cons_of_mem _ member)) fun later => fails ⟨commits, later⟩
    · have raises := (Transaction.commit_of_not_commits (started t List.mem_cons_self) commits).1
      match answer : t.commit p s with
      | (.returned (), t', s') =>
        rw [answer] at raises
        exact absurd rfl raises
      | (.raised e, t', s') => exact nofun
      | (.interrupted e, t', s') => exact nofun

/-- A committed transaction is not rolled back. -/
theorem rollback_logged_committed {t : Transaction σ η} (committed : t._status = .COMMITTED) (s : σ) :
    TransactionGroup.rollback_logged p t s = (.returned (), t, s) := by
  have outside : t._status ≠ .STARTED ∧ t._status ≠ .FAILED := by simp [committed]
  rw [TransactionGroup.rollback_logged, Transaction.rollback, if_pos outside]

namespace TransactionGroup
variable {g : TransactionGroup σ η} {s : σ}

/-- If the commit of the group does not return, no member is left committed or started. -/
def AllOrNothing (p : Provider σ η) (g : TransactionGroup σ η) (s : σ) : Prop :=
  (g.commit_all p s).1 ≠ .returned () → ∀ t ∈ (g.commit_all p s).2.1._transactions, t.Settled

/-! ## Where the commit stops -/

theorem commit_all_commits (started : g._status = .STARTED) (commit : AllCommit p g._transactions s) :
    (g.commit_all p s).1 = .returned () := by
  have returned := run_each_commits commit
  unfold commit_all
  rw [if_neg (not_not.mpr started)]
  match answer : run_each (Transaction.commit p) g._transactions s with
  | (.returned (), (committed, left), s') => rfl
  | (.raised e, (committed, left), s') =>
    rw [answer] at returned
    cases returned
  | (.interrupted e, (committed, left), s') =>
    rw [answer] at returned
    cases returned

/-- A first member that commits stays committed when a later one fails. -/
theorem commit_all_later {t : Transaction σ η} {rest : List (Transaction σ η)} (members : g._transactions = t :: rest)
    (started : g._status = .STARTED) (commits : t.Commits p s)
    (fails : (run_each (Transaction.commit p) g._transactions s).1 ≠ .returned ()) :
    (g.commit_all p s).1 ≠ .returned () ∧ ∃ u ∈ (g.commit_all p s).2.1._transactions, u._status = .COMMITTED := by
  obtain ⟨committed, done, status, first⟩ := run_each_first commits rest
  rw [← members] at first
  unfold commit_all
  rw [if_neg (not_not.mpr started)]
  match answer : run_each (Transaction.commit p) g._transactions s with
  | (.returned (), (before, left), s') =>
    rw [answer] at fails
    exact absurd rfl fails
  | (.interrupted e, (before, left), s') =>
    rw [answer] at first
    obtain rfl : before = committed :: done := first
    exact ⟨nofun, committed, List.mem_append_left _ List.mem_cons_self, status⟩
  | (.raised e, (before, left), s') =>
    rw [answer] at first
    obtain rfl : before = committed :: done := first
    have kept : ∃ later, (run_each (rollback_logged p) (committed :: done) s').2.1.1 = committed :: later := by
      rw [run_each, rollback_logged_committed status]
      exact ⟨_, rfl⟩
    obtain ⟨later, kept⟩ := kept
    simp only
    match rolled : run_each (rollback_logged p) (committed :: done) s' with
    | (.returned (), (finished, after), s'') =>
      rw [rolled] at kept
      obtain rfl : finished = committed :: later := kept
      exact ⟨nofun, committed, by simp, status⟩
    | (.raised e, (finished, after), s'') =>
      rw [rolled] at kept
      obtain rfl : finished = committed :: later := kept
      exact ⟨nofun, committed, by simp, status⟩
    | (.interrupted e, (finished, after), s'') =>
      rw [rolled] at kept
      obtain rfl : finished = committed :: later := kept
      exact ⟨nofun, committed, by simp, status⟩

/-- A first member that fails leaves the members after it as they are. -/
theorem commit_all_first {t : Transaction σ η} {rest : List (Transaction σ η)} (members : g._transactions = t :: rest)
    (started : g._status = .STARTED) (fails : (t.commit p s).1 ≠ .returned ()) :
    (g.commit_all p s).1 ≠ .returned () ∧ (g.commit_all p s).2.1._transactions = (t.commit p s).2.1 :: rest := by
  unfold commit_all
  rw [if_neg (not_not.mpr started), members, run_each]
  match answer : t.commit p s with
  | (.returned (), t', s') =>
    rw [answer] at fails
    exact absurd rfl fails
  | (.raised e, t', s') => exact ⟨nofun, rfl⟩
  | (.interrupted e, t', s') => exact ⟨nofun, rfl⟩

/-- A group whose first member fails must have no other, and not be interrupted. -/
theorem all_or_nothing_first {t : Transaction σ η} {rest : List (Transaction σ η)} (members : g._transactions = t :: rest)
    (started : g._status = .STARTED) (members_started : ∀ u ∈ t :: rest, u._status = .STARTED) (fails : ¬t.Commits p s) :
    g.AllOrNothing p s ↔ rest = [] ∧ ¬t.Interrupted p s := by
  obtain ⟨stops, settled⟩ := Transaction.commit_of_not_commits (members_started t List.mem_cons_self) fails
  obtain ⟨raises, left⟩ := commit_all_first members started stops
  unfold AllOrNothing
  rw [left]
  constructor
  · intro nothing
    cases rest with
    | nil => exact ⟨rfl, settled.mp (nothing raises _ List.mem_cons_self)⟩
    | cons u later =>
      have standing : u._status = .STARTED := members_started u (List.mem_cons_of_mem _ List.mem_cons_self)
      exact absurd standing (nothing raises u (List.mem_cons_of_mem _ List.mem_cons_self)).2
  · rintro ⟨rfl, quiet⟩ _ u member
    obtain rfl := List.mem_singleton.mp member
    exact settled.mpr quiet

/-- A provider that counts its transactions and refuses to commit the second one. -/
def second_refused : Provider Nat Nat where
  start_transaction _ s := (.returned (some (s + 1)), s + 1)
  commit_transaction handle s := (.returned (decide (handle ≠ some 2)), s)
  rollback_transaction _ s := (.returned true, s)
  truthy _ := true

def two_members : TransactionGroup Nat Nat :=
  (start_all second_refused ((add_transaction (add_transaction {} "first" false).2 "second" false).2) 0).2.1

end TransactionGroup

end RevitPy.Api
