import RevitPy.GroupCommit

/-!
# Transactions and groups as context managers

A provider's transaction is open from the moment it is returned until it is passed to the
provider's commit or rollback. A scope closes it unless the exit does not get there: an
operation may be interrupted, the handle may be falsy, or a group may have stopped before.
-/

namespace RevitPy.Api
variable {σ η : Type}

namespace Transaction
variable (p : Provider σ η)

/-- What the provider returned has not been passed back. -/
def Open (t : Transaction σ η) : Prop := t.returned = true ∧ t.passed = false

/-- A rollback calls the provider. -/
def RollsBack (t : Transaction σ η) : Prop := (t._status = .STARTED ∨ t._status = .FAILED) ∧ t.has_handle p

/-- The operations return, or one raises an `Exception` and there is a handle to roll back. -/
def GetsThrough (t : Transaction σ η) (s : σ) : Prop :=
  match (run_operations t._operations s).1 with
  | .returned () => True
  | .raised _ => t.has_handle p
  | .interrupted _ => False

/-- A commit calls the provider. -/
def CommitCalls (t : Transaction σ η) (s : σ) : Prop := t._status = .STARTED ∧ t.GetsThrough p s

variable {p} {t : Transaction σ η} {s : σ}

/-! ## What closes a transaction -/

theorem open_rolled_back (answer : Outcome Unit × σ) : (t.rolled_back answer).2.1.Open ↔ t.Open := by
  match answer with
  | (.returned (), s') => exact Iff.rfl
  | (.raised e, s') => exact Iff.rfl
  | (.interrupted e, s') => exact Iff.rfl

theorem open_rollback : (t.rollback p s).2.1.Open ↔ t.Open ∧ ¬t.RollsBack p := by
  unfold rollback RollsBack
  by_cases outside : t._status ≠ .STARTED ∧ t._status ≠ .FAILED
  · rw [if_pos outside]
    have none_runs : ¬(t._status = .STARTED ∨ t._status = .FAILED) := not_or.mpr outside
    simp [none_runs]
  · rw [if_neg outside]
    have runs : t._status = .STARTED ∨ t._status = .FAILED := by
      by_contra neither
      exact outside (not_or.mp neither)
    cases handle : t.has_handle p with
    | false => simpa using open_rolled_back (.returned (), s)
    | true =>
      have passed : ¬(Transaction.Open { t with passed := true }) := fun left => nomatch left.2
      simp only [if_true, runs, and_self, not_true_eq_false, and_false, iff_false]
      exact fun left => passed ((open_rolled_back _).mp left)

theorem open_commit_failed (message : String) (started : t._status = .STARTED) :
    (t.commit_failed p message s).2.1.Open ↔ t.Open ∧ ¬t.has_handle p := by
  rw [commit_failed_started message started, open_rollback]
  simp [RollsBack, started]

theorem open_commit : (t.commit p s).2.1.Open ↔ t.Open ∧ ¬t.CommitCalls p s := by
  unfold commit CommitCalls GetsThrough
  by_cases started : t._status = .STARTED
  · rw [if_neg (not_not.mpr started)]
    match operations : run_operations t._operations s with
    | (.interrupted e, s') => simp
    | (.raised e, s') =>
      simp only [operation_failed_started e started]
      rw [open_rollback]
      simp [RollsBack, started]
    | (.returned (), s') =>
      have passed : ¬(Transaction.Open { t with passed := true }) := fun left => nomatch left.2
      have closed (message : String) (s'' : σ) :
          ¬(commit_failed p message { t with passed := true } s'').2.1.Open :=
        fun left => passed ((open_commit_failed (t := { t with passed := true }) message started).mp left).1
      refine iff_of_false ?_ fun both => both.2 ⟨started, trivial⟩
      simp only
      match p.commit_transaction t._transaction s' with
      | (.interrupted e, s'') => exact passed
      | (.raised e, s'') => exact closed e s''
      | (.returned false, s'') => exact closed _ s''
      | (.returned true, s'') => exact fun left => nomatch left.2
  · rw [if_pos started]
    simp [started]

/-- A start that fails leaves what was open. -/
theorem open_start_failed (failed : (t.start p s).1 ≠ .returned ()) : (t.start p s).2.1.Open ↔ t.Open := by
  unfold start at failed ⊢
  by_cases other : t._status ≠ .NOT_STARTED
  · rw [if_pos other]
  · rw [if_neg other] at failed ⊢
    match answer : p.start_transaction t.name s with
    | (.returned handle, s') =>
      rw [answer] at failed
      exact absurd rfl failed
    | (.raised e, s') => exact Iff.rfl
    | (.interrupted e, s') => exact Iff.rfl

/-- A start that returns opens a transaction. -/
theorem open_start (returned : (t.start p s).1 = .returned ()) : (t.start p s).2.1.Open := by
  unfold start at returned ⊢
  by_cases other : t._status ≠ .NOT_STARTED
  · rw [if_pos other] at returned
    cases returned
  · rw [if_neg other] at returned ⊢
    match answer : p.start_transaction t.name s with
    | (.returned handle, s') => exact ⟨rfl, rfl⟩
    | (.raised e, s') =>
      rw [answer] at returned
      cases returned
    | (.interrupted e, s') =>
      rw [answer] at returned
      cases returned

/-- The exit calls the provider with what is open. -/
def ExitCloses (p : Provider σ η) (raises : Bool) (t : Transaction σ η) (s : σ) : Prop :=
  t.Open → if ¬raises ∧ t.auto_commit then t.CommitCalls p s else t.RollsBack p

theorem exit_closes (raises : Bool) : ¬(t.exit p raises s).2.1.Open ↔ t.ExitCloses p raises s := by
  unfold exit ExitCloses
  split
  · rw [open_commit, not_and, not_not]
  · rw [open_rollback, not_and, not_not]

end Transaction

/-! ## The scope of a transaction -/

/-- A call of a method of a transaction, whose exceptions are caught. -/
inductive TransactionCall (σ : Type)
  | add_operation (operation : Callback σ)
  | add_rollback_handler (handler : Callback σ)
  | add_commit_handler (handler : Callback σ)
  | start
  | commit
  | rollback

namespace Transaction
variable (p : Provider σ η)

def call (state : Transaction σ η × σ) : TransactionCall σ → Transaction σ η × σ
  | .add_operation operation => ((state.1.add_operation operation).2, state.2)
  | .add_rollback_handler handler => (state.1.add_rollback_handler handler, state.2)
  | .add_commit_handler handler => (state.1.add_commit_handler handler, state.2)
  | .start => (state.1.start p state.2).2
  | .commit => (state.1.commit p state.2).2
  | .rollback => (state.1.rollback p state.2).2

def calls (state : Transaction σ η × σ) (made : List (TransactionCall σ)) : Transaction σ η × σ := made.foldl (call p) state

/-- `with transaction: body`, and what is left when the exit or a failing entry is done. -/
def scope (body : List (TransactionCall σ)) (raises : Bool) (t : Transaction σ η) (s : σ) : Transaction σ η :=
  match t.start p s with
  | (.returned (), t, s) => ((calls p (t, s) body).1.exit p raises (calls p (t, s) body).2).2.1
  | (_, t, _) => t

/-- The entry finds nothing open where it fails, and else the exit closes what is open. -/
def ScopeCloses (body : List (TransactionCall σ)) (raises : Bool) (t : Transaction σ η) (s : σ) : Prop :=
  match t.start p s with
  | (.returned (), t, s) => (calls p (t, s) body).1.ExitCloses p raises (calls p (t, s) body).2
  | _ => ¬t.Open

variable {p} {t : Transaction σ η} {s : σ}

theorem scope_closes_iff (body : List (TransactionCall σ)) (raises : Bool) :
    ¬(t.scope p body raises s).Open ↔ t.ScopeCloses p body raises s := by
  have failed := open_start_failed (t := t) (p := p) (s := s)
  unfold scope ScopeCloses
  match answer : t.start p s with
  | (.returned (), t', s') => exact exit_closes raises
  | (.raised e, t', s') =>
    rw [answer] at failed
    exact not_congr (failed nofun)
  | (.interrupted e, t', s') =>
    rw [answer] at failed
    exact not_congr (failed nofun)

end Transaction

/-! ## The scope of a group -/

/-- A call of a method of a group or of one of its members, whose exceptions are caught. -/
inductive GroupCall (σ : Type)
  | add_transaction (name : String) (auto_commit : Bool)
  | start_all
  | commit_all
  | rollback_all
  | member (i : Nat) (call : TransactionCall σ)

/-- None of the transactions is open. -/
def NoneOpen (members : List (Transaction σ η)) : Prop := ∀ t ∈ members, ¬t.Open

/-- Every open member is rolled back with a handle, up to one whose rollback is interrupted,
    after which none is open. -/
def RollbackCloses (p : Provider σ η) : List (Transaction σ η) → σ → Prop
  | [], _ => True
  | t :: rest, s => (t.Open → t.RollsBack p) ∧
      if (t.rollback p s).1.is_interrupted then NoneOpen rest else RollbackCloses p rest (t.rollback p s).2.2

/-- Every open member gets to the provider's commit or rollback, up to the first that does
    not commit, after which none is open. -/
def CommitCloses (p : Provider σ η) : List (Transaction σ η) → σ → Prop
  | [], _ => True
  | t :: rest, s => (t.Open → t.CommitCalls p s) ∧
      (t.Commits p s → CommitCloses p rest (t.committed p s)) ∧ (¬t.Commits p s → NoneOpen rest)

namespace TransactionGroup
variable (p : Provider σ η)

def call (state : TransactionGroup σ η × σ) : GroupCall σ → TransactionGroup σ η × σ
  | .add_transaction name auto_commit => ((state.1.add_transaction name auto_commit).2, state.2)
  | .start_all => (state.1.start_all p state.2).2
  | .commit_all => (state.1.commit_all p state.2).2
  | .rollback_all => (state.1.rollback_all p state.2).2
  | .member i made => match state.1._transactions[i]? with
    | none => state
    | some t =>
      let (t, s) := Transaction.call p (t, state.2) made
      ({ state.1 with _transactions := state.1._transactions.set i t }, s)

def calls (state : TransactionGroup σ η × σ) (made : List (GroupCall σ)) : TransactionGroup σ η × σ := made.foldl (call p) state

/-- `with group: body`, and what is left when the exit or a failing entry is done. -/
def scope (body : List (GroupCall σ)) (raises : Bool) (g : TransactionGroup σ η) (s : σ) : TransactionGroup σ η :=
  match g.start_all p s with
  | (.returned (), g, s) => ((calls p (g, s) body).1.exit p raises (calls p (g, s) body).2).2.1
  | (_, g, _) => g

/-- The rollback of the group closes what is open. -/
def RollbackAllCloses (g : TransactionGroup σ η) (s : σ) : Prop :=
  if g._status ≠ .STARTED ∧ g._status ≠ .FAILED then NoneOpen g._transactions else RollbackCloses p g._transactions s

/-- The exit closes what is open. -/
def ExitCloses (raises : Bool) (g : TransactionGroup σ η) (s : σ) : Prop :=
  if raises then g.RollbackAllCloses p s
  else if g._status ≠ .STARTED then NoneOpen g._transactions
  else CommitCloses p g._transactions s

/-- The entry of a group that was started before finds nothing open. Where a start raises an
    `Exception`, the rollback closes what is open, and where one is interrupted it is the first. -/
def EntryCloses (g : TransactionGroup σ η) (s : σ) : Prop :=
  if g._status ≠ .NOT_STARTED then NoneOpen g._transactions
  else match run_each (Transaction.start p) g._transactions s with
    | (.returned (), _, _) => True
    | (.raised _, (done, left), s) => RollbackCloses p (done ++ left) s
    | (.interrupted _, (done, _), _) => done = [] ∧ NoneOpen g._transactions

def ScopeCloses (body : List (GroupCall σ)) (raises : Bool) (g : TransactionGroup σ η) (s : σ) : Prop :=
  match g.start_all p s with
  | (.returned (), g, s) => (calls p (g, s) body).1.ExitCloses p raises (calls p (g, s) body).2
  | _ => g.EntryCloses p s

end TransactionGroup

section
variable {p : Provider σ η}

theorem noneOpen_cons {t : Transaction σ η} {rest : List (Transaction σ η)} : NoneOpen (t :: rest) ↔ ¬t.Open ∧ NoneOpen rest :=
  List.forall_mem_cons

/-- What is left open when members were rolled back one after the other. -/
theorem noneOpen_rollbacks (members : List (Transaction σ η)) (s : σ) :
    NoneOpen ((run_each (TransactionGroup.rollback_logged p) members s).2.1.1 ++
        (run_each (TransactionGroup.rollback_logged p) members s).2.1.2) ↔ RollbackCloses p members s := by
  induction members generalizing s with
  | nil => simp [run_each, RollbackCloses, NoneOpen]
  | cons t rest ih =>
    have closed : ¬(t.rollback p s).2.1.Open ↔ (t.Open → t.RollsBack p) := by rw [Transaction.open_rollback, not_and, not_not]
    rw [run_each, TransactionGroup.rollback_logged, RollbackCloses, ← closed]
    rcases t.rollback p s with ⟨⟨⟩ | e | e, t', s'⟩
    · simp only [List.cons_append, noneOpen_cons, ih s']
      exact Iff.rfl
    · simp only [List.cons_append, noneOpen_cons, ih s']
      exact Iff.rfl
    · simp only [List.nil_append, noneOpen_cons]
      exact Iff.rfl

/-- What is left open when members committed one after the other. -/
theorem noneOpen_commits (members : List (Transaction σ η)) (s : σ) :
    NoneOpen ((run_each (Transaction.commit p) members s).2.1.1 ++ (run_each (Transaction.commit p) members s).2.1.2) ↔
      CommitCloses p members s := by
  induction members generalizing s with
  | nil => simp [run_each, CommitCloses, NoneOpen]
  | cons t rest ih =>
    have closed : ¬(t.commit p s).2.1.Open ↔ (t.Open → t.CommitCalls p s) := by rw [Transaction.open_commit, not_and, not_not]
    rw [run_each, CommitCloses, ← closed]
    by_cases commits : t.Commits p s
    · rw [Transaction.commit_of_commits commits]
      simp only [List.cons_append, noneOpen_cons, ih, commits, true_implies, not_true_eq_false, false_implies, and_true]
    · have fails := Transaction.commit_ne_of_not_commits commits
      rcases answer : t.commit p s with ⟨⟨⟩ | e | e, t', s'⟩
      · rw [answer] at fails
        exact absurd rfl fails
      · simp [noneOpen_cons, commits]
      · simp [noneOpen_cons, commits]

/-- The members for which the commit returned are committed, and their rollback does nothing. -/
theorem rollbacks_of_commits (members : List (Transaction σ η)) (s : σ) (s' : σ) :
    run_each (TransactionGroup.rollback_logged p) (run_each (Transaction.commit p) members s).2.1.1 s' =
      (.returned (), ((run_each (Transaction.commit p) members s).2.1.1, []), s') := by
  induction members generalizing s with
  | nil => rfl
  | cons t rest ih =>
    rw [run_each]
    by_cases commits : t.Commits p s
    · rw [Transaction.commit_of_commits commits]
      simp only
      rw [run_each, rollback_logged_committed rfl]
      simp only [ih]
    · have fails := Transaction.commit_ne_of_not_commits commits
      rcases answer : t.commit p s with ⟨⟨⟩ | e | e, t', s''⟩
      · rw [answer] at fails
        exact absurd rfl fails
      · rfl
      · rfl

/-- A start that is interrupted leaves open what was started before it. -/
theorem noneOpen_starts {members : List (Transaction σ η)} {s : σ} {e : String}
    (interrupted : (run_each (Transaction.start p) members s).1 = .interrupted e) :
    NoneOpen ((run_each (Transaction.start p) members s).2.1.1 ++ (run_each (Transaction.start p) members s).2.1.2) ↔
      (run_each (Transaction.start p) members s).2.1.1 = [] ∧ NoneOpen members := by
  cases members with
  | nil => cases interrupted
  | cons t rest =>
    have opened := Transaction.open_start (t := t) (p := p) (s := s)
    have failed := Transaction.open_start_failed (t := t) (p := p) (s := s)
    rw [run_each] at interrupted ⊢
    rcases answer : t.start p s with ⟨⟨⟩ | e | e, t', s'⟩
    · rw [answer] at opened
      simp only [List.cons_append, noneOpen_cons, opened rfl, not_true_eq_false, false_and, reduceCtorEq]
    · rw [answer] at interrupted
      cases interrupted
    · rw [answer] at failed
      simp only [List.nil_append, noneOpen_cons, true_and]
      exact and_congr_left' (not_congr (failed (by simp)))

/-! ## What a group leaves open -/

namespace TransactionGroup
variable {g : TransactionGroup σ η} {s : σ}

theorem noneOpen_rollback_all : NoneOpen (g.rollback_all p s).2.1._transactions ↔ g.RollbackAllCloses p s := by
  have rolled := noneOpen_rollbacks (p := p) g._transactions s
  unfold rollback_all RollbackAllCloses
  split
  · exact Iff.rfl
  · match answer : run_each (rollback_logged p) g._transactions s with
    | (.returned (), (done, left), s') => rwa [answer] at rolled
    | (.raised e, (done, left), s') => rwa [answer] at rolled
    | (.interrupted e, (done, left), s') => rwa [answer] at rolled

theorem noneOpen_commit_all : NoneOpen (g.commit_all p s).2.1._transactions ↔
    if g._status ≠ .STARTED then NoneOpen g._transactions else CommitCloses p g._transactions s := by
  have committed := noneOpen_commits (p := p) g._transactions s
  have rolled := rollbacks_of_commits (p := p) g._transactions s
  unfold commit_all
  split
  · exact Iff.rfl
  · match answer : run_each (Transaction.commit p) g._transactions s with
    | (.returned (), (done, left), s') => rwa [answer] at committed
    | (.interrupted e, (done, left), s') => rwa [answer] at committed
    | (.raised e, (done, left), s') =>
      rw [answer] at committed rolled
      have undone := rolled s'
      simp only at undone committed ⊢
      rw [undone]
      simpa using committed

theorem noneOpen_exit (raises : Bool) : NoneOpen (g.exit p raises s).2.1._transactions ↔ g.ExitCloses p raises s := by
  unfold exit ExitCloses
  cases raises with
  | false => exact noneOpen_commit_all
  | true => exact noneOpen_rollback_all

/-- What an entry that fails leaves open. -/
theorem noneOpen_entry (failed : (g.start_all p s).1 ≠ .returned ()) :
    NoneOpen (g.start_all p s).2.1._transactions ↔ g.EntryCloses p s := by
  have starts (e : String) (interrupted : (run_each (Transaction.start p) g._transactions s).1 = .interrupted e) :=
    noneOpen_starts interrupted
  unfold start_all at failed ⊢
  unfold EntryCloses
  split
  · exact Iff.rfl
  · next fresh =>
    rw [if_neg fresh] at failed
    match answer : run_each (Transaction.start p) g._transactions s with
    | (.returned (), (done, left), s') =>
      rw [answer] at failed
      exact absurd rfl failed
    | (.interrupted e, (done, left), s') =>
      rw [answer] at starts
      exact starts e rfl
    | (.raised e, (done, left), s') =>
      have rolled := noneOpen_rollback_all (p := p) (g := ⟨done ++ left, .STARTED⟩) (s := s')
      simp only
      match answer' : rollback_all p ⟨done ++ left, .STARTED⟩ s' with
      | (.returned (), g', s'') => rwa [answer'] at rolled
      | (.raised e', g', s'') => rwa [answer'] at rolled
      | (.interrupted e', g', s'') => rwa [answer'] at rolled

theorem scope_closes_iff (body : List (GroupCall σ)) (raises : Bool) :
    NoneOpen (g.scope p body raises s)._transactions ↔ g.ScopeCloses p body raises s := by
  have failed := noneOpen_entry (g := g) (p := p) (s := s)
  unfold scope ScopeCloses
  match answer : g.start_all p s with
  | (.returned (), g', s') => exact noneOpen_exit raises
  | (.raised e, g', s') =>
    rw [answer] at failed
    exact failed nofun
  | (.interrupted e, g', s') =>
    rw [answer] at failed
    exact failed nofun

end TransactionGroup

end

/-! ## Every use of a scope -/

/-- A provider that counts its transactions and refuses to commit. -/
def refusing : Provider Nat Nat where
  start_transaction _ s := (.returned (some (s + 1)), s + 1)
  commit_transaction _ s := (.returned false, s)
  rollback_transaction _ s := (.returned true, s)
  truthy _ := true

end RevitPy.Api
