import Mathlib.Data.List.Basic
import RevitPy.Outcome

/-!
# Transactions of the provider

A transaction starts, commits and rolls back by calls of a provider, and runs its
operations when it commits. A group does so with its members one after the other.
-/

namespace RevitPy.Api

inductive TransactionStatus
  | NOT_STARTED
  | STARTED
  | COMMITTED
  | ROLLED_BACK
  | FAILED
  deriving DecidableEq

def TransactionStatus.text : TransactionStatus → String
  | .NOT_STARTED => "TransactionStatus.NOT_STARTED"
  | .STARTED => "TransactionStatus.STARTED"
  | .COMMITTED => "TransactionStatus.COMMITTED"
  | .ROLLED_BACK => "TransactionStatus.ROLLED_BACK"
  | .FAILED => "TransactionStatus.FAILED"

/-- The provider in a world that its calls, the operations and the handlers change. A
    handle is `none` for Python's `None`, and the other handles may be falsy too. -/
structure Provider (σ η : Type) where
  start_transaction : String → σ → Outcome (Option η) × σ
  commit_transaction : Option η → σ → Outcome Bool × σ
  rollback_transaction : Option η → σ → Outcome Bool × σ
  truthy : η → Bool

/-- An operation or a handler. -/
abbrev Callback (σ : Type) := σ → Outcome Unit × σ

/-- A transaction, whether `start_transaction` returned for it, and whether what it
    returned has been passed to `commit_transaction` or `rollback_transaction`. -/
structure Transaction (σ η : Type) where
  name : String
  auto_commit : Bool
  _transaction : Option η := none
  _status : TransactionStatus := .NOT_STARTED
  _operations : List (Callback σ) := []
  _rollback_handlers : List (Callback σ) := []
  _commit_handlers : List (Callback σ) := []
  returned : Bool := false
  passed : Bool := false

variable {σ η : Type}

/-- Operations run one after the other, up to the first that fails. -/
def run_operations : List (Callback σ) → σ → Outcome Unit × σ
  | [], s => (.returned (), s)
  | operation :: rest, s => match operation s with
    | (.returned (), s) => run_operations rest s
    | failed => failed

/-- Handlers run one after the other, and an `Exception` of one is logged. -/
def run_handlers : List (Callback σ) → σ → Outcome Unit × σ
  | [], s => (.returned (), s)
  | handler :: rest, s => match handler s with
    | (.interrupted e, s) => (.interrupted e, s)
    | (_, s) => run_handlers rest s

namespace Transaction
variable (p : Provider σ η)

/-- Check if transaction is active. -/
def is_active (t : Transaction σ η) : Bool := t._status = .STARTED

/-- Add an operation to be executed in this transaction. -/
def add_operation (t : Transaction σ η) (operation : Callback σ) : Outcome Unit × Transaction σ η :=
  if ¬t.is_active then (.raised "Cannot add operation to inactive transaction", t)
  else (.returned (), { t with _operations := t._operations ++ [operation] })

/-- Add a rollback handler. -/
def add_rollback_handler (t : Transaction σ η) (handler : Callback σ) : Transaction σ η :=
  { t with _rollback_handlers := t._rollback_handlers ++ [handler] }

/-- Add a commit handler. -/
def add_commit_handler (t : Transaction σ η) (handler : Callback σ) : Transaction σ η :=
  { t with _commit_handlers := t._commit_handlers ++ [handler] }

/-- Start the transaction. -/
def start (t : Transaction σ η) (s : σ) : Outcome Unit × Transaction σ η × σ :=
  if t._status ≠ .NOT_STARTED then (.raised ("Transaction already started with status: " ++ t._status.text), t, s)
  else match p.start_transaction t.name s with
    | (.returned handle, s) =>
      (.returned (),
        { t with
          _transaction := handle
          _status := .STARTED
          returned := true
          passed := false }, s)
    | (.raised e, s) => (.raised ("Failed to start transaction: " ++ e), { t with _status := .FAILED }, s)
    | (.interrupted e, s) => (.interrupted e, t, s)

/-- `if self._transaction`. -/
def has_handle (t : Transaction σ η) : Bool := t._transaction.any p.truthy

/-- The end of a rollback, once the provider has been called if there is a handle. -/
def rolled_back (t : Transaction σ η) : Outcome Unit × σ → Outcome Unit × Transaction σ η × σ
  | (.returned (), s) =>
    let (handled, s) := run_handlers t._rollback_handlers s
    (handled, { t with _status := .ROLLED_BACK }, s)
  | (.raised e, s) => (.raised ("Failed to rollback transaction: " ++ e), { t with _status := .FAILED }, s)
  | (.interrupted e, s) => (.interrupted e, t, s)

/-- The provider's rollback, whose answer is only logged. -/
def provider_rollback (t : Transaction σ η) (s : σ) : Outcome Unit × σ :=
  match p.rollback_transaction t._transaction s with
  | (.returned _, s) => (.returned (), s)
  | (.raised e, s) => (.raised e, s)
  | (.interrupted e, s) => (.interrupted e, s)

/-- Rollback the transaction. -/
def rollback (t : Transaction σ η) (s : σ) : Outcome Unit × Transaction σ η × σ :=
  if t._status ≠ .STARTED ∧ t._status ≠ .FAILED then (.returned (), t, s)
  else if t.has_handle p then { t with passed := true }.rolled_back (t.provider_rollback p s)
  else t.rolled_back (.returned (), s)

/-- The handler around a commit: a transaction that is still started is rolled back, and
    the exception is raised again unless the rollback raises itself. -/
def commit_failed (message : String) (t : Transaction σ η) (s : σ) : Outcome Unit × Transaction σ η × σ :=
  if t._status = .STARTED then match t.rollback p s with
    | (.returned (), t, s) => (.raised message, t, s)
    | failed => failed
  else (.raised message, t, s)

/-- The handler around an operation, inside the handler around the commit. -/
def operation_failed (e : String) (t : Transaction σ η) (s : σ) : Outcome Unit × Transaction σ η × σ :=
  match t.rollback p s with
  | (.returned (), t, s) => t.commit_failed p ("Operation failed: " ++ e) s
  | (.raised message, t, s) => t.commit_failed p message s
  | (.interrupted e, t, s) => (.interrupted e, t, s)

/-- Commit the transaction. -/
def commit (t : Transaction σ η) (s : σ) : Outcome Unit × Transaction σ η × σ :=
  if t._status ≠ .STARTED then (.raised ("Cannot commit transaction with status: " ++ t._status.text), t, s)
  else match run_operations t._operations s with
    | (.interrupted e, s) => (.interrupted e, t, s)
    | (.raised e, s) => t.operation_failed p e s
    | (.returned (), s) =>
      let committing := { t with passed := true }
      match p.commit_transaction t._transaction s with
      | (.interrupted e, s) => (.interrupted e, committing, s)
      | (.raised e, s) => committing.commit_failed p e s
      | (.returned false, s) => committing.commit_failed p "Provider failed to commit transaction" s
      | (.returned true, s) =>
        let (handled, s) := run_handlers t._commit_handlers s
        (handled, { committing with _status := .COMMITTED }, s)

/-- Context manager exit, where the body has raised or not. -/
def exit (raises : Bool) (t : Transaction σ η) (s : σ) : Outcome Unit × Transaction σ η × σ :=
  if ¬raises ∧ t.auto_commit then t.commit p s else t.rollback p s

/-! ## When a commit succeeds, and what stops it -/

/-- The world in which the operations leave the provider's commit. -/
def operated (t : Transaction σ η) (s : σ) : σ := (run_operations t._operations s).2

/-- The world after the provider's commit and the handlers. -/
def committed (t : Transaction σ η) (s : σ) : σ :=
  (run_handlers t._commit_handlers (p.commit_transaction t._transaction (t.operated s)).2).2

/-- A started transaction whose operations and handlers return, and which the provider commits. -/
structure Commits (t : Transaction σ η) (s : σ) : Prop where
  started : t._status = .STARTED
  operations : (run_operations t._operations s).1 = .returned ()
  provider : (p.commit_transaction t._transaction (t.operated s)).1 = .returned true
  handlers : (run_handlers t._commit_handlers (p.commit_transaction t._transaction (t.operated s)).2).1 = .returned ()

/-- The provider's rollback is called and is interrupted. -/
def RollbackInterrupted (t : Transaction σ η) (s : σ) : Prop :=
  t.has_handle p ∧ (p.rollback_transaction t._transaction s).1.is_interrupted

/-- What runs in a commit is interrupted: an operation, the provider's commit or rollback,
    or a handler of the commit. -/
def Interrupted (t : Transaction σ η) (s : σ) : Prop :=
  match (run_operations t._operations s).1 with
  | .interrupted _ => True
  | .raised _ => t.RollbackInterrupted p (t.operated s)
  | .returned () => match p.commit_transaction t._transaction (t.operated s) with
    | (.interrupted _, _) => True
    | (.returned true, s) => (run_handlers t._commit_handlers s).1.is_interrupted
    | (_, s) => t.RollbackInterrupted p s

variable {p} {t : Transaction σ η} {s : σ}

/-- The handlers return, or one is interrupted. -/
theorem run_handlers_cases (handlers : List (Callback σ)) (s : σ) :
    (run_handlers handlers s).1 = .returned () ∨ ∃ e, (run_handlers handlers s).1 = .interrupted e := by
  induction handlers generalizing s with
  | nil => exact Or.inl rfl
  | cons handler rest ih =>
    rw [run_handlers]
    split
    · next e _ _ => exact Or.inr ⟨e, rfl⟩
    · exact ih _

theorem commit_of_commits (commits : t.Commits p s) :
    t.commit p s =
      (.returned (),
        { t with
          _status := .COMMITTED
          passed := true }, t.committed p s) := by
  have operations : run_operations t._operations s = (.returned (), t.operated s) := Prod.ext commits.operations rfl
  have provider : p.commit_transaction t._transaction (t.operated s) =
      (.returned true, (p.commit_transaction t._transaction (t.operated s)).2) := Prod.ext commits.provider rfl
  unfold commit
  rw [if_neg (not_not.mpr commits.started), operations]
  simp only
  rw [provider]
  simp only [commits.handlers]
  rfl

/-- A rollback gets to the provider, or calls it and then ends by what it answers. -/
theorem rollback_ne_interrupted (open_status : t._status = .STARTED ∨ t._status = .FAILED)
    (quiet : ¬t.RollbackInterrupted p s) :
    (t.rollback p s).2.1._status = .ROLLED_BACK ∨ (t.rollback p s).2.1._status = .FAILED := by
  have runs : ¬(t._status ≠ .STARTED ∧ t._status ≠ .FAILED) := by
    rintro ⟨first, second⟩
    exact open_status.elim first second
  unfold rollback
  rw [if_neg runs]
  cases handle : t.has_handle p with
  | false => exact Or.inl rfl
  | true =>
    simp only [if_true]
    unfold provider_rollback
    match answer : p.rollback_transaction t._transaction s with
    | (.returned _, s') => exact Or.inl rfl
    | (.raised e, s') => exact Or.inr rfl
    | (.interrupted e, s') => exact absurd ⟨handle, by rw [answer]; rfl⟩ quiet

theorem rollback_interrupted (interrupted : t.RollbackInterrupted p s) (started : t._status = .STARTED) :
    (t.rollback p s).2.1._status = .STARTED ∧ (t.rollback p s).1.is_interrupted = true := by
  obtain ⟨handle, interrupted⟩ := interrupted
  unfold rollback
  rw [if_neg (fun outside => outside.1 started), if_pos handle]
  unfold provider_rollback
  match answer : p.rollback_transaction t._transaction s with
  | (.returned _, s') =>
    rw [answer] at interrupted
    cases interrupted
  | (.raised e, s') =>
    rw [answer] at interrupted
    cases interrupted
  | (.interrupted e, s') => exact ⟨started, rfl⟩

/-- Neither committed nor started. -/
def Settled (t : Transaction σ η) : Prop := t._status ≠ .COMMITTED ∧ t._status ≠ .STARTED

theorem settled_rollback (started : t._status = .STARTED) :
    (t.rollback p s).2.1.Settled ↔ ¬t.RollbackInterrupted p s := by
  constructor
  · exact fun settled interrupted => settled.2 (rollback_interrupted interrupted started).1
  · intro quiet
    rcases rollback_ne_interrupted (Or.inl started) quiet with rolled | failed
    · exact ⟨by simp [rolled], by simp [rolled]⟩
    · exact ⟨by simp [failed], by simp [failed]⟩

theorem commit_failed_ne (message : String) (t : Transaction σ η) (s : σ) : (t.commit_failed p message s).1 ≠ .returned () := by
  unfold commit_failed
  split
  · match answer : t.rollback p s with
    | (.returned (), t', s') => exact nofun
    | (.raised e, t', s') => exact nofun
    | (.interrupted e, t', s') => exact nofun
  · exact nofun

/-- A failed commit that is still started is rolled back. -/
theorem commit_failed_started (message : String) (started : t._status = .STARTED) :
    (t.commit_failed p message s).2 = (t.rollback p s).2 := by
  unfold commit_failed
  rw [if_pos started]
  match t.rollback p s with
  | (.returned (), t', s') => rfl
  | (.raised e, t', s') => rfl
  | (.interrupted e, t', s') => rfl

theorem commit_failed_other (message : String) (other : t._status ≠ .STARTED) :
    t.commit_failed p message s = (.raised message, t, s) := if_neg other

theorem operation_failed_ne (e : String) (t : Transaction σ η) (s : σ) : (t.operation_failed p e s).1 ≠ .returned () := by
  unfold operation_failed
  split
  · exact commit_failed_ne _ _ _
  · exact commit_failed_ne _ _ _
  · exact nofun

/-- An operation that fails rolls the transaction back, once. -/
theorem operation_failed_started (e : String) (started : t._status = .STARTED) :
    (t.operation_failed p e s).2 = (t.rollback p s).2 := by
  have settled (quiet : (t.rollback p s).1.is_interrupted = false) : (t.rollback p s).2.1._status ≠ .STARTED := by
    refine ((settled_rollback started).mpr fun interrupted => ?_).2
    rw [(rollback_interrupted interrupted started).2] at quiet
    cases quiet
  unfold operation_failed
  match answer : t.rollback p s with
  | (.returned (), t', s') =>
    rw [answer] at settled
    have kept := congrArg Prod.snd (commit_failed_other (p := p) (s := s') ("Operation failed: " ++ e) (settled rfl))
    exact kept
  | (.raised message, t', s') =>
    rw [answer] at settled
    have kept := congrArg Prod.snd (commit_failed_other (p := p) (s := s') message (settled rfl))
    exact kept
  | (.interrupted e, t', s') => rfl

/-- A started transaction that does not commit raises, and is settled unless it is interrupted. -/
theorem commit_of_not_commits (started : t._status = .STARTED) (fails : ¬t.Commits p s) :
    (t.commit p s).1 ≠ .returned () ∧ ((t.commit p s).2.1.Settled ↔ ¬t.Interrupted p s) := by
  unfold commit Interrupted
  rw [if_neg (not_not.mpr started)]
  match operations : run_operations t._operations s with
  | (.interrupted e, s') => exact ⟨nofun, fun settled => absurd started settled.2, fun quiet => absurd trivial quiet⟩
  | (.raised e, s') =>
    have world : t.operated s = s' := by rw [operated, operations]
    refine ⟨operation_failed_ne e t s', ?_⟩
    simp only [operation_failed_started e started, world]
    exact settled_rollback started
  | (.returned (), s') =>
    have world : t.operated s = s' := by rw [operated, operations]
    have committing : ({ t with passed := true } : Transaction σ η)._status = .STARTED := started
    have same : ({ t with passed := true } : Transaction σ η).RollbackInterrupted p = t.RollbackInterrupted p := rfl
    simp only [world]
    match provider : p.commit_transaction t._transaction s' with
    | (.interrupted e, s'') => exact ⟨nofun, fun settled => absurd started settled.2, fun quiet => absurd trivial quiet⟩
    | (.raised e, s'') =>
      refine ⟨commit_failed_ne _ _ _, ?_⟩
      simp only [commit_failed_started e committing]
      exact settled_rollback committing
    | (.returned false, s'') =>
      refine ⟨commit_failed_ne _ _ _, ?_⟩
      simp only [commit_failed_started _ committing]
      exact settled_rollback committing
    | (.returned true, s'') =>
      rcases run_handlers_cases t._commit_handlers s'' with quiet | ⟨e, interrupted⟩
      · refine absurd ⟨started, by rw [operations], by rw [world, provider], ?_⟩ fails
        rw [world, provider]
        exact quiet
      · refine ⟨by simp [interrupted], ?_⟩
        simp [interrupted, Settled, Outcome.is_interrupted]

/-- A transaction that does not commit raises. -/
theorem commit_ne_of_not_commits (fails : ¬t.Commits p s) : (t.commit p s).1 ≠ .returned () := by
  by_cases started : t._status = .STARTED
  · exact (commit_of_not_commits started fails).1
  · rw [commit, if_pos started]
    exact nofun

end Transaction

/-- Group of transactions that are managed together. -/
structure TransactionGroup (σ η : Type) where
  _transactions : List (Transaction σ η) := []
  _status : TransactionStatus := .NOT_STARTED

/-- A method of the members, one after the other up to the first that does not return:
    those for which it returned, the rest, and the world. -/
def run_each {τ : Type} (method : τ → σ → Outcome Unit × τ × σ) : List τ → σ → Outcome Unit × (List τ × List τ) × σ
  | [], s => (.returned (), ([], []), s)
  | t :: rest, s => match method t s with
    | (.returned (), t, s) =>
      let (result, (done, left), s) := run_each method rest s
      (result, (t :: done, left), s)
    | (failed, t, s) => (failed, ([], t :: rest), s)

namespace TransactionGroup
variable (p : Provider σ η)

/-- Add a new transaction to the group. -/
def add_transaction (g : TransactionGroup σ η) (name : String) (auto_commit : Bool) : Outcome Unit × TransactionGroup σ η :=
  if g._status ≠ .NOT_STARTED then (.raised "Cannot add transaction to started group", g)
  else (.returned (), { g with _transactions := g._transactions ++ [{ name, auto_commit }] })

/-- A rollback whose `Exception` is logged. -/
def rollback_logged (t : Transaction σ η) (s : σ) : Outcome Unit × Transaction σ η × σ :=
  match t.rollback p s with
  | (.raised _, t, s) => (.returned (), t, s)
  | answer => answer

/-- Rollback all transactions in the group. -/
def rollback_all (g : TransactionGroup σ η) (s : σ) : Outcome Unit × TransactionGroup σ η × σ :=
  if g._status ≠ .STARTED ∧ g._status ≠ .FAILED then (.returned (), g, s)
  else match run_each (rollback_logged p) g._transactions s with
    | (.returned (), (done, left), s) => (.returned (), ⟨done ++ left, .ROLLED_BACK⟩, s)
    | (failed, (done, left), s) => (failed, ⟨done ++ left, g._status⟩, s)

/-- Start all transactions in the group. -/
def start_all (g : TransactionGroup σ η) (s : σ) : Outcome Unit × TransactionGroup σ η × σ :=
  if g._status ≠ .NOT_STARTED then (.raised "Transaction group already started", g, s)
  else match run_each (Transaction.start p) g._transactions s with
    | (.returned (), (done, left), s) => (.returned (), ⟨done ++ left, .STARTED⟩, s)
    | (.raised e, (done, left), s) => match rollback_all p ⟨done ++ left, .STARTED⟩ s with
      | (.returned (), g, s) => (.raised ("Failed to start transaction group: " ++ e), g, s)
      | failed => failed
    | (.interrupted e, (done, left), s) => (.interrupted e, ⟨done ++ left, .STARTED⟩, s)

/-- Commit all transactions in the group. -/
def commit_all (g : TransactionGroup σ η) (s : σ) : Outcome Unit × TransactionGroup σ η × σ :=
  if g._status ≠ .STARTED then (.raised "Transaction group not started", g, s)
  else match run_each (Transaction.commit p) g._transactions s with
    | (.returned (), (committed, left), s) => (.returned (), ⟨committed ++ left, .COMMITTED⟩, s)
    | (.raised e, (committed, left), s) => match run_each (rollback_logged p) committed s with
      | (.returned (), (done, rest), s) =>
        (.raised ("Failed to commit transaction group: " ++ e), ⟨done ++ rest ++ left, .FAILED⟩, s)
      | (failed, (done, rest), s) => (failed, ⟨done ++ rest ++ left, g._status⟩, s)
    | (.interrupted e, (committed, left), s) => (.interrupted e, ⟨committed ++ left, g._status⟩, s)

/-- Context manager exit, where the body has raised or not. -/
def exit (raises : Bool) (g : TransactionGroup σ η) (s : σ) : Outcome Unit × TransactionGroup σ η × σ :=
  if ¬raises then g.commit_all p s else g.rollback_all p s

end TransactionGroup

end RevitPy.Api
