import RevitPy.Transactions

/-!
# Asynchronous transactions

The methods of a transaction run under a lock that its holder cannot take again.
When the commit of the unit of work raises, the handler calls `rollback()` while the
lock is held, and waits for itself.
-/

namespace RevitPy

structure AsyncTransactionContext (ν : Type) where
  transaction_id : Nat
  is_active : Bool := true
  nested_level : Nat := 0
  operations : List ν := []
  savepoints : List String := []

structure TransactionError where
  message : String
  transaction_id : Option Nat := none
  transaction_state : Option String := none
  deriving DecidableEq

/-- What a call comes to: it may wait for ever. -/
inductive CallResult
  | returned
  | raised (error : TransactionError)
  | interrupted (message : String)
  | waiting
  deriving DecidableEq

/-- Async transaction manager. Contexts get the ids in the order of their creation. -/
structure AsyncTransaction (ν : Type) where
  change_tracker : ChangeTracker ν := {}
  unit_of_work : Bool := false
  auto_commit : Bool := true
  timeout : Bool := false
  context : Option (AsyncTransactionContext ν) := none
  locked : Bool := false
  nested_transactions : List (AsyncTransactionContext ν) := []
  created : Nat := 0

variable {ν : Type}

namespace AsyncTransaction

/-- Check if transaction is active. -/
def is_active (t : AsyncTransaction ν) : Bool := t.context.any AsyncTransactionContext.is_active

/-- Get current transaction ID. -/
def transaction_id (t : AsyncTransaction ν) : Option Nat := t.context.map AsyncTransactionContext.transaction_id

/-- Get current nesting level. -/
def nested_level (t : AsyncTransaction ν) : Nat := t.nested_transactions.length

/-- `async with self._lock`. A task that waits for a lock that is never released stays
    where it is, with the locks that it holds. -/
def under_lock (t : AsyncTransaction ν) (body : AsyncTransaction ν → CallResult × AsyncTransaction ν) :
    CallResult × AsyncTransaction ν :=
  if t.locked then (.waiting, t)
  else match body { t with locked := true } with
    | (.waiting, t) => (.waiting, t)
    | (result, t) => (result, { t with locked := false })

/-- Begin a new transaction. -/
def begin (t : AsyncTransaction ν) : CallResult × AsyncTransaction ν := t.under_lock fun t =>
  if t.is_active then
    (.returned,
      { t with
        nested_transactions := t.nested_transactions ++
          [{ transaction_id := t.created, nested_level := t.nested_level + 1 }]
        created := t.created + 1 })
  else
    (.returned,
      { t with
        context := some { transaction_id := t.created }
        created := t.created + 1 })

/-- Rollback the transaction, where the unit of work answers as given. -/
def rollback (t : AsyncTransaction ν) (rollback_async : Ending) : CallResult × AsyncTransaction ν := t.under_lock fun t =>
  if ¬t.is_active then (.returned, t)
  else if t.nested_transactions ≠ [] then
    (.returned, { t with nested_transactions := t.nested_transactions.dropLast })
  else match if t.unit_of_work then rollback_async else .returned with
    | .returned =>
      (.returned,
        { t with
          change_tracker := t.change_tracker.reject_changes none
          context := none })
    | .raised e => (.raised { message := "Transaction rollback failed: " ++ e }, { t with context := none })
    | .interrupted e => (.interrupted e, t)

/-- Commit the transaction. The operations of a nested one are merged into the outermost. -/
def commit (t : AsyncTransaction ν) (commit_async rollback_async : Ending) : CallResult × AsyncTransaction ν :=
  t.under_lock fun t =>
    if ¬t.is_active then
      (.raised { message := "No active transaction to commit", transaction_state := some "inactive" }, t)
    else match t.nested_transactions.getLast? with
      | some nested_context =>
        (.returned,
          { t with
            nested_transactions := t.nested_transactions.dropLast
            context := t.context.map fun context =>
              { context with operations := context.operations ++ nested_context.operations } })
      | none => match if t.unit_of_work then commit_async else .returned with
        | .returned =>
          (.returned,
            { t with
              change_tracker := t.change_tracker.accept_changes none
              context := none })
        | .raised e => match t.rollback rollback_async with
          | (.returned, t) =>
            (.raised { message := "Transaction commit failed: " ++ e, transaction_id := t.transaction_id }, t)
          | failed => failed
        | .interrupted e => (.interrupted e, t)

/-- Create a savepoint within the transaction. -/
def create_savepoint (t : AsyncTransaction ν) (name : String) : CallResult × AsyncTransaction ν := t.under_lock fun t =>
  if ¬t.is_active then
    (.raised { message := "Cannot create savepoint without active transaction", transaction_state := some "inactive" }, t)
  else
    (.returned,
      { t with context := t.context.map fun context => { context with savepoints := context.savepoints ++ [name] } })

/-- Rollback to a specific savepoint. All savepoints after it are removed. -/
def rollback_to_savepoint (t : AsyncTransaction ν) (name : String) : CallResult × AsyncTransaction ν := t.under_lock fun t =>
  match t.context.filter AsyncTransactionContext.is_active with
  | none =>
    (.raised
      { message := "Cannot rollback to savepoint without active transaction", transaction_state := some "inactive" }, t)
  | some context =>
    if name ∉ context.savepoints then
      (.raised { message := "Savepoint '" ++ name ++ "' not found", transaction_id := some context.transaction_id }, t)
    else
      (.returned,
        { t with
          context := some { context with savepoints := context.savepoints.take (context.savepoints.idxOf name + 1) } })

end AsyncTransaction

/-- A call of a method, with the answers that the unit of work would give to it. -/
inductive TransactionCall
  | begin
  | commit (commit_async rollback_async : Ending)
  | rollback (rollback_async : Ending)
  | create_savepoint (name : String)
  | rollback_to_savepoint (name : String)

namespace AsyncTransaction

def call (t : AsyncTransaction ν) : TransactionCall → CallResult × AsyncTransaction ν
  | .begin => t.begin
  | .commit commit_async rollback_async => t.commit commit_async rollback_async
  | .rollback rollback_async => t.rollback rollback_async
  | .create_savepoint name => t.create_savepoint name
  | .rollback_to_savepoint name => t.rollback_to_savepoint name

/-- A call is over, and nobody holds the lock. -/
def Completes (answer : CallResult × AsyncTransaction ν) : Prop := answer.1 ≠ .waiting ∧ answer.2.locked = false

/-- A failed commit raises, ends the transaction and rejects the changes. -/
def FailsCleanly (t : AsyncTransaction ν) (answer : CallResult × AsyncTransaction ν) : Prop :=
  (∃ error, answer.1 = .raised error) ∧ answer.2.is_active = false ∧
    answer.2.change_tracker = t.change_tracker.reject_changes none

/-- What is promised of a call: it completes, and a commit of the outermost
    transaction that fails does so cleanly. -/
def Lawful (t : AsyncTransaction ν) (c : TransactionCall) : Prop :=
  Completes (t.call c) ∧ match c with
    | .commit .. => t.is_active = true → t.nested_transactions = [] → (t.call c).1 ≠ .returned → FailsCleanly t (t.call c)
    | _ => True

/-- A call does not commit the outermost transaction with a unit of work that fails to. -/
def Safe (t : AsyncTransaction ν) : TransactionCall → Prop
  | .commit commit_async _ =>
    t.is_active = true → t.nested_transactions = [] → t.unit_of_work = true → commit_async = .returned
  | _ => True

/-- Every call of a run is lawful. -/
def AllLawful (t : AsyncTransaction ν) : List TransactionCall → Prop
  | [] => True
  | c :: rest => Lawful t c ∧ AllLawful (t.call c).2 rest

/-- Every call of a run is safe. -/
def AllSafe (t : AsyncTransaction ν) : List TransactionCall → Prop
  | [] => True
  | c :: rest => Safe t c ∧ AllSafe (t.call c).2 rest

/-! ## What calls come to -/

variable {t : AsyncTransaction ν}

/-- A body that does not wait gives the lock back. -/
theorem under_lock_free (free : t.locked = false) {body : AsyncTransaction ν → CallResult × AsyncTransaction ν}
    (ends : (body { t with locked := true }).1 ≠ .waiting) :
    t.under_lock body =
      ((body { t with locked := true }).1, { (body { t with locked := true }).2 with locked := false }) := by
  generalize ended : body { t with locked := true } = answer at ends ⊢
  obtain ⟨result, after⟩ := answer
  rw [under_lock, if_neg (by simp [free]), ended]
  cases result with
  | waiting => exact absurd rfl ends
  | _ => rfl

theorem completes_under_lock (free : t.locked = false) {body : AsyncTransaction ν → CallResult × AsyncTransaction ν}
    (ends : (body { t with locked := true }).1 ≠ .waiting) : Completes (t.under_lock body) := by
  rw [under_lock_free free ends]
  exact ⟨ends, rfl⟩

theorem completes_begin (free : t.locked = false) : Completes t.begin := by
  refine completes_under_lock free ?_
  split <;> simp

theorem completes_rollback (free : t.locked = false) (rollback_async : Ending) : Completes (t.rollback rollback_async) := by
  refine completes_under_lock free ?_
  split
  · simp
  · split
    · simp
    · split <;> simp

theorem completes_create_savepoint (free : t.locked = false) (name : String) : Completes (t.create_savepoint name) := by
  refine completes_under_lock free ?_
  split <;> simp

theorem completes_rollback_to_savepoint (free : t.locked = false) (name : String) :
    Completes (t.rollback_to_savepoint name) := by
  refine completes_under_lock free ?_
  split
  · simp
  · split <;> simp

/-- The lock is held by whoever asks for it. -/
theorem rollback_locked (held : t.locked = true) (rollback_async : Ending) : t.rollback rollback_async = (.waiting, t) :=
  if_pos held

/-- A commit of the outermost transaction is the commit of the unit of work: where it
    raises, the handler waits for the lock. -/
theorem commit_outermost (free : t.locked = false) (active : t.is_active = true) (outermost : t.nested_transactions = [])
    (commit_async rollback_async : Ending) :
    t.commit commit_async rollback_async = match if t.unit_of_work then commit_async else .returned with
      | .returned =>
        (.returned,
          { t with
            change_tracker := t.change_tracker.accept_changes none
            context := none })
      | .raised _ => (.waiting, { t with locked := true })
      | .interrupted e => (.interrupted e, t) := by
  obtain ⟨change_tracker, unit_of_work, auto_commit, timeout, context, locked, nested_transactions, created⟩ := t
  simp only at free outermost
  subst free outermost
  have active' : context.any AsyncTransactionContext.is_active = true := active
  generalize ended : (if unit_of_work then commit_async else .returned) = ending
  cases ending <;>
    simp [commit, under_lock, is_active, active', ended, rollback_locked]

/-- A commit of a nested transaction, or of none, leaves the unit of work alone. -/
theorem completes_commit (free : t.locked = false) (commit_async rollback_async : Ending)
    (inner : t.is_active = true → t.nested_transactions ≠ []) : Completes (t.commit commit_async rollback_async) := by
  refine completes_under_lock free ?_
  split
  · simp
  · next active =>
    split
    · simp
    · next none_nested => exact absurd (List.getLast?_eq_none_iff.mp none_nested) (inner (Decidable.of_not_not active))

/-- An outermost commit is lawful exactly if the unit of work commits. -/
theorem lawful_commit_iff (free : t.locked = false) (active : t.is_active = true) (outermost : t.nested_transactions = [])
    (commit_async rollback_async : Ending) :
    Lawful t (.commit commit_async rollback_async) ↔ (t.unit_of_work = true → commit_async = .returned) := by
  simp only [Lawful, call, commit_outermost free active outermost]
  constructor
  · rintro ⟨completes, clean⟩ uses
    rw [if_pos uses] at completes clean
    cases commit_async with
    | returned => rfl
    | raised e => exact absurd rfl completes.1
    | interrupted e =>
      obtain ⟨⟨error, raised⟩, _⟩ := clean active outermost nofun
      cases raised
  · intro commits
    have returned : (if t.unit_of_work then commit_async else .returned) = .returned := by
      split
      · next uses => exact commits uses
      · rfl
    rw [returned]
    exact ⟨⟨nofun, free⟩, fun _ _ failed => absurd rfl failed⟩

theorem lawful_iff (free : t.locked = false) (c : TransactionCall) : Lawful t c ↔ Safe t c := by
  cases c with
  | begin => exact ⟨fun _ => trivial, fun _ => ⟨completes_begin free, trivial⟩⟩
  | commit commit_async rollback_async =>
    by_cases outermost : t.is_active = true ∧ t.nested_transactions = []
    · rw [lawful_commit_iff free outermost.1 outermost.2]
      exact ⟨fun commits _ _ => commits, fun safe => safe outermost.1 outermost.2⟩
    · have inner (active : t.is_active = true) : t.nested_transactions ≠ [] := fun none_nested => outermost ⟨active, none_nested⟩
      exact ⟨fun _ active none_nested => absurd none_nested (inner active),
        fun _ => ⟨completes_commit free _ _ inner, fun active none_nested => absurd none_nested (inner active)⟩⟩
  | rollback rollback_async => exact ⟨fun _ => trivial, fun _ => ⟨completes_rollback free rollback_async, trivial⟩⟩
  | create_savepoint name => exact ⟨fun _ => trivial, fun _ => ⟨completes_create_savepoint free name, trivial⟩⟩
  | rollback_to_savepoint name => exact ⟨fun _ => trivial, fun _ => ⟨completes_rollback_to_savepoint free name, trivial⟩⟩

theorem all_lawful_iff (free : t.locked = false) (calls : List TransactionCall) : AllLawful t calls ↔ AllSafe t calls := by
  induction calls generalizing t with
  | nil => exact Iff.rfl
  | cons c rest ih =>
    constructor
    · rintro ⟨lawful, later⟩
      exact ⟨(lawful_iff free c).mp lawful, (ih lawful.1.2).mp later⟩
    · rintro ⟨safe, later⟩
      have lawful := (lawful_iff free c).mpr safe
      exact ⟨lawful, (ih lawful.1.2).mpr later⟩

/-- From a new transaction on, every call is lawful exactly if no call commits the
    outermost transaction with a unit of work that fails to commit. -/
theorem never_waits_iff (change_tracker : ChangeTracker ν) (unit_of_work auto_commit timeout : Bool)
    (calls : List TransactionCall) :
    AllLawful { change_tracker, unit_of_work, auto_commit, timeout } calls ↔
      AllSafe { change_tracker, unit_of_work, auto_commit, timeout } calls := all_lawful_iff rfl calls

/-- The commit of a unit of work that raises waits for ever. -/
theorem commit_waits :
    ¬∀ (change_tracker : ChangeTracker Nat) (unit_of_work auto_commit timeout : Bool) (calls : List TransactionCall),
      AllLawful { change_tracker, unit_of_work, auto_commit, timeout } calls := by
  intro lawful
  obtain ⟨_, ⟨completes, _⟩, _⟩ := lawful {} true true false [.begin, .commit (.raised "conflict") .returned]
  exact absurd rfl completes.1

end AsyncTransaction

end RevitPy
