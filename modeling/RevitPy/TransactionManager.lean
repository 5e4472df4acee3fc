/-!
# Transaction scopes of one thread

A transaction that begins is put on the stack of its thread and in the dictionary of active
transactions. When it is completed, it leaves the dictionary, and the stack if it stands on
top.
-/

namespace RevitPy.Bridge

inductive TransactionType
  | regular | subTransaction

inductive TransactionStatus
  | active | committed | rolledBack

inductive TransactionException
  | argument
  | invalidOperation (message : String)
  | objectDisposed

structure TransactionInfo (δ : Type) where
  id : Nat
  name : String
  type : TransactionType
  status : TransactionStatus := .active
  document : Option δ
  parent : Option Nat := none

structure TransactionScope (δ : Type) where
  transactionInfo : TransactionInfo δ
  disposed : Bool := false
  completed : Bool := false
  isCommitted : Bool := false
  isRolledBack : Bool := false

structure TransactionStats where
  totalTransactions : Int := 0
  committedTransactions : Int := 0
  rolledBackTransactions : Int := 0
  activeTransactions : Int := 0
  peakConcurrentTransactions : Int := 0

structure TransactionManager (δ : Type) where
  /-- All scopes that were begun, in their order. The place of a scope is its identifier. -/
  scopes : List (TransactionScope δ) := []
  /-- The stack of the thread, its top first. -/
  transactionStack : List Nat := []
  activeTransactions : List Nat := []
  transactionHistory : List Nat := []
  stats : TransactionStats := {}

namespace TransactionManager
variable {δ : Type} (s : TransactionManager δ)

def hasActiveTransaction : Bool := !s.transactionStack.isEmpty

def activeTransaction : Option (TransactionInfo δ) := do
  let top ← s.transactionStack.head?
  let scope ← s.scopes[top]?
  return scope.transactionInfo

def updateStats (statsAction : TransactionStats → TransactionStats) : TransactionManager δ :=
  let stats := statsAction s.stats
  { s with stats := { stats with peakConcurrentTransactions := max stats.activeTransactions stats.peakConcurrentTransactions } }

/-- A new scope, in the dictionary and on the stack. -/
def push (transactionInfo : TransactionInfo δ) : TransactionManager δ :=
  { s with
    scopes := s.scopes ++ [({ transactionInfo } : TransactionScope δ)]
    activeTransactions := s.activeTransactions ++ [s.scopes.length]
    transactionStack := s.scopes.length :: s.transactionStack }.updateStats fun stats =>
      { stats with totalTransactions := stats.totalTransactions + 1, activeTransactions := stats.activeTransactions + 1 }

def beginTransactionAsync (name : String) (document : Option δ) : Except TransactionException Nat × TransactionManager δ :=
  if name = "" then (.error .argument, s)
  else (.ok s.scopes.length, s.push { id := s.scopes.length, name, type := .regular, document })

def beginSubTransactionAsync (name : String) : Except TransactionException Nat × TransactionManager δ :=
  if name = "" then (.error .argument, s)
  else match s.activeTransaction with
    | none => (.error (.invalidOperation "Cannot begin sub-transaction without an active parent transaction"), s)
    | some parent => (.ok s.scopes.length, s.push
        { id := s.scopes.length, name, type := .subTransaction, document := parent.document, parent := some parent.id })

/-- The scope `id` is committed or rolled back. -/
def completeTransactionAsync (id : Nat) (committed : Bool) : TransactionManager δ :=
  { s with
    scopes := s.scopes.modify id fun scope => { scope with
      completed := true
      isCommitted := scope.isCommitted || committed
      isRolledBack := scope.isRolledBack || !committed
      transactionInfo.status := if committed then .committed else .rolledBack }
    activeTransactions := s.activeTransactions.erase id
    transactionStack := if s.transactionStack.head? = some id then s.transactionStack.tail else s.transactionStack
    transactionHistory := (s.transactionHistory ++ [id]).drop ((s.transactionHistory.length + 1) - 1000) }.updateStats fun stats =>
      { stats with
        activeTransactions := stats.activeTransactions - 1
        committedTransactions := if committed then stats.committedTransactions + 1 else stats.committedTransactions
        rolledBackTransactions := if committed then stats.rolledBackTransactions else stats.rolledBackTransactions + 1 }

/-- `CommitAsync` and `RollbackAsync` of a scope. -/
def endAsync (id : Nat) (committed : Bool) : Except TransactionException Unit × TransactionManager δ := match s.scopes[id]? with
  | none => (.ok (), s)
  | some scope =>
    if scope.disposed then (.error .objectDisposed, s)
    else if scope.completed then (.error (.invalidOperation "Transaction has already been completed"), s)
    else (.ok (), s.completeTransactionAsync id committed)

def commitAsync (id : Nat) : Except TransactionException Unit × TransactionManager δ := s.endAsync id true

def rollbackAsync (id : Nat) : Except TransactionException Unit × TransactionManager δ := s.endAsync id false

def disposeAsync (id : Nat) : TransactionManager δ := match s.scopes[id]? with
  | none => s
  | some scope =>
    if scope.disposed then s
    else
      let s := if scope.completed then s else (s.rollbackAsync id).2
      { s with scopes := s.scopes.modify id fun scope => { scope with disposed := true } }

def forceCommitAsync : Except TransactionException Unit × TransactionManager δ := match s.transactionStack.head? with
  | none => (.error (.invalidOperation "No active transaction to commit"), s)
  | some top => s.commitAsync top

def forceRollbackAsync : Except TransactionException Unit × TransactionManager δ := match s.transactionStack.head? with
  | none => (.error (.invalidOperation "No active transaction to rollback"), s)
  | some top => s.rollbackAsync top

inductive Call (δ : Type)
  | beginTransaction (name : String) (document : Option δ)
  | beginSubTransaction (name : String)
  | commit (id : Nat)
  | rollback (id : Nat)
  | forceCommit
  | forceRollback
  | dispose (id : Nat)

def step : Call δ → TransactionManager δ
  | .beginTransaction name document => (s.beginTransactionAsync name document).2
  | .beginSubTransaction name => (s.beginSubTransactionAsync name).2
  | .commit id => (s.commitAsync id).2
  | .rollback id => (s.rollbackAsync id).2
  | .forceCommit => s.forceCommitAsync.2
  | .forceRollback => s.forceRollbackAsync.2
  | .dispose id => s.disposeAsync id

end TransactionManager
end RevitPy.Bridge
