import Mathlib.Data.List.Nodup
import RevitPy.Runs
import RevitPy.TransactionManager

/-!
# The stack of open transactions

The dictionary of active transactions always names the uncompleted scopes. The stack names
the same as long as scopes are completed from the innermost outwards.
-/

namespace RevitPy.Bridge.TransactionManager
open Runs
variable {δ : Type}

def isUncompleted (s : TransactionManager δ) (id : Nat) : Bool := s.scopes[id]?.any fun scope => !scope.completed

/-- The scopes that are not completed, in the order in which they were begun. -/
def uncompleted (s : TransactionManager δ) : List Nat := (List.range s.scopes.length).filter s.isUncompleted

/-- What the stack of the thread is to be. -/
structure StackInvariant (s : TransactionManager δ) : Prop where
  stack : s.transactionStack = s.uncompleted.reverse
  has_active : s.hasActiveTransaction = true ↔ ∃ id, s.isUncompleted id = true
  active : (∃ id, s.isUncompleted id = true) → ∃ (id : Nat) (scope : TransactionScope δ), s.scopes[id]? = some scope ∧
    scope.completed = false ∧ s.activeTransaction = some scope.transactionInfo

/-- A scope is completed only when all later ones are. -/
def Innermost (s : TransactionManager δ) (id : Nat) : Prop :=
  s.isUncompleted id = true → ∀ later, s.isUncompleted later = true → later ≤ id

def InnermostFirst (s : TransactionManager δ) : Call δ → Prop
  | .commit id | .rollback id | .dispose id => s.Innermost id
  | _ => True

variable {s t : TransactionManager δ} {id : Nat}

theorem isUncompleted_iff : s.isUncompleted id = true ↔ ∃ scope, s.scopes[id]? = some scope ∧ scope.completed = false := by
  unfold isUncompleted
  cases s.scopes[id]? with
  | none => simp
  | some scope => simp

theorem mem_uncompleted : id ∈ s.uncompleted ↔ s.isUncompleted id = true := by
  refine ⟨fun member => (List.mem_filter.mp member).2, fun left => List.mem_filter.mpr ⟨?_, left⟩⟩
  obtain ⟨scope, found, _⟩ := isUncompleted_iff.mp left
  exact List.mem_range.mpr (List.getElem?_eq_some_iff.mp found).1

theorem uncompleted_sorted (s : TransactionManager δ) : s.uncompleted.Pairwise (· < ·) := List.pairwise_lt_range.filter _

/-- The stack says it all. -/
theorem stackInvariant_iff : s.StackInvariant ↔ s.transactionStack = s.uncompleted.reverse := by
  refine ⟨StackInvariant.stack, fun stack => ⟨stack, ?_, ?_⟩⟩
  · rw [hasActiveTransaction, stack, Bool.not_eq_true', List.isEmpty_reverse, List.isEmpty_eq_false_iff_exists_mem]
    exact exists_congr fun _ => mem_uncompleted
  · rintro ⟨id, left⟩
    obtain ⟨rest, top, split⟩ := (List.eq_nil_or_concat' s.uncompleted).resolve_left (List.ne_nil_of_mem (mem_uncompleted.mpr left))
    obtain ⟨scope, found, uncompleted⟩ := isUncompleted_iff.mp (mem_uncompleted.mp (split ▸ List.mem_concat_self))
    exact ⟨top, scope, found, uncompleted, by simp [activeTransaction, stack, split, found]⟩

/-! ## What a call changes -/

theorem uncompleted_push (transactionInfo : TransactionInfo δ) : (s.push transactionInfo).uncompleted = s.uncompleted ++ [s.scopes.length] := by
  have old : ∀ id ∈ List.range s.scopes.length, (s.push transactionInfo).isUncompleted id = s.isUncompleted id := by
    intro id known
    simp [isUncompleted, push, updateStats, List.getElem?_append_left (List.mem_range.mp known)]
  have new : (s.push transactionInfo).isUncompleted s.scopes.length = true := by simp [isUncompleted, push, updateStats]
  have length : (s.push transactionInfo).scopes.length = s.scopes.length + 1 := by simp [push, updateStats]
  rw [uncompleted, length, List.range_succ, List.filter_append, List.filter_congr old]
  simp [uncompleted, new]

theorem isUncompleted_complete (committed : Bool) (other : Nat) :
    (s.completeTransactionAsync id committed).isUncompleted other = (s.isUncompleted other && other != id) := by
  simp only [isUncompleted, completeTransactionAsync, updateStats, List.getElem?_modify]
  by_cases same : id = other
  · subst same
    cases s.scopes[id]? with
    | none => simp
    | some scope => simp
  · cases s.scopes[other]? with
    | none => simp
    | some scope => simp [same, Ne.symm same]

theorem uncompleted_complete (committed : Bool) : (s.completeTransactionAsync id committed).uncompleted = s.uncompleted.filter (· != id) := by
  have length : (s.completeTransactionAsync id committed).scopes.length = s.scopes.length := by simp [completeTransactionAsync, updateStats]
  rw [uncompleted, length, uncompleted, List.filter_filter]
  refine List.filter_congr fun other _ => ?_
  rw [isUncompleted_complete, Bool.and_comm]

/-- Taking an entry off the top, where it stands there, takes it out of a sorted list. -/
theorem pop_eq_filter_iff {ids : List Nat} (sorted : ids.Pairwise (· < ·)) (member : id ∈ ids) :
    (if ids.reverse.head? = some id then ids.reverse.tail else ids.reverse) = (ids.filter (· != id)).reverse ↔ ∀ later ∈ ids, later ≤ id := by
  obtain ⟨before, after, rfl⟩ := List.append_of_mem member
  obtain ⟨_, after_sorted, below⟩ := List.pairwise_append.mp sorted
  have above := (List.pairwise_cons.mp after_sorted).1
  have kept : (before ++ id :: after).filter (· != id) = before ++ after := by
    rw [List.filter_append, List.filter_cons_of_neg (by simp), List.filter_eq_self.mpr, List.filter_eq_self.mpr]
    · intro later there
      simpa using Nat.ne_of_gt (above later there)
    · intro earlier there
      simpa using Nat.ne_of_lt (below earlier there id List.mem_cons_self)
  rw [kept]
  rcases List.eq_nil_or_concat' after with rfl | ⟨rest, top, rfl⟩
  · refine iff_of_true (by simp) fun other there => ?_
    rcases List.mem_append.mp there with earlier | here
    · exact Nat.le_of_lt (below other earlier id List.mem_cons_self)
    · exact Nat.le_of_eq (List.mem_singleton.mp here)
  · have higher : id < top := above top List.mem_concat_self
    refine iff_of_false (fun same => ?_) fun all => Nat.not_le_of_lt higher (all top (by simp))
    have not_top : ¬(before ++ id :: (rest ++ [top])).reverse.head? = some id := by simpa using Nat.ne_of_gt higher
    rw [if_neg not_top] at same
    have lengths := congrArg List.length same
    simp at lengths

/-- A scope that is completed leaves the stack exactly where it is the innermost. -/
theorem stackInvariant_complete (inv : s.StackInvariant) (left : s.isUncompleted id = true) (committed : Bool) :
    (s.completeTransactionAsync id committed).StackInvariant ↔ s.Innermost id := by
  have popped : (s.completeTransactionAsync id committed).transactionStack =
      if s.uncompleted.reverse.head? = some id then s.uncompleted.reverse.tail else s.uncompleted.reverse := by
    rw [← inv.stack]
    rfl
  rw [stackInvariant_iff, popped, uncompleted_complete, pop_eq_filter_iff (uncompleted_sorted s) (mem_uncompleted.mpr left)]
  simp only [mem_uncompleted, Innermost, left, true_implies]

/-- A scope that was disposed is completed. -/
def DisposedCompleted (s : TransactionManager δ) : Prop :=
  ∀ (id : Nat) (scope : TransactionScope δ), s.scopes[id]? = some scope → scope.disposed = true → scope.completed = true

def disposed (s : TransactionManager δ) (id : Nat) : TransactionManager δ :=
  { s with scopes := s.scopes.modify id fun scope => { scope with disposed := true } }

theorem uncompleted_disposed : (s.disposed id).uncompleted = s.uncompleted := by
  have length : (s.disposed id).scopes.length = s.scopes.length := by simp [disposed]
  rw [uncompleted, length, uncompleted]
  refine List.filter_congr fun other _ => ?_
  simp only [isUncompleted, disposed, List.getElem?_modify]
  cases s.scopes[other]? with
  | none => simp
  | some scope => by_cases same : id = other <;> simp [same]

theorem stackInvariant_disposed : (s.disposed id).StackInvariant ↔ s.StackInvariant := by
  rw [stackInvariant_iff, stackInvariant_iff, uncompleted_disposed]
  rfl

theorem innermost_of_completed (completed : s.isUncompleted id = false) : s.Innermost id :=
  fun left => absurd (completed.symm.trans left) Bool.noConfusion

/-- The cases of `CommitAsync` and `RollbackAsync`. -/
theorem endAsync_cases (ended : DisposedCompleted s) (id : Nat) (committed : Bool) :
    s.isUncompleted id = true ∧ (s.endAsync id committed).2 = s.completeTransactionAsync id committed ∨
      s.isUncompleted id = false ∧ (s.endAsync id committed).2 = s := by
  unfold endAsync isUncompleted
  cases found : s.scopes[id]? with
  | none => simp
  | some scope =>
    cases disposed : scope.disposed with
    | true => simp [disposed, ended id scope found disposed]
    | false => cases completed : scope.completed <;> simp [disposed, completed]

theorem stackInvariant_endAsync (inv : s.StackInvariant) (ended : DisposedCompleted s) (committed : Bool) :
    (s.endAsync id committed).2.StackInvariant ↔ s.Innermost id := by
  rcases endAsync_cases ended id committed with ⟨left, completes⟩ | ⟨completed, unchanged⟩
  · rw [completes, stackInvariant_complete inv left]
  · rw [unchanged]
    exact iff_of_true inv (innermost_of_completed completed)

theorem stackInvariant_disposeAsync (inv : s.StackInvariant) (ended : DisposedCompleted s) :
    (s.disposeAsync id).StackInvariant ↔ s.Innermost id := by
  unfold disposeAsync
  cases found : s.scopes[id]? with
  | none => exact iff_of_true inv (innermost_of_completed (by simp [isUncompleted, found]))
  | some scope =>
    cases disposed : scope.disposed with
    | true =>
      simp only [disposed, ↓reduceIte]
      exact iff_of_true inv (innermost_of_completed (by simp [isUncompleted, found, ended id scope found disposed]))
    | false =>
      cases completed : scope.completed with
      | true =>
        simp only [disposed, completed, ↓reduceIte, Bool.false_eq_true]
        exact iff_of_true (stackInvariant_disposed.mpr inv) (innermost_of_completed (by simp [isUncompleted, found, completed]))
      | false =>
        simp only [disposed, completed, ↓reduceIte, Bool.false_eq_true]
        exact stackInvariant_disposed.trans (stackInvariant_endAsync inv ended false)

/-- The top of the stack is the innermost scope. -/
theorem innermost_top (inv : s.StackInvariant) (top : s.transactionStack.head? = some id) : s.Innermost id := by
  intro _ later left
  rw [inv.stack, List.head?_reverse, List.getLast?_eq_some_iff] at top
  obtain ⟨rest, split⟩ := top
  have sorted := uncompleted_sorted s
  rw [split] at sorted
  rcases List.mem_append.mp (split ▸ mem_uncompleted.mpr left) with earlier | here
  · exact Nat.le_of_lt ((List.pairwise_append.mp sorted).2.2 later earlier id (List.mem_singleton_self id))
  · exact Nat.le_of_eq (List.mem_singleton.mp here)

theorem stackInvariant_push (inv : s.StackInvariant) (transactionInfo : TransactionInfo δ) : (s.push transactionInfo).StackInvariant := by
  rw [stackInvariant_iff, uncompleted_push, List.reverse_append, ← inv.stack]
  rfl

theorem stackInvariant_step (inv : s.StackInvariant) (ended : DisposedCompleted s) (call : Call δ) :
    (s.step call).StackInvariant ↔ s.InnermostFirst call := by
  cases call with
  | beginTransaction name document =>
    refine iff_of_true ?_ trivial
    simp only [step, beginTransactionAsync]
    split
    · exact inv
    · exact stackInvariant_push inv _
  | beginSubTransaction name =>
    refine iff_of_true ?_ trivial
    simp only [step, beginSubTransactionAsync]
    split
    · exact inv
    · split
      · exact inv
      · exact stackInvariant_push inv _
  | commit id => exact stackInvariant_endAsync inv ended true
  | rollback id => exact stackInvariant_endAsync inv ended false
  | forceCommit =>
    refine iff_of_true ?_ trivial
    simp only [step, forceCommitAsync]
    split
    · exact inv
    · next top => exact (stackInvariant_endAsync inv ended true).mpr (innermost_top inv top)
  | forceRollback =>
    refine iff_of_true ?_ trivial
    simp only [step, forceRollbackAsync]
    split
    · exact inv
    · next top => exact (stackInvariant_endAsync inv ended false).mpr (innermost_top inv top)
  | dispose id => exact stackInvariant_disposeAsync inv ended

/-! ## What every call keeps -/

section
variable {Inv : TransactionManager δ → Prop} (push : ∀ s transactionInfo, Inv s → Inv (s.push transactionInfo))
  (complete : ∀ s id committed, s.isUncompleted id = true → Inv s → Inv (s.completeTransactionAsync id committed))
  (dispose : ∀ s id, s.isUncompleted id = false → Inv s → Inv (s.disposed id))
include push complete dispose

omit push dispose in
theorem endAsync_keeps (ended : DisposedCompleted s) (committed : Bool) (start : Inv s) : Inv (s.endAsync id committed).2 := by
  rcases endAsync_cases ended id committed with ⟨left, completes⟩ | ⟨_, unchanged⟩
  · rw [completes]
    exact complete s id committed left start
  · rw [unchanged]
    exact start

/-- A call begins a scope, completes one, or disposes one that is completed. -/
theorem step_keeps (ended : DisposedCompleted s) (call : Call δ) (start : Inv s) : Inv (s.step call) := by
  cases call with
  | beginTransaction name document =>
    simp only [step, beginTransactionAsync]
    split
    · exact start
    · exact push s _ start
  | beginSubTransaction name =>
    simp only [step, beginSubTransactionAsync]
    split
    · exact start
    · split
      · exact start
      · exact push s _ start
  | commit id => exact endAsync_keeps complete ended true start
  | rollback id => exact endAsync_keeps complete ended false start
  | forceCommit =>
    simp only [step, forceCommitAsync]
    split
    · exact start
    · exact endAsync_keeps complete ended true start
  | forceRollback =>
    simp only [step, forceRollbackAsync]
    split
    · exact start
    · exact endAsync_keeps complete ended false start
  | dispose id =>
    simp only [step, disposeAsync]
    split
    · exact start
    · next scope found =>
      split
      · exact start
      · next enabled =>
        split
        · next completed => exact dispose s id (by simp [isUncompleted, found, completed]) start
        · refine dispose _ id ?_ (endAsync_keeps complete ended false start)
          rcases endAsync_cases ended id false with ⟨left, completes⟩ | ⟨completed, unchanged⟩
          · rw [rollbackAsync, completes, isUncompleted_complete]
            simp
          · rw [rollbackAsync, unchanged, completed]

end

theorem disposedCompleted_step (ended : DisposedCompleted s) (call : Call δ) : DisposedCompleted (s.step call) := by
  refine step_keeps ?_ ?_ ?_ ended call ended
  · intro s transactionInfo ended id scope found disposed
    simp only [push, updateStats, List.getElem?_append] at found
    split at found
    · exact ended id scope found disposed
    · obtain rfl := List.mem_singleton.mp (List.mem_of_getElem? found)
      cases disposed
  · intro s id committed _ ended other scope found disposed
    simp only [completeTransactionAsync, updateStats, List.getElem?_modify] at found
    obtain ⟨before, there, rfl⟩ := Option.map_eq_some_iff.mp found
    by_cases same : id = other
    · simp [same]
    · simp only [same, ↓reduceIte] at disposed ⊢
      exact ended other before there disposed
  · intro s id completed ended other scope found disposed
    simp only [TransactionManager.disposed, List.getElem?_modify] at found
    obtain ⟨before, there, rfl⟩ := Option.map_eq_some_iff.mp found
    by_cases same : id = other
    · subst same
      simpa [isUncompleted, there] using completed
    · simp only [same, ↓reduceIte] at disposed ⊢
      exact ended other before there disposed

theorem disposedCompleted_start : DisposedCompleted ({} : TransactionManager δ) := by
  intro id scope found
  simp at found

def DictionaryInvariant (s : TransactionManager δ) : Prop := s.activeTransactions = s.uncompleted

/-- Unlike the stack, the dictionary names the uncompleted scopes in every run. -/
theorem dictionaryInvariant (calls : List (Call δ)) : (calls.foldl step {}).DictionaryInvariant := by
  have keeps (s : TransactionManager δ) (call : Call δ) (inv : s.DictionaryInvariant ∧ DisposedCompleted s) (_ : True) :
      (s.step call).DictionaryInvariant ∧ DisposedCompleted (s.step call) := by
    refine ⟨step_keeps ?_ ?_ ?_ inv.2 call inv.1, disposedCompleted_step inv.2 call⟩
    · intro s transactionInfo same
      rw [DictionaryInvariant, uncompleted_push, ← same]
      rfl
    · intro s id committed _ same
      have distinct : s.uncompleted.Nodup := (uncompleted_sorted s).imp Nat.ne_of_lt
      rw [DictionaryInvariant, uncompleted_complete, ← distinct.erase_eq_filter, ← same]
      rfl
    · intro s id _ same
      rw [DictionaryInvariant, uncompleted_disposed, ← same]
      rfl
  have start : DictionaryInvariant ({} : TransactionManager δ) := rfl
  exact (foldl_keeps keeps ⟨start, disposedCompleted_start⟩ (along_of_mem fun _ _ _ => trivial)).1

/-- In every run the stack names the uncompleted scopes throughout exactly where scopes are
    completed from the innermost outwards. -/
theorem stack_invariant_iff (calls : List (Call δ)) : Throughout step StackInvariant {} calls ↔ Along step InnermostFirst {} calls := by
  have start : StackInvariant ({} : TransactionManager δ) ∧ DisposedCompleted ({} : TransactionManager δ) :=
    ⟨stackInvariant_iff.mpr rfl, disposedCompleted_start⟩
  have keeps (s : TransactionManager δ) (call : Call δ) (inv : s.StackInvariant ∧ DisposedCompleted s) (innermost : s.InnermostFirst call) :
      (s.step call).StackInvariant ∧ DisposedCompleted (s.step call) :=
    ⟨(stackInvariant_step inv.1 inv.2 call).mpr innermost, disposedCompleted_step inv.2 call⟩
  constructor
  · exact along_of_throughout keeps (fun _ call inv after => (stackInvariant_step inv.1 inv.2 call).mp after) start
  · exact fun innermost => throughout_mono (fun _ => And.left) (throughout_keeps keeps start innermost)

/-- The outer of two nested transactions is committed first. -/
theorem stack_names_committed : ¬Throughout step StackInvariant ({} : TransactionManager Unit)
    [.beginTransaction "outer" none, .beginTransaction "inner" none, .commit 0] := by
  rintro ⟨_, _, _, inv⟩
  exact absurd inv.stack (by decide)

end RevitPy.Bridge.TransactionManager
