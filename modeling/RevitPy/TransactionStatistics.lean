import Mathlib.Data.List.DropRight
import RevitPy.TransactionStack

/-!
# Statistics and history of transactions

The manager counts the transactions that began, committed and rolled back, and keeps
the latest thousand that were completed. Beside it stand the completions in their
order and the most transactions that were ever open at once, against which the counts
are checked in every state of a run.
-/

namespace RevitPy.Bridge.TransactionManager
variable {δ : Type} {s t : TransactionManager δ} {id : Nat}

/-! ## What a call does -/

/-- A call does nothing, begins a scope, disposes a completed one, or completes one and may
    dispose it. -/
inductive Moves (s : TransactionManager δ) : TransactionManager δ → Prop
  | stays : Moves s s
  | begins (transactionInfo : TransactionInfo δ) : Moves s (s.push transactionInfo)
  | disposes {id : Nat} (completed : s.isUncompleted id = false) : Moves s (s.disposed id)
  | completes {id : Nat} (left : s.isUncompleted id = true) (committed : Bool) : Moves s (s.completeTransactionAsync id committed)
  | closes {id : Nat} (left : s.isUncompleted id = true) : Moves s ((s.completeTransactionAsync id false).disposed id)

theorem moves_endAsync (ended : DisposedCompleted s) (id : Nat) (committed : Bool) : Moves s (s.endAsync id committed).2 := by
  rcases endAsync_cases ended id committed with ⟨left, completes⟩ | ⟨-, unchanged⟩
  · rw [completes]
    exact .completes left committed
  · rw [unchanged]
    exact .stays

theorem moves_disposeAsync (ended : DisposedCompleted s) (id : Nat) : Moves s (s.disposeAsync id) := by
  unfold disposeAsync
  split
  · exact .stays
  · next scope found =>
    split
    · exact .stays
    · split
      · next completed => exact .disposes (by simp [isUncompleted, found, completed])
      · rcases endAsync_cases ended id false with ⟨left, completes⟩ | ⟨completed, unchanged⟩
        · rw [rollbackAsync, completes]
          exact .closes left
        · rw [rollbackAsync, unchanged]
          exact .disposes completed

theorem moves_step (ended : DisposedCompleted s) (call : Call δ) : Moves s (s.step call) := by
  cases call with
  | beginTransaction name document =>
    simp only [step, beginTransactionAsync]
    split
    · exact .stays
    · exact .begins _
  | beginSubTransaction name =>
    simp only [step, beginSubTransactionAsync]
    split
    · exact .stays
    · split
      · exact .stays
      · exact .begins _
  | commit id => exact moves_endAsync ended id true
  | rollback id => exact moves_endAsync ended id false
  | forceCommit =>
    simp only [step, forceCommitAsync]
    split
    · exact .stays
    · exact moves_endAsync ended _ true
  | forceRollback =>
    simp only [step, forceRollbackAsync]
    split
    · exact .stays
    · exact moves_endAsync ended _ false
  | dispose id => exact moves_disposeAsync ended id

/-! ## Runs with their completions -/

/-- How the scope of a completed transaction ended. -/
def isCommitted (s : TransactionManager δ) (id : Nat) : Bool := s.scopes[id]?.any TransactionScope.isCommitted

/-- The scopes that a call completed. -/
def completedBy (s t : TransactionManager δ) : List Nat := s.uncompleted.filter fun id => !t.isUncompleted id

end TransactionManager

/-- A manager with the transactions completed so far, each with whether it was committed,
    and the most that were open in a state so far. -/
structure RecordedManager (δ : Type) where
  manager : TransactionManager δ := {}
  completions : List (Nat × Bool) := []
  highest : Nat := 0

namespace RecordedManager
open TransactionManager Runs
variable {δ : Type} {r : RecordedManager δ} {t : TransactionManager δ} {id : Nat}

/-- The record after a call that leads to the manager `t`. -/
def after (r : RecordedManager δ) (t : TransactionManager δ) : RecordedManager δ where
  manager := t
  completions := r.completions ++ (r.manager.completedBy t).map fun id => (id, t.isCommitted id)
  highest := max r.highest t.uncompleted.length

def step (r : RecordedManager δ) (call : Call δ) : RecordedManager δ := r.after (r.manager.step call)

/-- The counts are those of the record, and the history is its latest thousand. -/
structure Matches (r : RecordedManager δ) : Prop where
  total : r.manager.stats.totalTransactions = r.manager.scopes.length
  committed : r.manager.stats.committedTransactions = r.completions.countP Prod.snd
  rolledBack : r.manager.stats.rolledBackTransactions = r.completions.countP fun completion => !completion.2
  active : r.manager.stats.activeTransactions = r.manager.uncompleted.length
  peak : r.manager.stats.peakConcurrentTransactions = r.highest
  once : (r.completions.map Prod.fst).Nodup
  completed : ∀ id, id ∈ r.completions.map Prod.fst ↔ id < r.manager.scopes.length ∧ r.manager.isUncompleted id = false
  history : r.manager.transactionHistory = (r.completions.map Prod.fst).rtake 1000

/-- The counts add up besides, and the open transactions are those of the dictionary. -/
structure Accounted (r : RecordedManager δ) : Prop extends r.Matches where
  dictionary : r.manager.activeTransactions = r.manager.uncompleted
  balance : r.manager.stats.totalTransactions =
    r.manager.stats.committedTransactions + r.manager.stats.rolledBackTransactions + r.manager.stats.activeTransactions

/-- What calls keep of a record. -/
structure Kept (r : RecordedManager δ) : Prop extends r.Matches where
  below : r.manager.uncompleted.length ≤ r.highest
  dictionary : r.manager.DictionaryInvariant
  fresh : ∀ id, r.manager.isUncompleted id = true → r.manager.isCommitted id = false

/-- Every scope is completed or not, so the counts add up. -/
theorem Kept.accounted (kept : r.Kept) : r.Accounted where
  toMatches := kept.toMatches
  dictionary := kept.dictionary
  balance := by
    have ids : (r.completions.map Prod.fst).Perm ((List.range r.manager.scopes.length).filter fun id => !r.manager.isUncompleted id) := by
      refine (List.perm_ext_iff_of_nodup kept.once (List.nodup_range.filter _)).mpr fun id => ?_
      rw [kept.completed, List.mem_filter, List.mem_range, Bool.not_eq_true']
    have scopes := List.length_eq_length_filter_add (l := List.range r.manager.scopes.length) r.manager.isUncompleted
    have ends := List.length_eq_countP_add_countP (l := r.completions) (p := Prod.snd)
    have same := ids.length_eq
    rw [List.length_map] at same
    rw [List.length_range] at scopes
    have opened : r.manager.uncompleted.length = ((List.range r.manager.scopes.length).filter r.manager.isUncompleted).length := rfl
    have others : r.completions.countP (fun completion => decide ¬completion.2 = true) = r.completions.countP fun completion => !completion.2 :=
      List.countP_congr fun completion _ => by simp
    rw [kept.total, kept.committed, kept.rolledBack, kept.active]
    omega

/-- The latest of a list that was cut back are the latest of the whole list. -/
theorem rtake_concat {α : Type} (xs : List α) (x : α) (n : Nat) : (xs.rtake n ++ [x]).rtake n = (xs ++ [x]).rtake n := by
  rcases Nat.eq_zero_or_pos n with rfl | positive
  · simp
  · obtain ⟨m, rfl⟩ := Nat.exists_eq_succ_of_ne_zero (Nat.ne_of_gt positive)
    rw [List.rtake_concat_succ, List.rtake_concat_succ, List.rtake_eq_reverse_take_reverse, List.rtake_eq_reverse_take_reverse,
      List.rtake_eq_reverse_take_reverse, List.reverse_reverse, List.take_take, Nat.min_eq_left (Nat.le_succ m)]

/-! ## What each move does to the record -/

theorem completedBy_of_same {s : TransactionManager δ} (same : ∀ id, t.isUncompleted id = s.isUncompleted id) : s.completedBy t = [] := by
  refine List.filter_eq_nil_iff.mpr fun id member => ?_
  simp [same, mem_uncompleted.mp member]

/-- A move that completes nothing changes the record only by what is open. -/
theorem after_of_none (none : r.manager.completedBy t = []) : r.after t = { r with manager := t, highest := max r.highest t.uncompleted.length } := by
  simp [after, none]

theorem Kept.begins (kept : r.Kept) (transactionInfo : TransactionInfo δ) : (r.after (r.manager.push transactionInfo)).Kept := by
  have longer : (r.manager.push transactionInfo).scopes.length = r.manager.scopes.length + 1 := by simp [push, updateStats]
  have opened := uncompleted_push (s := r.manager) transactionInfo
  have length : (r.manager.push transactionInfo).uncompleted.length = r.manager.uncompleted.length + 1 := by
    rw [opened, List.length_append, List.length_singleton]
  have mem (id : Nat) : (r.manager.push transactionInfo).isUncompleted id = true ↔
      r.manager.isUncompleted id = true ∨ id = r.manager.scopes.length := by
    rw [← mem_uncompleted, opened, List.mem_append, mem_uncompleted, List.mem_singleton]
  have none : r.manager.completedBy (r.manager.push transactionInfo) = [] := by
    refine List.filter_eq_nil_iff.mpr fun id member => ?_
    simp [(mem id).mpr (.inl (mem_uncompleted.mp member))]
  have active : (r.manager.push transactionInfo).stats.activeTransactions = r.manager.stats.activeTransactions + 1 := rfl
  have peak : (r.manager.push transactionInfo).stats.peakConcurrentTransactions =
      max (r.manager.stats.activeTransactions + 1) r.manager.stats.peakConcurrentTransactions := rfl
  rw [after_of_none none]
  refine ⟨⟨?_, kept.committed, kept.rolledBack, ?_, ?_, kept.once, ?_, kept.history⟩, Nat.le_max_right _ _, ?_, ?_⟩
  · show r.manager.stats.totalTransactions + 1 = _
    rw [kept.total, longer]
    rfl
  · rw [active, kept.active, length]
    rfl
  · rw [peak, kept.active, kept.peak, length]
    show _ = ((max r.highest (r.manager.uncompleted.length + 1) : Nat) : Int)
    omega
  · intro id
    rw [kept.completed, longer, ← Bool.not_eq_true, ← Bool.not_eq_true, mem]
    constructor
    · rintro ⟨known, completed⟩
      refine ⟨by omega, ?_⟩
      rintro (left | rfl)
      · exact completed left
      · exact absurd known (Nat.lt_irrefl _)
    · rintro ⟨known, completed⟩
      have other : id ≠ r.manager.scopes.length := fun same => completed (.inr same)
      exact ⟨by omega, fun left => completed (.inl left)⟩
  · rw [DictionaryInvariant, opened, ← kept.dictionary]
    rfl
  · intro id left
    simp only [isCommitted, push, updateStats, List.getElem?_append]
    rcases (mem id).mp left with before | rfl
    · obtain ⟨scope, found, _⟩ := isUncompleted_iff.mp before
      rw [if_pos (List.getElem?_eq_some_iff.mp found).1]
      exact kept.fresh id before
    · simp

theorem isUncompleted_disposed (t : TransactionManager δ) (id other : Nat) :
    (t.disposed id).isUncompleted other = t.isUncompleted other := by
  rw [Bool.eq_iff_iff, ← mem_uncompleted, uncompleted_disposed, mem_uncompleted]

theorem isCommitted_disposed (t : TransactionManager δ) (id other : Nat) : (t.disposed id).isCommitted other = t.isCommitted other := by
  simp only [isCommitted, disposed, List.getElem?_modify]
  cases t.scopes[other]? with
  | none => rfl
  | some scope =>
    by_cases here : id = other
    · simp [here]
    · simp [here]

/-- Disposing after a move is recorded as the move. -/
theorem after_disposed (r : RecordedManager δ) (t : TransactionManager δ) (id : Nat) :
    r.after (t.disposed id) = (r.after t).after (t.disposed id) := by
  have none : t.completedBy (t.disposed id) = [] := completedBy_of_same (isUncompleted_disposed t id)
  have same : r.manager.completedBy (t.disposed id) = r.manager.completedBy t :=
    List.filter_congr fun other _ => by rw [isUncompleted_disposed]
  simp only [after, none, same, isCommitted_disposed, uncompleted_disposed, List.map_nil, List.append_nil]
  congr 1
  omega

theorem Kept.disposes (kept : r.Kept) (id : Nat) : (r.after (r.manager.disposed id)).Kept := by
  have opened : (r.manager.disposed id).uncompleted = r.manager.uncompleted := uncompleted_disposed
  have same := isUncompleted_disposed r.manager id
  have length : (r.manager.disposed id).scopes.length = r.manager.scopes.length := by simp [disposed]
  have highest : max r.highest (r.manager.disposed id).uncompleted.length = r.highest := by
    rw [opened]
    exact Nat.max_eq_left kept.below
  rw [after_of_none (completedBy_of_same same), highest]
  refine ⟨⟨?_, kept.committed, kept.rolledBack, ?_, kept.peak, kept.once, ?_, kept.history⟩, ?_, ?_, ?_⟩
  · rw [length]
    exact kept.total
  · rw [opened]
    exact kept.active
  · intro other
    rw [length, same]
    exact kept.completed other
  · rw [opened]
    exact kept.below
  · rw [DictionaryInvariant, opened]
    exact kept.dictionary
  · intro other left
    rw [same] at left
    rw [isCommitted_disposed]
    exact kept.fresh other left

/-- A completion is recorded, counted by how it ended, and put at the end of the history. -/
theorem Kept.completes (kept : r.Kept) {id : Nat} (left : r.manager.isUncompleted id = true) (committed : Bool) :
    (r.after (r.manager.completeTransactionAsync id committed)).Kept := by
  obtain ⟨scope, found, uncompleted⟩ := isUncompleted_iff.mp left
  have known : id < r.manager.scopes.length := (List.getElem?_eq_some_iff.mp found).1
  have distinct : r.manager.uncompleted.Nodup := (uncompleted_sorted r.manager).imp Nat.ne_of_lt
  have opened : (r.manager.completeTransactionAsync id committed).uncompleted = r.manager.uncompleted.filter (· != id) :=
    uncompleted_complete committed
  have fewer : (r.manager.completeTransactionAsync id committed).uncompleted.length + 1 = r.manager.uncompleted.length := by
    rw [opened, ← distinct.erase_eq_filter, List.length_erase_of_mem (mem_uncompleted.mpr left)]
    exact Nat.sub_add_cancel (List.length_pos_of_mem (mem_uncompleted.mpr left))
  have length : (r.manager.completeTransactionAsync id committed).scopes.length = r.manager.scopes.length := by
    simp [completeTransactionAsync, updateStats]
  have one : r.manager.completedBy (r.manager.completeTransactionAsync id committed) = [id] := by
    have only : r.manager.completedBy (r.manager.completeTransactionAsync id committed) = r.manager.uncompleted.filter (· == id) := by
      refine List.filter_congr fun other member => ?_
      rw [isUncompleted_complete, mem_uncompleted.mp member, Bool.true_and, bne, Bool.not_not]
    rw [only, List.filter_beq, List.count_eq_one_of_mem distinct (mem_uncompleted.mpr left)]
    rfl
  have ended : (r.manager.completeTransactionAsync id committed).isCommitted id = committed := by
    have fresh := kept.fresh id left
    simp only [isCommitted, completeTransactionAsync, updateStats, List.getElem?_modify, found] at fresh ⊢
    simp at fresh
    simp [fresh]
  have recorded : r.after (r.manager.completeTransactionAsync id committed) =
      { manager := r.manager.completeTransactionAsync id committed, completions := r.completions ++ [(id, committed)], highest := r.highest } := by
    rw [after, one, List.map_singleton, ended]
    congr 1
    have below := kept.below
    omega
  rw [recorded]
  have old : id ∉ r.completions.map Prod.fst := fun member => by
    have completed := ((kept.completed id).mp member).2
    exact absurd (completed.symm.trans left) Bool.false_ne_true
  have below := kept.below
  have peak := kept.peak
  have active := kept.active
  refine ⟨⟨?_, ?_, ?_, ?_, ?_, ?_, ?_, ?_⟩, ?_, ?_, ?_⟩
  · rw [length]
    exact kept.total
  · show (if committed then r.manager.stats.committedTransactions + 1 else r.manager.stats.committedTransactions) = _
    rw [List.countP_append, kept.committed]
    cases committed <;> simp
  · show (if committed then r.manager.stats.rolledBackTransactions else r.manager.stats.rolledBackTransactions + 1) = _
    rw [List.countP_append, kept.rolledBack]
    cases committed <;> simp
  · show r.manager.stats.activeTransactions - 1 = _
    dsimp only
    omega
  · show max (r.manager.stats.activeTransactions - 1) r.manager.stats.peakConcurrentTransactions = (r.highest : Int)
    omega
  · rw [List.map_append, List.map_singleton]
    exact List.nodup_append.mpr ⟨kept.once, List.nodup_singleton id, fun a member b single same => old (by simp_all)⟩
  · intro other
    rw [List.map_append, List.map_singleton, List.mem_append, List.mem_singleton, kept.completed, length, isUncompleted_complete]
    by_cases same : other = id
    · simp [same, known]
    · simp [same]
  · have trimmed : (r.manager.completeTransactionAsync id committed).transactionHistory =
        (r.manager.transactionHistory ++ [id]).rtake 1000 := by
      rw [List.rtake, List.length_append, List.length_singleton, completeTransactionAsync, updateStats]
    rw [List.map_append, List.map_singleton, ← rtake_concat, ← kept.history]
    exact trimmed
  · show (r.manager.completeTransactionAsync id committed).uncompleted.length ≤ r.highest
    omega
  · rw [DictionaryInvariant, opened, ← distinct.erase_eq_filter, ← kept.dictionary]
    rfl
  · intro other open_
    rw [isUncompleted_complete, Bool.and_eq_true] at open_
    have before := kept.fresh other open_.1
    have different : id ≠ other := fun same => by simp [same] at open_
    simp only [isCommitted, completeTransactionAsync, updateStats, List.getElem?_modify] at before ⊢
    cases there : r.manager.scopes[other]? with
    | none => simp
    | some scope =>
      rw [there] at before
      simpa [different] using before

theorem Kept.step (kept : r.Kept) (ended : DisposedCompleted r.manager) (call : Call δ) : (r.step call).Kept := by
  have moved := moves_step ended call
  show (r.after (r.manager.step call)).Kept
  generalize r.manager.step call = t at moved
  cases moved with
  | stays =>
    have highest : max r.highest r.manager.uncompleted.length = r.highest := Nat.max_eq_left kept.below
    rw [after_of_none (completedBy_of_same fun _ => rfl), highest]
    exact kept
  | begins transactionInfo => exact kept.begins transactionInfo
  | disposes completed => exact kept.disposes _
  | completes left committed => exact kept.completes left committed
  | closes left =>
    rw [after_disposed]
    exact (kept.completes left false).disposes _

/-- In every state of every run the statistics add up: what began is committed, rolled back
    or open, the peak is the most that were open at once, each scope was completed at most
    once, and the history holds the latest thousand completions in their order. -/
theorem statistics_add_up (calls : List (Call δ)) : Throughout step Accounted ({} : RecordedManager δ) calls := by
  have start : Kept ({} : RecordedManager δ) :=
    ⟨⟨rfl, rfl, rfl, rfl, rfl, List.nodup_nil, fun id => by simp, (List.rtake_nil 1000).symm⟩, Nat.le_refl _, rfl, fun id left => by simp [isUncompleted] at left⟩
  have keeps (r : RecordedManager δ) (call : Call δ) (inv : r.Kept ∧ DisposedCompleted r.manager) (_ : True) :
      (r.step call).Kept ∧ DisposedCompleted (r.step call).manager :=
    ⟨inv.1.step inv.2 call, disposedCompleted_step inv.2 call⟩
  exact throughout_mono (fun _ inv => inv.1.accounted)
    (throughout_keeps keeps ⟨start, disposedCompleted_start⟩ (along_of_mem fun _ _ _ => trivial))

end RecordedManager
end RevitPy.Bridge
