import RevitPy.Context

/-!
# Transactions of a context

A transaction that fails rejects all changes of the change tracker. It keeps no
record of the changes that were pending when it began.
-/

namespace RevitPy
variable {α κ ν : Type}

/-- How code from outside ends, such as the block of a `with` statement: it may raise
    an `Exception`, or something else such as `KeyboardInterrupt`. -/
inductive Ending
  | returned
  | raised (message : String)
  | interrupted (message : String)

/-- What leaves a transaction. -/
inductive TransactionFailure
  | block (message : String)
  | interrupt (message : String)
  | context (exception : ContextException)

namespace RevitContext

/-- The handler of a transaction: changes are rejected, and the exception is raised
    again unless the rejection raises itself. -/
def roll_back (c : RevitContext α κ ν) (failure : TransactionFailure) : Except TransactionFailure Unit × RevitContext α κ ν :=
  match c.reject_changes none with
  | (.error e, c) => (.error (.context e), c)
  | (.ok _, c) => (.error failure, c)

/-- What follows the block. -/
def conclude (env : Environment α κ ν) (auto_commit : Bool) :
    Ending × RevitContext α κ ν → Except TransactionFailure Unit × RevitContext α κ ν
  | (.interrupted message, c) => (.error (.interrupt message), c)
  | (.raised message, c) => c.roll_back (.block message)
  | (.returned, c) =>
    if auto_commit ∧ c.has_changes then match c.save_changes env with
      | (.error e, c) => c.roll_back (.context e)
      | (.ok _, c) => (.ok (), c)
    else (.ok (), c)

/-- `with context.transaction(auto_commit): block`. -/
def transaction (env : Environment α κ ν) (c : RevitContext α κ ν) (auto_commit : Bool)
    (block : RevitContext α κ ν → Ending × RevitContext α κ ν) : Except TransactionFailure Unit × RevitContext α κ ν :=
  if c.is_disposed then (.error (.context (.ORMException "RevitContext has been disposed")), c)
  else
    let (result, left) := conclude env auto_commit (block c)
    (result, { left with change_tracker := { left.change_tracker with auto_track := c.change_tracker.auto_track } })

/-! ## What a failed transaction leaves -/

/-- The changes are rejected when a transaction fails after this end of its block. -/
def RollsBack : Ending × RevitContext α κ ν → Prop
  | (.interrupted _, _) => False
  | (.raised _, c) | (.returned, c) => c.is_disposed = false

instance : DecidablePred (RollsBack (α := α) (κ := κ) (ν := ν))
  | (.interrupted _, _) => inferInstanceAs (Decidable False)
  | (.raised _, c) | (.returned, c) => inferInstanceAs (Decidable (c.is_disposed = false))

theorem roll_back_disposed {c : RevitContext α κ ν} (failure : TransactionFailure) (disposed : c.is_disposed = true) :
    (c.roll_back failure).2 = c := by
  simp [roll_back, reject_changes, tracking, ensure_not_disposed, disposed]

theorem nothing_pending_roll_back {c : RevitContext α κ ν} (failure : TransactionFailure) (alive : c.is_disposed = false) :
    (c.roll_back failure).2.change_tracker.get_all_changes = [] := by
  have rejected : (c.roll_back failure).2.change_tracker = c.change_tracker.reject_changes none := by
    simp [roll_back, reject_changes, tracking, ensure_not_disposed, alive]
  rw [rejected, ChangeTracker.get_all_changes_eq_nil, ChangeTracker.has_changes_reject_changes]

theorem commit_keeps (env : Environment α κ ν) (c : RevitContext α κ ν) (changes : List (ChangeSet ν)) :
    (c.commit env changes).2.change_tracker = c.change_tracker ∧ (c.commit env changes).2.is_disposed = c.is_disposed := by
  unfold commit
  split
  · exact ⟨rfl, rfl⟩
  · split <;> exact ⟨rfl, rfl⟩

/-- A save that raises leaves the changes as they were. -/
theorem save_changes_raised (env : Environment α κ ν) {c failed : RevitContext α κ ν} {e : ContextException}
    (raised : c.save_changes env = (.error e, failed)) :
    failed.change_tracker = c.change_tracker ∧ failed.is_disposed = c.is_disposed := by
  unfold save_changes ensure_not_disposed at raised
  split at raised
  · obtain ⟨-, rfl⟩ := Prod.mk.inj raised
    exact ⟨rfl, rfl⟩
  · split at raised
    · simp only at raised
      split at raised
      · next committed =>
        obtain ⟨-, rfl⟩ := Prod.mk.inj raised
        have keeps := c.commit_keeps env c.change_tracker.get_all_changes
        rw [committed] at keeps
        exact keeps
      · cases (Prod.mk.inj raised).1
    · cases (Prod.mk.inj raised).1

/-- A block that fails, or is followed by a save that fails, leaves no pending changes
    or those that it left. -/
theorem pending_concluded (env : Environment α κ ν) (auto_commit : Bool) (ended : Ending × RevitContext α κ ν)
    (raises : (conclude env auto_commit ended).1 ≠ .ok ()) :
    (conclude env auto_commit ended).2.change_tracker.get_all_changes =
      if RollsBack ended then [] else ended.2.change_tracker.get_all_changes := by
  obtain ⟨outcome, c⟩ := ended
  have rolled_back (failed : RevitContext α κ ν) (failure : TransactionFailure)
      (kept : failed.change_tracker = c.change_tracker ∧ failed.is_disposed = c.is_disposed) :
      (failed.roll_back failure).2.change_tracker.get_all_changes =
        if c.is_disposed = false then [] else c.change_tracker.get_all_changes := by
    split
    · next alive => exact nothing_pending_roll_back failure (kept.2.trans alive)
    · next disposed => rw [roll_back_disposed failure (kept.2.trans (Bool.not_eq_false _ ▸ disposed)), kept.1]
  cases outcome with
  | interrupted message => exact (if_neg id).symm
  | raised message => exact rolled_back c _ ⟨rfl, rfl⟩
  | returned =>
    by_cases commits : auto_commit = true ∧ c.has_changes = true
    · cases saved : c.save_changes env with
      | mk result left =>
        simp only [conclude, if_pos commits, saved] at raises ⊢
        cases result with
        | error e => exact rolled_back left _ (save_changes_raised env saved)
        | ok count => exact absurd rfl raises
    · simp only [conclude, if_neg commits] at raises
      exact absurd rfl raises

theorem transaction_begun (env : Environment α κ ν) {c : RevitContext α κ ν} (auto_commit : Bool)
    (block : RevitContext α κ ν → Ending × RevitContext α κ ν) (begins : c.is_disposed = false) :
    (c.transaction env auto_commit block).1 = (conclude env auto_commit (block c)).1 ∧
      (c.transaction env auto_commit block).2.change_tracker.get_all_changes =
        (conclude env auto_commit (block c)).2.change_tracker.get_all_changes := by
  simp only [transaction, begins]
  exact ⟨rfl, rfl⟩

/-- A transaction that fails once it has begun leaves no pending changes, or, where it
    does not roll back, those that its block left. -/
theorem pending_after_failure (env : Environment α κ ν) (c : RevitContext α κ ν) (auto_commit : Bool)
    (block : RevitContext α κ ν → Ending × RevitContext α κ ν) (begins : c.is_disposed = false)
    (raises : (c.transaction env auto_commit block).1 ≠ .ok ()) :
    (c.transaction env auto_commit block).2.change_tracker.get_all_changes =
      if RollsBack (block c) then [] else (block c).2.change_tracker.get_all_changes := by
  obtain ⟨result, pending⟩ := transaction_begun env auto_commit block begins
  rw [result] at raises
  rw [pending, pending_concluded env auto_commit (block c) raises]

/-- So what was pending before is kept exactly if nothing was. -/
theorem failure_atomic_iff (env : Environment α κ ν) (c : RevitContext α κ ν) (auto_commit : Bool)
    (block : RevitContext α κ ν → Ending × RevitContext α κ ν) (begins : c.is_disposed = false)
    (raises : (c.transaction env auto_commit block).1 ≠ .ok ()) (rolls_back : RollsBack (block c)) :
    (c.transaction env auto_commit block).2.change_tracker.get_all_changes = c.change_tracker.get_all_changes ↔
      c.has_changes = false := by
  obtain ⟨result, pending⟩ := transaction_begun env auto_commit block begins
  rw [result] at raises
  rw [pending, pending_concluded env auto_commit (block c) raises, if_pos rolls_back, eq_comm,
    ChangeTracker.get_all_changes_eq_nil]
  rfl

/-- However a transaction ends, changes are tracked after it as before it. -/
theorem auto_track_transaction (env : Environment α κ ν) (c : RevitContext α κ ν) (auto_commit : Bool)
    (block : RevitContext α κ ν → Ending × RevitContext α κ ν) :
    (c.transaction env auto_commit block).2.change_tracker.auto_track = c.change_tracker.auto_track := by
  unfold transaction
  split <;> rfl

/-! ## A change made before the block -/

/-- Nothing lies outside this context. -/
def offline : Environment Nat Nat Nat where
  provider := ⟨fun _ => .ok [], fun _ _ => .ok [], fun _ _ => .ok none⟩
  loader := ⟨fun _ _ _ _ => .ok .none, fun _ => true⟩
  unit_of_work := none
  query_hash := fun _ => ""
  view := fun _ _ => { address := 0, type := ⟨0, "Wall"⟩ }
  change_set_type := ⟨1, "ChangeSet"⟩
  address := fun _ _ => 0

def idle : RevitContext Nat Nat Nat :=
  { heap := { (Heap.init : Heap Nat Nat) with caches := ⟨1, fun _ => {}⟩ }, cache_manager := 0 }

def resized (c : RevitContext Nat Nat Nat) : RevitContext Nat Nat Nat :=
  { c with change_tracker := c.change_tracker.track_property_change { address := 7, type := ⟨0, "Wall"⟩ } "Width" 1 2 }

/-- The change that a block makes before it raises is undone. -/
theorem resize_undone :
    (idle.transaction offline true fun c => (.raised "ValueError", c.resized)).2.change_tracker.get_all_changes = [] :=
  (pending_after_failure offline idle true (fun c => (.raised "ValueError", c.resized)) rfl nofun).trans (if_pos rfl)

/-- A change made before the block is lost when the block raises. -/
theorem resize_lost :
    ¬∀ (env : Environment Nat Nat Nat) (c : RevitContext Nat Nat Nat) (auto_commit : Bool)
        (block : RevitContext Nat Nat Nat → Ending × RevitContext Nat Nat Nat),
      c.is_disposed = false → (c.transaction env auto_commit block).1 ≠ .ok () →
        (c.transaction env auto_commit block).2.change_tracker.get_all_changes = c.change_tracker.get_all_changes := by
  intro atomic
  have kept := atomic offline idle.resized true (fun c => (.raised "ValueError", c)) rfl nofun
  exact absurd (congrArg List.length kept) (by decide +kernel)

end RevitContext

end RevitPy
