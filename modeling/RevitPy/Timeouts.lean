import RevitPy.AsyncTransactions

/-!
# Timeouts

The task that a scope starts for its timeout is never cancelled. When it wakes up it
looks whether any transaction is active, and rolls back the innermost level, which
may belong to another scope.
-/

namespace RevitPy
variable {ν : Type}

namespace AsyncTransaction

/-- The levels that are open, by their ids, from the outermost on. -/
def levels (t : AsyncTransaction ν) : List Nat :=
  (t.context.toList ++ t.nested_transactions).map AsyncTransactionContext.transaction_id

/-- A rollback leaves the levels as they are: it waits, or the unit of work is interrupted. -/
def Spared (t : AsyncTransaction ν) (rollback_async : Ending) : Prop :=
  t.locked = true ∨ t.nested_transactions = [] ∧ t.unit_of_work = true ∧ ∃ e, rollback_async = .interrupted e

end AsyncTransaction

/-- Where the task of a timeout is: it sleeps, it has seen an active transaction and
    rolls back, or it is over. -/
inductive TimeoutPhase
  | sleeping
  | rolling_back
  | finished
  deriving DecidableEq

/-- The task of a timeout, and the level that its scope began. -/
structure TimeoutTask where
  level : Nat
  phase : TimeoutPhase := .sleeping

/-- A transaction in use: how many scopes are entered, and the tasks of the timeouts. -/
structure ScopedTransaction (ν : Type) where
  transaction : AsyncTransaction ν
  scopes : Nat := 0
  tasks : List TimeoutTask := []

/-- What happens to a transaction in use. A task that has woken up has to wait for its
    turn where the lock is held. -/
inductive ScopeEvent
  | enter
  | leave (exception : Bool) (commit_async rollback_async : Ending)
  | call (c : TransactionCall)
  | wake (task : Nat)
  | fire (task : Nat) (rollback_async : Ending)

namespace ScopedTransaction

/-- `__aenter__`. -/
def enter (s : ScopedTransaction ν) : ScopedTransaction ν := match s.transaction.begin with
  | (.returned, begun) =>
    { transaction := begun
      scopes := s.scopes + 1
      tasks := if s.transaction.timeout then s.tasks ++ [{ level := s.transaction.created }] else s.tasks }
  | (_, failed) => { s with transaction := failed }

/-- `__aexit__`. -/
def leave (s : ScopedTransaction ν) (exception : Bool) (commit_async rollback_async : Ending) : ScopedTransaction ν :=
  if s.scopes = 0 then s
  else
    { s with
      transaction :=
        if exception then (s.transaction.rollback rollback_async).2
        else if s.transaction.auto_commit ∧ s.transaction.is_active then (s.transaction.commit commit_async rollback_async).2
        else s.transaction
      scopes := s.scopes - 1 }

def step (s : ScopedTransaction ν) : ScopeEvent → ScopedTransaction ν
  | .enter => s.enter
  | .leave exception commit_async rollback_async => s.leave exception commit_async rollback_async
  | .call c => { s with transaction := (s.transaction.call c).2 }
  | .wake task => match s.tasks[task]? with
    | some ⟨level, .sleeping⟩ =>
      { s with tasks := s.tasks.set task ⟨level, if s.transaction.is_active then .rolling_back else .finished⟩ }
    | _ => s
  | .fire task rollback_async => match s.tasks[task]? with
    | some ⟨level, .rolling_back⟩ => match s.transaction.rollback rollback_async with
      | (.waiting, _) => s
      | (_, ended) =>
        { s with
          transaction := ended
          tasks := s.tasks.set task ⟨level, .finished⟩ }
    | _ => s

/-- A task that fires ends no level but the one its scope began. -/
def EndsOwn (s : ScopedTransaction ν) : ScopeEvent → Prop
  | .fire task rollback_async => ∀ level, s.tasks[task]? = some ⟨level, .rolling_back⟩ →
      ∀ l ∈ s.transaction.levels, l ∉ (s.step (.fire task rollback_async)).transaction.levels → l = level
  | _ => True

/-- A task fires while the innermost level is the one its scope began, or no level is
    open, or none is rolled back. -/
def InScope (s : ScopedTransaction ν) : ScopeEvent → Prop
  | .fire task rollback_async => ∀ level, s.tasks[task]? = some ⟨level, .rolling_back⟩ →
      s.transaction.Spared rollback_async ∨ ∀ innermost, s.transaction.levels.getLast? = some innermost → innermost = level
  | _ => True

def AllEndOwn (s : ScopedTransaction ν) : List ScopeEvent → Prop
  | [] => True
  | event :: rest => s.EndsOwn event ∧ AllEndOwn (s.step event) rest

def AllInScope (s : ScopedTransaction ν) : List ScopeEvent → Prop
  | [] => True
  | event :: rest => s.InScope event ∧ AllInScope (s.step event) rest

end ScopedTransaction

/-! ## Levels -/

namespace AsyncTransaction

/-- Levels are begun one after the other, and an inner one is open only inside an
    outer one. -/
structure Ordered (t : AsyncTransaction ν) : Prop where
  active : ∀ context, t.context = some context → context.is_active = true
  nested : t.context = none → t.nested_transactions = []
  increasing : t.levels.Pairwise (· < ·)
  created : ∀ l ∈ t.levels, l < t.created

variable {t : AsyncTransaction ν}

theorem Ordered.of_sublist (ordered : Ordered t) {u : AsyncTransaction ν} (created : u.created = t.created)
    (fewer : u.levels.Sublist t.levels) (active : ∀ context, u.context = some context → context.is_active = true)
    (nested : u.context = none → u.nested_transactions = []) : Ordered u where
  active := active
  nested := nested
  increasing := ordered.increasing.sublist fewer
  created l member := created ▸ ordered.created l (fewer.mem member)

theorem Ordered.lock (ordered : Ordered t) (locked : Bool) : Ordered { t with locked := locked } :=
  ⟨ordered.active, ordered.nested, ordered.increasing, ordered.created⟩

theorem Ordered.under_lock (ordered : Ordered t) {body : AsyncTransaction ν → CallResult × AsyncTransaction ν}
    (keeps : ∀ u, Ordered u → Ordered (body u).2) : Ordered (t.under_lock body).2 := by
  have kept := keeps _ (ordered.lock true)
  unfold AsyncTransaction.under_lock
  split
  · exact ordered
  · split
    · next ended => exact ended ▸ kept
    · next ended => exact (ended ▸ kept).lock false

theorem Ordered.pop (ordered : Ordered t) : Ordered { t with nested_transactions := t.nested_transactions.dropLast } := by
  refine ordered.of_sublist rfl ?_ ordered.active fun outermost => ?_
  · exact ((List.dropLast_sublist _).append_left _).map _
  · rw [ordered.nested outermost]
    rfl

theorem Ordered.ended (ordered : Ordered t) (outermost : t.nested_transactions = []) (change_tracker : ChangeTracker ν) :
    Ordered { t with
      change_tracker := change_tracker
      context := none } := by
  refine ordered.of_sublist rfl ?_ (fun _ found => by cases found) fun _ => outermost
  simp [levels, outermost]

/-- A change of the context that keeps its id. -/
theorem Ordered.touch (ordered : Ordered t) (change : AsyncTransactionContext ν → AsyncTransactionContext ν)
    (same : ∀ context, (change context).transaction_id = context.transaction_id)
    (active : ∀ context, (change context).is_active = context.is_active) :
    Ordered { t with context := t.context.map change } := by
  refine ordered.of_sublist rfl ?_ (fun context found => ?_) fun outermost => ordered.nested (Option.map_eq_none_iff.mp outermost)
  · have levels : ({ t with context := t.context.map change } : AsyncTransaction ν).levels = t.levels := by
      cases found : t.context <;> simp [AsyncTransaction.levels, found, same]
    rw [levels]
  · obtain ⟨before, was, rfl⟩ := Option.map_eq_some_iff.mp found
    rw [active]
    exact ordered.active before was

theorem ordered_begin (ordered : Ordered t) : Ordered t.begin.2 := by
  refine ordered.under_lock fun u ordered => ?_
  have below (l : Nat) (member : l ∈ u.levels) : l < u.created + 1 := Nat.lt_succ_of_lt (ordered.created l member)
  split
  · next active =>
    have begun (context : AsyncTransactionContext ν) : (u.context.toList ++ (u.nested_transactions ++ [context])).map
        AsyncTransactionContext.transaction_id = u.levels ++ [context.transaction_id] := by simp [levels]
    refine ⟨ordered.active, fun outermost => ?_, ?_, fun l member => ?_⟩
    · simp [is_active, show u.context = none from outermost] at active
    · rw [levels, begun, List.pairwise_append]
      exact ⟨ordered.increasing, List.pairwise_singleton _ _, fun l member m here =>
        List.mem_singleton.mp here ▸ ordered.created l member⟩
    · rw [levels, begun, List.mem_append, List.mem_singleton] at member
      rcases member with member | rfl
      · exact below l member
      · exact Nat.lt_succ_self _
  · next inactive =>
    have outermost : u.nested_transactions = [] := by
      refine ordered.nested (Option.eq_none_iff_forall_ne_some.mpr fun context found => inactive ?_)
      simp [is_active, found, ordered.active context found]
    have begun : ({ u with
        context := some { transaction_id := u.created }
        created := u.created + 1 } : AsyncTransaction ν).levels = [u.created] := by simp [levels, outermost]
    refine ⟨fun context found => ?_, fun missing => ?_, ?_, fun l member => ?_⟩
    · obtain rfl := Option.some.inj found
      rfl
    · cases missing
    · rw [begun]
      exact List.pairwise_singleton _ _
    · rw [begun, List.mem_singleton] at member
      exact member ▸ Nat.lt_succ_self _

theorem ordered_rollback (ordered : Ordered t) (rollback_async : Ending) : Ordered (t.rollback rollback_async).2 := by
  refine ordered.under_lock fun u ordered => ?_
  split
  · exact ordered
  · split
    · exact ordered.pop
    · next outermost =>
      have outermost := Decidable.of_not_not outermost
      split
      · exact ordered.ended outermost _
      · exact ordered.ended outermost u.change_tracker
      · exact ordered

theorem ordered_commit (ordered : Ordered t) (commit_async rollback_async : Ending) :
    Ordered (t.commit commit_async rollback_async).2 := by
  refine ordered.under_lock fun u ordered => ?_
  split
  · exact ordered
  · split
    · next nested_context _ => exact (ordered.pop).touch _ (fun _ => rfl) fun _ => rfl
    · next outermost =>
      split
      · exact ordered.ended (List.getLast?_eq_none_iff.mp outermost) _
      · have kept := ordered_rollback ordered rollback_async
        split
        · next rolled_back =>
          rw [rolled_back] at kept
          exact kept
        · exact kept
      · exact ordered

theorem ordered_call (ordered : Ordered t) (c : TransactionCall) : Ordered (t.call c).2 := by
  cases c with
  | begin => exact ordered_begin ordered
  | commit commit_async rollback_async => exact ordered_commit ordered commit_async rollback_async
  | rollback rollback_async => exact ordered_rollback ordered rollback_async
  | create_savepoint name =>
    refine ordered.under_lock fun u ordered => ?_
    split
    · exact ordered
    · exact ordered.touch _ (fun _ => rfl) fun _ => rfl
  | rollback_to_savepoint name =>
    refine ordered.under_lock fun u ordered => ?_
    split
    · exact ordered
    · next context found =>
      split
      · exact ordered
      · have same : u.context = some context := (Option.filter_eq_some_iff.mp found).1
        have touched := ordered.touch (fun context => { context with
          savepoints := context.savepoints.take (context.savepoints.idxOf name + 1) }) (fun _ => rfl) fun _ => rfl
        rw [same] at touched
        exact touched

/-- A rollback ends the innermost level, unless it is spared. -/
theorem Ordered.levels_rollback (ordered : Ordered t) (rollback_async : Ending) :
    (t.Spared rollback_async → (t.rollback rollback_async).2.levels = t.levels) ∧
      (¬t.Spared rollback_async → (t.rollback rollback_async).2.levels = t.levels.dropLast) := by
  by_cases locked : t.locked = true
  · rw [rollback_locked locked]
    exact ⟨fun _ => rfl, fun exposed => absurd (Or.inl locked) exposed⟩
  · obtain ⟨change_tracker, unit_of_work, auto_commit, timeout, context, held, nested_transactions, created⟩ := t
    obtain rfl : held = false := Bool.eq_false_iff.mpr locked
    cases context with
    | none =>
      have outermost : nested_transactions = [] := ordered.nested rfl
      simp [rollback, AsyncTransaction.under_lock, is_active, levels, outermost]
    | some context =>
      have active : context.is_active = true := ordered.active context rfl
      by_cases outermost : nested_transactions = []
      · cases unit_of_work <;> cases rollback_async <;>
          simp [rollback, AsyncTransaction.under_lock, is_active, levels, Spared, active, outermost]
      · simp [rollback, AsyncTransaction.under_lock, is_active, levels, Spared, active, outermost]
        exact (List.dropLast_cons_of_ne_nil (by simpa using outermost)).symm

/-- In order, the level that a `dropLast` loses is the last. -/
theorem Ordered.lost_iff (ordered : Ordered t) (l : Nat) :
    l ∈ t.levels ∧ l ∉ t.levels.dropLast ↔ t.levels.getLast? = some l := by
  have increasing := ordered.increasing
  rcases List.eq_nil_or_concat t.levels with none_open | ⟨outer, innermost, levels⟩
  · simp [none_open]
  · rw [levels, List.concat_eq_append] at increasing ⊢
    have before : l ∈ outer → l < innermost := fun member =>
      (List.pairwise_append.mp increasing).2.2 l member innermost (List.mem_singleton_self _)
    rw [List.dropLast_concat, List.getLast?_concat, List.mem_append, List.mem_singleton, Option.some.injEq]
    constructor
    · rintro ⟨member | rfl, lost⟩
      · exact absurd member lost
      · rfl
    · rintro rfl
      exact ⟨Or.inr rfl, fun member => lt_irrefl _ (before member)⟩

end AsyncTransaction

/-! ## Tasks that fire -/

namespace ScopedTransaction
variable {s : ScopedTransaction ν}

/-- What a task that fires does to the levels is the rollback. -/
theorem levels_fire {task level : Nat} (ready : s.tasks[task]? = some ⟨level, .rolling_back⟩) (rollback_async : Ending) :
    (s.step (.fire task rollback_async)).transaction.levels = (s.transaction.rollback rollback_async).2.levels := by
  simp only [step, ready]
  split
  · next waits =>
    by_cases locked : s.transaction.locked = true
    · rw [AsyncTransaction.rollback_locked locked]
    · have completes := AsyncTransaction.completes_rollback (Bool.eq_false_iff.mpr locked) rollback_async
      exact absurd (congrArg Prod.fst waits) completes.1
  · next ended => rw [ended]

/-- A step ends only its own level exactly if it is in scope. -/
theorem ends_own_iff (ordered : s.transaction.Ordered) (event : ScopeEvent) : s.EndsOwn event ↔ s.InScope event := by
  cases event with
  | fire task rollback_async =>
    refine forall_congr' fun level => forall_congr' fun ready => ?_
    rw [levels_fire ready]
    obtain ⟨spares, ends⟩ := ordered.levels_rollback rollback_async
    by_cases spared : s.transaction.Spared rollback_async
    · rw [spares spared]
      exact ⟨fun _ => Or.inl spared, fun _ l member lost => absurd member lost⟩
    · rw [ends spared, or_iff_right spared]
      refine forall_congr' fun l => ?_
      rw [← ordered.lost_iff, and_imp]
  | _ => exact Iff.rfl

theorem ordered_step (ordered : s.transaction.Ordered) (event : ScopeEvent) : (s.step event).transaction.Ordered := by
  cases event with
  | enter =>
    have begun := AsyncTransaction.ordered_begin ordered
    simp only [step, enter]
    split <;> next answer => rw [answer] at begun; exact begun
  | leave exception commit_async rollback_async =>
    simp only [step, leave]
    split
    · exact ordered
    · split
      · exact AsyncTransaction.ordered_rollback ordered rollback_async
      · split
        · exact AsyncTransaction.ordered_commit ordered commit_async rollback_async
        · exact ordered
  | call c => exact AsyncTransaction.ordered_call ordered c
  | wake task =>
    simp only [step]
    split <;> exact ordered
  | fire task rollback_async =>
    have ended := AsyncTransaction.ordered_rollback ordered rollback_async
    simp only [step]
    split
    · split
      · exact ordered
      · next answer =>
        rw [answer] at ended
        exact ended
    · exact ordered

theorem all_end_own_iff (ordered : s.transaction.Ordered) (events : List ScopeEvent) : s.AllEndOwn events ↔ s.AllInScope events := by
  induction events generalizing s with
  | nil => exact Iff.rfl
  | cons event rest ih => exact and_congr (ends_own_iff ordered event) (ih (ordered_step ordered event))

/-- Tasks end no level but their own exactly if each fires while the innermost open
    level is its own, or none is open. -/
theorem timeouts_iff (change_tracker : ChangeTracker ν) (unit_of_work auto_commit timeout : Bool) (events : List ScopeEvent) :
    AllEndOwn ⟨{ change_tracker, unit_of_work, auto_commit, timeout }, 0, []⟩ events ↔
      AllInScope ⟨{ change_tracker, unit_of_work, auto_commit, timeout }, 0, []⟩ events :=
  all_end_own_iff ⟨fun _ found => (by cases found), fun _ => rfl, List.Pairwise.nil, fun _ member => (by cases member)⟩ events

/-- The task of a scope that was left rolls back the scope that is entered next. -/
theorem next_scope_ended :
    ¬∀ (change_tracker : ChangeTracker Nat) (unit_of_work auto_commit : Bool) (events : List ScopeEvent),
      AllEndOwn ⟨{ change_tracker, unit_of_work, auto_commit, timeout := true }, 0, []⟩ events := by
  intro own
  obtain ⟨_, _, _, _, ends, _⟩ := own {} false true [.enter, .leave false .returned .returned, .enter, .wake 0, .fire 0 .returned]
  exact absurd (ends 0 rfl 1 (by decide) (by decide)) (by decide)

end ScopedTransaction

end RevitPy
