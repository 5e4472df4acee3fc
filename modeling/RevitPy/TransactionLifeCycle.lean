import Mathlib.Data.List.Nodup
import RevitPy.Runs
import RevitPy.TransactionScopes

/-!
# The life cycle of a transaction

What a transaction asks of its provider and which of its handlers it runs is written to
a log beside the world. The log never has handlers of both kinds, and none twice. That a
transaction is rolled back says less: the provider's answer to a rollback is only logged
as a message, and without a handle the provider is not asked.
-/

namespace RevitPy.Api
variable {σ η τ : Type}

inductive Event
  | started
  | committed (answer : Outcome Bool)
  | rolled_back (answer : Outcome Bool)
  | commit_handler (i : Nat)
  | rollback_handler (i : Nat)
  deriving DecidableEq

/-- A world and what has happened in it so far. -/
abbrev Logged (σ : Type) := σ × List Event

/-- The provider, with its calls noted in a list beside the world. -/
def Provider.observed {ε : Type} (note : Event → ε) (p : Provider σ η) : Provider (σ × List ε) η where
  start_transaction name w := match p.start_transaction name w.1 with
    | (.returned handle, s) => (.returned handle, s, w.2 ++ [note .started])
    | (failed, s) => (failed, s, w.2)
  commit_transaction handle w :=
    let (answer, s) := p.commit_transaction handle w.1
    (answer, s, w.2 ++ [note (.committed answer)])
  rollback_transaction handle w :=
    let (answer, s) := p.rollback_transaction handle w.1
    (answer, s, w.2 ++ [note (.rolled_back answer)])
  truthy := p.truthy

/-- The provider, with its calls written to the log. -/
def Provider.logged (p : Provider σ η) : Provider (Logged σ) η := p.observed id

/-- An operation, which leaves the log alone. -/
def unlogged (operation : Callback σ) : Callback (Logged σ) := fun w =>
  let (answer, s) := operation w.1
  (answer, s, w.2)

/-- A handler, with its call written to the log. -/
def noting (event : Event) (handler : Callback σ) : Callback (Logged σ) := fun w =>
  let (answer, s) := handler w.1
  (answer, s, w.2 ++ [event])

/-- A call of a transaction. Handlers are numbered in the order in which they are added. -/
def TransactionCall.logged (t : Transaction (Logged σ) η) : TransactionCall σ → TransactionCall (Logged σ)
  | .add_operation operation => .add_operation (unlogged operation)
  | .add_rollback_handler handler => .add_rollback_handler (noting (.rollback_handler t._rollback_handlers.length) handler)
  | .add_commit_handler handler => .add_commit_handler (noting (.commit_handler t._commit_handlers.length) handler)
  | .start => .start
  | .commit => .commit
  | .rollback => .rollback

/-- A call of a transaction, or the exit of its context, whose exceptions are caught. -/
inductive LifeCall (σ : Type)
  | method (call : TransactionCall σ)
  | exit (raises : Bool)

/-- A transaction and the logged world. -/
abbrev Life (σ η : Type) := Transaction (Logged σ) η × Logged σ

namespace Life
variable (p : Provider σ η)

def step (l : Life σ η) : LifeCall σ → Life σ η
  | .method call => Transaction.call p.logged l (call.logged l.1)
  | .exit raises => (l.1.exit p.logged raises l.2).2

/-- `Transaction(provider, options)`, before its first call. -/
def fresh (name : String) (auto_commit : Bool) (s : σ) : Life σ η := ({ name, auto_commit }, s, [])

end Life

/-! ## What is promised -/

/-- Commit handlers run only after a commit that returned true, no handler runs twice, the
    two kinds never both run, nothing is rolled back after a successful commit, and a
    transaction that is rolled back was started and then confirmed as rolled back. -/
structure LifeCycle (status : TransactionStatus) (log : List Event) : Prop where
  commit_handlers_after : ∀ i, .commit_handler i ∈ log → List.Sublist [.committed (.returned true), .commit_handler i] log
  commit_handlers_once : ∀ i, log.count (.commit_handler i) ≤ 1
  rollback_handlers_once : ∀ i, log.count (.rollback_handler i) ≤ 1
  one_kind : ∀ i j, ¬(.commit_handler i ∈ log ∧ .rollback_handler j ∈ log)
  no_rollback_after : ∀ answer, ¬List.Sublist [.committed (.returned true), .rolled_back answer] log
  confirmed : status = .ROLLED_BACK → List.Sublist [.started, .rolled_back (.returned true)] log

/-- A rollback would ask the provider, and not be refused. -/
def Confirms (q : Provider τ η) (t : Transaction τ η) (w : τ) : Prop :=
  t.has_handle q ∧ (q.rollback_transaction t._transaction w).1 ≠ .returned false

/-- A rollback that takes place is confirmed. -/
def RollbackConfirms (q : Provider τ η) (t : Transaction τ η) (w : τ) : Prop :=
  t._status = .STARTED ∨ t._status = .FAILED → Confirms q t w

/-- The rollback of a commit that fails is confirmed. -/
def CommitConfirms (q : Provider τ η) (t : Transaction τ η) (w : τ) : Prop :=
  t._status = .STARTED → match run_operations t._operations w with
    | (.interrupted _, _) => True
    | (.raised _, w) => Confirms q t w
    | (.returned (), w) => match q.commit_transaction t._transaction w with
      | (.interrupted _, _) => True
      | (.returned true, _) => True
      | (_, w) => Confirms q t w

/-- A call does not roll back without the provider's confirmation. -/
def LifeCall.Confirms (p : Provider σ η) (l : Life σ η) : LifeCall σ → Prop
  | .method .commit => CommitConfirms p.logged l.1 l.2
  | .method .rollback => RollbackConfirms p.logged l.1 l.2
  | .exit raises => if ¬raises ∧ l.1.auto_commit then CommitConfirms p.logged l.1 l.2 else RollbackConfirms p.logged l.1 l.2
  | _ => True

/-! ## What a log can be -/

/-- What is logged before a transaction is settled. -/
def Event.Pending : Event → Prop
  | .started => True
  | .committed answer => answer ≠ .returned true
  | .rolled_back answer => ∀ b, answer ≠ .returned b
  | .commit_handler _ => False
  | .rollback_handler _ => False

/-- What is logged once a transaction is settled, from the answer that settles it. -/
inductive Settlement : TransactionStatus → List Event → Prop
  | pending {status : TransactionStatus} (neither : status ≠ .COMMITTED ∧ status ≠ .ROLLED_BACK) : Settlement status []
  | committed (n : Nat) : Settlement .COMMITTED (.committed (.returned true) :: (List.range n).map .commit_handler)
  | rolled_back (n : Nat) : Settlement .ROLLED_BACK ((List.range n).map .rollback_handler)
  | answered (b : Bool) (n : Nat) :
      Settlement .ROLLED_BACK (.rolled_back (.returned b) :: (List.range n).map .rollback_handler)

/-- The log of a transaction by its status. -/
def History (status : TransactionStatus) (log : List Event) : Prop :=
  ∃ before settled, log = before ++ settled ∧ (∀ event ∈ before, event.Pending) ∧ Settlement status settled

theorem count_pending {before : List Event} (all : ∀ event ∈ before, event.Pending) {event : Event} (other : ¬event.Pending) :
    before.count event = 0 := List.count_eq_zero_of_not_mem fun member => other (all event member)

theorem count_range_le {f : Nat → Event} (inj : Function.Injective f) (n i : Nat) : ((List.range n).map f).count (f i) ≤ 1 :=
  List.nodup_iff_count_le_one.mp (List.nodup_range.map inj) (f i)

theorem count_range_other {f : Nat → Event} {event : Event} (other : ∀ i, f i ≠ event) (n : Nat) :
    ((List.range n).map f).count event = 0 := by
  refine List.count_eq_zero_of_not_mem fun member => ?_
  obtain ⟨i, -, same⟩ := List.mem_map.mp member
  exact other i same

theorem commit_handler_injective : Function.Injective Event.commit_handler := fun _ _ same => by cases same; rfl

theorem rollback_handler_injective : Function.Injective Event.rollback_handler := fun _ _ same => by cases same; rfl

namespace Settlement
variable {status : TransactionStatus} {settled : List Event}

theorem count_commit_handler_le (settlement : Settlement status settled) (i : Nat) : settled.count (.commit_handler i) ≤ 1 := by
  cases settlement with
  | pending _ => simp
  | committed n => simpa using count_range_le commit_handler_injective n i
  | rolled_back n => simp [count_range_other]
  | answered b n => simp [count_range_other]

theorem count_rollback_handler_le (settlement : Settlement status settled) (i : Nat) : settled.count (.rollback_handler i) ≤ 1 := by
  cases settlement with
  | pending _ => simp
  | committed n => simp [count_range_other]
  | rolled_back n => exact count_range_le rollback_handler_injective n i
  | answered b n => simpa using count_range_le rollback_handler_injective n i

theorem one_kind (settlement : Settlement status settled) (i j : Nat) :
    ¬(.commit_handler i ∈ settled ∧ .rollback_handler j ∈ settled) := by
  cases settlement <;> simp

/-- Commit handlers come after the commit that settles. -/
theorem commit_handler_after (settlement : Settlement status settled) {i : Nat} (runs : .commit_handler i ∈ settled) :
    List.Sublist [.committed (.returned true), .commit_handler i] settled := by
  cases settlement with
  | committed n => exact (List.singleton_sublist.mpr (by simpa using runs)).cons_cons _
  | _ => simp at runs

theorem no_rollback_after (settlement : Settlement status settled) (answer : Outcome Bool) :
    ¬List.Sublist [.committed (.returned true), .rolled_back answer] settled := by
  intro after
  have commits : .committed (.returned true) ∈ settled := after.subset List.mem_cons_self
  have rolls : .rolled_back answer ∈ settled := after.subset (List.mem_cons_of_mem _ List.mem_cons_self)
  cases settlement <;> simp at commits rolls

end Settlement

namespace History
variable {status : TransactionStatus} {log : List Event}

theorem count_le (history : History status log) {event : Event} (other : ¬event.Pending)
    (once : ∀ settled, Settlement status settled → settled.count event ≤ 1) : log.count event ≤ 1 := by
  obtain ⟨before, settled, rfl, all, settlement⟩ := history
  rw [List.count_append, count_pending all other, Nat.zero_add]
  exact once settled settlement

/-- What is not pending is logged when the transaction is settled. -/
theorem mem_settled {before settled : List Event} (all : ∀ event ∈ before, event.Pending) {event : Event} (other : ¬event.Pending)
    (member : event ∈ before ++ settled) : event ∈ settled :=
  (List.mem_append.mp member).resolve_left fun early => other (all event early)

/-- A history has all that is promised, apart from the provider's confirmation. -/
theorem life_cycle (history : History status log)
    (confirmed : status = .ROLLED_BACK → List.Sublist [.started, .rolled_back (.returned true)] log) : LifeCycle status log where
  commit_handlers_once i := history.count_le id fun _ settlement => settlement.count_commit_handler_le i
  rollback_handlers_once i := history.count_le id fun _ settlement => settlement.count_rollback_handler_le i
  confirmed := confirmed
  commit_handlers_after i runs := by
    obtain ⟨before, settled, rfl, all, settlement⟩ := history
    exact (settlement.commit_handler_after (mem_settled all id runs)).trans (List.sublist_append_right before settled)
  one_kind i j := by
    obtain ⟨before, settled, rfl, all, settlement⟩ := history
    exact fun both => settlement.one_kind i j ⟨mem_settled all id both.1, mem_settled all id both.2⟩
  no_rollback_after answer := by
    obtain ⟨before, settled, rfl, all, settlement⟩ := history
    intro after
    obtain ⟨early, late, split, first, second⟩ := List.sublist_append_iff.mp after
    cases early with
    | nil =>
      obtain rfl : [.committed (.returned true), .rolled_back answer] = late := split
      exact settlement.no_rollback_after answer second
    | cons event rest =>
      obtain ⟨rfl, -⟩ := List.cons.inj split
      exact all _ (first.subset List.mem_cons_self) rfl

end History

/-! ## What the calls log -/

/-- The handlers of a list are numbered by their places. -/
def Numbered (event : Nat → Event) (handlers : List (Callback (Logged σ))) : Prop :=
  ∀ i h, handlers[i]? = some h → ∃ handler, h = noting (event i) handler

theorem numbered_append {event : Nat → Event} {handlers : List (Callback (Logged σ))} (numbered : Numbered event handlers)
    (handler : Callback σ) : Numbered event (handlers ++ [noting (event handlers.length) handler]) := by
  intro i h found
  rcases Nat.lt_or_ge i handlers.length with before | after
  · rw [List.getElem?_append_left before] at found
    exact numbered i h found
  · rw [List.getElem?_append_right after, List.getElem?_singleton] at found
    split at found
    · next last =>
      obtain rfl := Option.some.inj found
      exact ⟨handler, by rw [show i = handlers.length by omega]⟩
    · cases found

/-- Handlers are called one after the other, from the first. -/
theorem log_run_handlers {event : Nat → Event} (handlers : List (Callback (Logged σ))) (numbered : Numbered event handlers)
    (w : Logged σ) : ∃ n, (run_handlers handlers w).2.2 = w.2 ++ (List.range n).map event := by
  induction handlers generalizing event w with
  | nil => exact ⟨0, by simp [run_handlers]⟩
  | cons first rest ih =>
    obtain ⟨handler, rfl⟩ := numbered 0 first rfl
    have later : Numbered (fun i => event (i + 1)) rest := fun i h found => numbered (i + 1) h found
    rw [run_handlers]
    split
    · next e w' answer =>
      refine ⟨1, ?_⟩
      rw [← congrArg (fun answer => answer.2.2) answer]
      rfl
    · next other w' _ answer =>
      obtain ⟨n, ran⟩ := ih later w'
      refine ⟨n + 1, ?_⟩
      rw [ran, ← congrArg (fun answer => answer.2.2) answer, List.range_succ_eq_map]
      simp [noting, Function.comp_def]

theorem log_run_operations (operations : List (Callback (Logged σ))) (quiet : ∀ operation ∈ operations, ∃ f, operation = unlogged f)
    (w : Logged σ) : (run_operations operations w).2.2 = w.2 := by
  induction operations generalizing w with
  | nil => rfl
  | cons first rest ih =>
    obtain ⟨operation, rfl⟩ := quiet first List.mem_cons_self
    rw [run_operations]
    split
    · next w' answer =>
      rw [ih (fun other member => quiet other (List.mem_cons_of_mem _ member)), ← congrArg (fun answer => answer.2.2) answer]
      rfl
    · rfl

/-! ## What the calls keep -/

namespace Life
variable {p : Provider σ η}

/-- The operations leave the log alone, the handlers are numbered, a handle comes from a
    start, and the log fits the status. -/
structure Inv (p : Provider σ η) (l : Life σ η) : Prop where
  operations : ∀ operation ∈ l.1._operations, ∃ f, operation = unlogged f
  commit_handlers : Numbered .commit_handler l.1._commit_handlers
  rollback_handlers : Numbered .rollback_handler l.1._rollback_handlers
  started : l.1.has_handle p.logged = true → .started ∈ l.2.2
  history : History l.1._status l.2.2

/-- A transaction that is rolled back was started, and the provider has confirmed it. -/
def Confirmed (l : Life σ η) : Prop := l.1._status = .ROLLED_BACK → List.Sublist [.started, .rolled_back (.returned true)] l.2.2

theorem pending_of_history {status : TransactionStatus} {log : List Event} (history : History status log)
    (neither : status ≠ .COMMITTED ∧ status ≠ .ROLLED_BACK) : ∀ event ∈ log, event.Pending := by
  obtain ⟨before, settled, rfl, all, settlement⟩ := history
  cases settlement with
  | pending _ => rwa [List.append_nil]
  | committed n => exact absurd rfl neither.1
  | rolled_back n => exact absurd rfl neither.2
  | answered b n => exact absurd rfl neither.2

theorem settle {status : TransactionStatus} {log settled : List Event} (all : ∀ event ∈ log, event.Pending)
    (settlement : Settlement status settled) : History status (log ++ settled) := ⟨log, settled, rfl, all, settlement⟩

theorem stay {status : TransactionStatus} {log : List Event} (neither : status ≠ .COMMITTED ∧ status ≠ .ROLLED_BACK)
    (all : ∀ event ∈ log, event.Pending) : History status log := ⟨log, [], (List.append_nil log).symm, all, .pending neither⟩

theorem pending_append {log : List Event} (all : ∀ event ∈ log, event.Pending) (event : Event) (pending : event.Pending) :
    ∀ other ∈ log ++ [event], other.Pending := by
  intro other member
  rcases List.mem_append.mp member with early | last
  · exact all other early
  · exact List.mem_singleton.mp last ▸ pending

/-- A transaction that moves to a status in which the log fits keeps the invariant. -/
theorem Inv.move {l : Life σ η} (inv : Inv p l) {status : TransactionStatus} {passed : Bool} {w : Logged σ} {more : List Event}
    (log : w.2 = l.2.2 ++ more) (history : History status w.2) :
    Inv p
      ({ l.1 with
        _status := status
        passed := passed }, w) where
  operations := inv.operations
  commit_handlers := inv.commit_handlers
  rollback_handlers := inv.rollback_handlers
  started handle := log ▸ List.mem_append_left _ (inv.started handle)
  history := history

/-- Before an answer of true has been logged, nothing is confirmed. -/
theorem not_confirmed {log settled : List Event} (all : ∀ event ∈ log, event.Pending)
    (silent : .rolled_back (.returned true) ∉ settled) :
    ¬List.Sublist [.started, .rolled_back (.returned true)] (log ++ settled) := by
  intro after
  have confirmed := after.subset (List.mem_cons_of_mem _ List.mem_cons_self)
  exact silent (History.mem_settled all (fun pending => pending true rfl) confirmed)

section
variable {t : Transaction (Logged σ) η} {w : Logged σ}

theorem rollback_spec (inv : Inv p (t, w)) (runs : t._status = .STARTED ∨ t._status = .FAILED) :
    Inv p (t.rollback p.logged w).2 ∧ (Confirmed (t.rollback p.logged w).2 ↔ Confirms p.logged t w) := by
  have neither : t._status ≠ .COMMITTED ∧ t._status ≠ .ROLLED_BACK := by
    rcases runs with status | status
    · exact ⟨by simp [status], by simp [status]⟩
    · exact ⟨by simp [status], by simp [status]⟩
  have all := pending_of_history inv.history neither
  have inside : ¬(t._status ≠ .STARTED ∧ t._status ≠ .FAILED) := fun outside => runs.elim outside.1 outside.2
  unfold Transaction.rollback Confirms
  rw [if_neg inside]
  cases handle : t.has_handle p.logged with
  | false =>
    obtain ⟨n, ran⟩ := log_run_handlers t._rollback_handlers inv.rollback_handlers w
    simp only [Bool.false_eq_true, if_false, false_and, iff_false]
    refine ⟨inv.move ran (ran ▸ settle all (.rolled_back n)), fun confirmed => ?_⟩
    have after : List.Sublist _ (run_handlers t._rollback_handlers w).2.2 := confirmed rfl
    exact not_confirmed all (by simp) (ran ▸ after)
  | true =>
    obtain ⟨answer, s, answered⟩ : ∃ answer s, p.rollback_transaction t._transaction w.1 = (answer, s) := ⟨_, _, rfl⟩
    have asked : p.logged.rollback_transaction t._transaction w = (answer, s, w.2 ++ [.rolled_back answer]) := by
      simp only [Provider.logged, Provider.observed, answered, id_eq]
    simp only [if_true, true_and, Transaction.provider_rollback, asked]
    cases answer with
    | raised e =>
      have log := pending_append all (.rolled_back (.raised e)) nofun
      exact ⟨inv.move rfl (stay ⟨nofun, nofun⟩ log), iff_of_true nofun nofun⟩
    | interrupted e =>
      have log := pending_append all (.rolled_back (.interrupted e)) nofun
      exact ⟨inv.move rfl (stay neither log), iff_of_true (fun rolled => absurd rolled neither.2) nofun⟩
    | returned b =>
      obtain ⟨n, ran⟩ := log_run_handlers t._rollback_handlers inv.rollback_handlers (s, w.2 ++ [.rolled_back (.returned b)])
      rw [List.append_assoc, List.singleton_append] at ran
      refine ⟨inv.move ran (ran ▸ settle all (.answered b n)), fun confirmed => ?_, fun confirms _ => ?_⟩
      · have after : List.Sublist _ (run_handlers t._rollback_handlers (s, w.2 ++ [.rolled_back (.returned b)])).2.2 := confirmed rfl
        rintro ⟨⟩
        exact not_confirmed all (by simp) (ran ▸ after)
      · show List.Sublist _ (run_handlers t._rollback_handlers (s, w.2 ++ [.rolled_back (.returned b)])).2.2
        rw [ran]
        cases b with
        | false => exact absurd rfl confirms
        | true =>
          exact (List.singleton_sublist.mpr (inv.started handle)).append ((List.nil_sublist _).cons_cons _)

theorem commit_spec (inv : Inv p (t, w)) (started : t._status = .STARTED) :
    Inv p (t.commit p.logged w).2 ∧ (Confirmed (t.commit p.logged w).2 ↔ CommitConfirms p.logged t w) := by
  have neither : t._status ≠ .COMMITTED ∧ t._status ≠ .ROLLED_BACK := ⟨by simp [started], by simp [started]⟩
  have all := pending_of_history inv.history neither
  have unsettled {passed : Bool} {w' : Logged σ} : Confirmed ({ t with passed := passed }, w') := fun rolled => absurd rolled neither.2
  have quiet := log_run_operations t._operations inv.operations w
  unfold Transaction.commit CommitConfirms
  rw [if_neg (not_not.mpr started), imp_iff_right started]
  obtain ⟨answer, ⟨s, log⟩, ran⟩ : ∃ answer w', run_operations t._operations w = (answer, w') := ⟨_, _, rfl⟩
  rw [ran] at quiet ⊢
  obtain rfl : log = w.2 := quiet
  have operated : Inv p (t, s, w.2) := inv.move (List.append_nil _).symm inv.history
  cases answer with
  | interrupted e => exact ⟨operated, iff_of_true unsettled trivial⟩
  | raised e =>
    simp only [Transaction.operation_failed_started e started]
    exact rollback_spec operated (Or.inl started)
  | returned =>
    obtain ⟨answer, s', answered⟩ : ∃ answer s', p.commit_transaction t._transaction s = (answer, s') := ⟨_, _, rfl⟩
    have asked : p.logged.commit_transaction t._transaction (s, w.2) = (answer, s', w.2 ++ [.committed answer]) := by
      simp only [Provider.logged, Provider.observed, answered, id_eq]
    simp only [asked]
    -- A commit that fails is rolled back with its answer in the log.
    have fails (message : String) (pending : answer ≠ .returned true) :
        Inv p (Transaction.commit_failed p.logged message { t with passed := true } (s', w.2 ++ [.committed answer])).2 ∧
          (Confirmed (Transaction.commit_failed p.logged message { t with passed := true } (s', w.2 ++ [.committed answer])).2 ↔
            Confirms p.logged t (s', w.2 ++ [.committed answer])) := by
      have log := pending_append all (.committed answer) pending
      rw [Transaction.commit_failed_started (t := { t with passed := true }) message started]
      exact rollback_spec (inv.move rfl (stay neither log)) (Or.inl started)
    cases answer with
    | interrupted e =>
      have log := pending_append all (.committed (.interrupted e)) nofun
      exact ⟨inv.move rfl (stay neither log), iff_of_true unsettled trivial⟩
    | raised e => exact fails e nofun
    | returned success =>
      cases success with
      | false => exact fails _ nofun
      | true =>
        obtain ⟨n, handled⟩ := log_run_handlers t._commit_handlers inv.commit_handlers (s', w.2 ++ [.committed (.returned true)])
        rw [List.append_assoc, List.singleton_append] at handled
        exact ⟨inv.move handled (handled ▸ settle all (.committed n)), iff_of_true nofun trivial⟩

end

variable {l : Life σ η}

theorem commit_step (inv : Inv p l) : Inv p (l.1.commit p.logged l.2).2 ∧
    (Confirmed l → (Confirmed (l.1.commit p.logged l.2).2 ↔ CommitConfirms p.logged l.1 l.2)) := by
  by_cases started : l.1._status = .STARTED
  · exact ⟨(commit_spec inv started).1, fun _ => (commit_spec inv started).2⟩
  · rw [Transaction.commit, if_pos started]
    exact ⟨inv, fun confirmed => iff_of_true confirmed fun other => absurd other started⟩

theorem rollback_step (inv : Inv p l) : Inv p (l.1.rollback p.logged l.2).2 ∧
    (Confirmed l → (Confirmed (l.1.rollback p.logged l.2).2 ↔ RollbackConfirms p.logged l.1 l.2)) := by
  by_cases runs : l.1._status = .STARTED ∨ l.1._status = .FAILED
  · have spec := rollback_spec inv runs
    exact ⟨spec.1, fun _ => spec.2.trans ⟨fun confirms _ => confirms, fun confirms => confirms runs⟩⟩
  · rw [Transaction.rollback, if_pos (not_or.mp runs)]
    exact ⟨inv, fun confirmed => iff_of_true confirmed fun other => absurd other runs⟩

theorem start_step (inv : Inv p l) :
    Inv p (l.1.start p.logged l.2).2 ∧ (Confirmed l → Confirmed (l.1.start p.logged l.2).2) := by
  unfold Transaction.start
  split
  · exact ⟨inv, id⟩
  · next first =>
    have status := not_not.mp first
    have all := pending_of_history inv.history ⟨by simp [status], by simp [status]⟩
    obtain ⟨answer, s, answered⟩ : ∃ answer s, p.start_transaction l.1.name l.2.1 = (answer, s) := ⟨_, _, rfl⟩
    cases answer with
    | returned handle =>
      have asked : p.logged.start_transaction l.1.name l.2 = (.returned handle, s, l.2.2 ++ [.started]) := by
        simp only [Provider.logged, Provider.observed, answered, id_eq]
      rw [asked]
      refine ⟨⟨inv.operations, inv.commit_handlers, inv.rollback_handlers, fun _ => ?_, ?_⟩, fun _ => nofun⟩
      · exact List.mem_append_right _ List.mem_cons_self
      · exact stay ⟨nofun, nofun⟩ (pending_append all .started trivial)
    | raised e =>
      have asked : p.logged.start_transaction l.1.name l.2 = (.raised e, s, l.2.2) := by
        simp only [Provider.logged, Provider.observed, answered, id_eq]
      rw [asked]
      exact ⟨inv.move (List.append_nil _).symm (stay ⟨nofun, nofun⟩ all), fun _ => nofun⟩
    | interrupted e =>
      have asked : p.logged.start_transaction l.1.name l.2 = (.interrupted e, s, l.2.2) := by
        simp only [Provider.logged, Provider.observed, answered, id_eq]
      rw [asked]
      exact ⟨inv.move (List.append_nil _).symm inv.history, id⟩

theorem add_operation_step (inv : Inv p l) (operation : Callback σ) :
    Inv p ((l.1.add_operation (unlogged operation)).2, l.2) ∧
      (Confirmed l → Confirmed ((l.1.add_operation (unlogged operation)).2, l.2)) := by
  unfold Transaction.add_operation
  split
  · exact ⟨inv, id⟩
  · refine ⟨{ inv with operations := fun other member => ?_ }, id⟩
    rcases List.mem_append.mp member with before | last
    · exact inv.operations other before
    · exact ⟨operation, List.mem_singleton.mp last⟩

/-- A call keeps the invariant, and rolls back unconfirmed exactly where it should not. -/
theorem step_spec (inv : Inv p l) (call : LifeCall σ) :
    Inv p (l.step p call) ∧ (Confirmed l → (Confirmed (l.step p call) ↔ call.Confirms p l)) := by
  have always {next : Life σ η} (step : Inv p next ∧ (Confirmed l → Confirmed next)) :
      Inv p next ∧ (Confirmed l → (Confirmed next ↔ True)) := ⟨step.1, fun confirmed => iff_true_intro (step.2 confirmed)⟩
  match call with
  | .method (.add_operation operation) => exact always (add_operation_step inv operation)
  | .method (.add_rollback_handler handler) =>
    exact always ⟨{ inv with rollback_handlers := numbered_append inv.rollback_handlers handler }, id⟩
  | .method (.add_commit_handler handler) =>
    exact always ⟨{ inv with commit_handlers := numbered_append inv.commit_handlers handler }, id⟩
  | .method .start => exact always (start_step inv)
  | .method .commit => exact commit_step inv
  | .method .rollback => exact rollback_step inv
  | .exit raises =>
    show Inv p (l.1.exit p.logged raises l.2).2 ∧ (Confirmed l → (Confirmed (l.1.exit p.logged raises l.2).2 ↔
      if ¬raises ∧ l.1.auto_commit then CommitConfirms p.logged l.1 l.2 else RollbackConfirms p.logged l.1 l.2))
    unfold Transaction.exit
    split
    · exact commit_step inv
    · exact rollback_step inv

variable (p)

theorem inv_fresh (name : String) (auto_commit : Bool) (s : σ) : Inv p (fresh name auto_commit s : Life σ η) where
  operations := fun _ member => by cases member
  commit_handlers := fun i h found => by cases found
  rollback_handlers := fun i h found => by cases found
  started := fun handle => by cases handle
  history := stay ⟨nofun, nofun⟩ fun _ member => by cases member

/-- In every state of every run, nothing but the confirmation of a rollback can be missing. -/
theorem only_confirmation (name : String) (auto_commit : Bool) (s : σ) (calls : List (LifeCall σ)) :
    Runs.Throughout (step p) (fun l => Confirmed l → LifeCycle l.1._status l.2.2) (fresh name auto_commit s) calls := by
  have keeps (l : Life σ η) (call : LifeCall σ) (inv : Inv p l) (_ : True) : Inv p (l.step p call) := (step_spec inv call).1
  have along : Runs.Along (step p) (fun _ _ => True) (fresh name auto_commit s) calls := Runs.along_of_mem fun _ _ _ => trivial
  exact Runs.throughout_mono (fun l inv => inv.history.life_cycle) (Runs.throughout_keeps keeps (inv_fresh p name auto_commit s) along)

/-- A provider that answers every call, and refuses to roll back. -/
def refusing : Provider Unit Unit where
  start_transaction _ s := (.returned (some ()), s)
  commit_transaction _ s := (.returned true, s)
  rollback_transaction _ s := (.returned false, s)
  truthy _ := true

end Life

end RevitPy.Api
