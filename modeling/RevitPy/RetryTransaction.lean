import RevitPy.TransactionLifeCycle

/-!
# Operations that are tried again

Every attempt runs the operation inside a transaction of its own, which commits when the
body is left with a value and rolls back when it raises. The value is returned only once
the exit is done, so an attempt whose commit fails raises and is followed by the next.
-/

namespace RevitPy.Api
variable {σ η α : Type}

/-- `Transaction.name` where the options were made with a name or none. -/
def transaction_name (hex : String) : Option String → String
  | none => "Transaction_" ++ hex
  | some name => if name = "" then "Unknown" else name

/-- The end of a `with` block: what the block ends by, unless the exit raises itself. -/
def after_exit (ended : Outcome α) : Outcome Unit × Transaction σ η × σ → Outcome α × σ
  | (.returned (), _, s) => (ended, s)
  | (.raised e, _, s) => (.raised e, s)
  | (.interrupted e, _, s) => (.interrupted e, s)

/-- Context manager for transaction scope. -/
def transaction_scope (p : Provider σ η) (name : String) (body : Transaction σ η → σ → Outcome α × Transaction σ η × σ) (s : σ) :
    Outcome α × σ :=
  match Transaction.start p { name, auto_commit := true } s with
  | (.raised e, _, s) => (.raised e, s)
  | (.interrupted e, _, s) => (.interrupted e, s)
  | (.returned (), t, s) => match body t s with
    | (.returned value, t, s) => after_exit (.returned value) (t.exit p false s)
    | (failed, t, s) => after_exit failed (t.exit p true s)

/-- The attempts of a retried operation, the number of each and the last exception so far.
    The pause between two attempts is a change of the world. -/
def retry_loop (attempt : Nat → σ → Outcome α × σ) (sleep : σ → σ) (max_retries : Int) :
    List Nat → Option String → σ → Outcome α × σ
  | [], some last_exception, s => (.raised last_exception, s)
  | [], none, s => (.raised "exceptions must derive from BaseException", s)
  | i :: rest, _, s => match attempt i s with
    | (.raised e, s) => retry_loop attempt sleep max_retries rest (some e) (if i < max_retries then sleep s else s)
    | ended => ended

/-- One attempt: the operation in a scope of its own. -/
def attempt (p : Provider σ η) (hex : Nat → String) (name : Option String) (operation : σ → Outcome α × σ) (i : Nat) (s : σ) :
    Outcome α × σ :=
  transaction_scope p (transaction_name (hex i) name)
    (fun t s =>
      let (ended, s) := operation s
      (ended, t, s)) s

/-- Execute operation in transaction with automatic retry. -/
def retry_transaction (p : Provider σ η) (hex : Nat → String) (sleep : σ → σ) (operation : σ → Outcome α × σ) (max_retries : Int)
    (name : Option String) (s : σ) : Outcome α × σ :=
  retry_loop (attempt p hex name operation) sleep max_retries (List.range (max_retries + 1).toNat) none s

/-! ## What is observed -/

inductive AttemptEvent (α : Type)
  | provider (event : Event)
  | operation (outcome : Outcome α)

/-- The provider has committed. -/
def AttemptEvent.commits : AttemptEvent α → Bool
  | .provider (.committed (.returned true)) => true
  | _ => false

/-- The operation has run. -/
def AttemptEvent.runs : AttemptEvent α → Bool
  | .operation _ => true
  | _ => false

/-- The operation, with its outcome noted. -/
def observed_operation (operation : σ → Outcome α × σ) (w : σ × List (AttemptEvent α)) : Outcome α × (σ × List (AttemptEvent α)) :=
  let (outcome, s) := operation w.1
  (outcome, s, w.2 ++ [.operation outcome])

/-- A retried operation whose calls of the operation and of the provider are noted. -/
def observed_retry (p : Provider σ η) (hex : Nat → String) (sleep : σ → σ) (operation : σ → Outcome α × σ) (max_retries : Int)
    (name : Option String) (s : σ) : Outcome α × (σ × List (AttemptEvent α)) :=
  retry_transaction (p.observed .provider) hex (fun w => (sleep w.1, w.2)) (observed_operation operation) max_retries name (s, [])

/-- The world in which an attempt starts, where those before it have raised. -/
def before (attempt : Nat → σ → Outcome α × σ) (sleep : σ → σ) (s : σ) : Nat → σ
  | 0 => s
  | i + 1 => sleep (attempt i (before attempt sleep s i)).2

/-- The loop ends with its last attempt, and those before it raise an `Exception`. -/
theorem retry_loop_last (attempt : Nat → σ → Outcome α × σ) (sleep : σ → σ) (s : σ) (n k : Nat) (e : Option String) :
    ∃ last, k ≤ last ∧ last ≤ k + n ∧
      retry_loop attempt sleep (k + n : Nat) (List.range' k (n + 1)) e (before attempt sleep s k) =
        attempt last (before attempt sleep s last) ∧
      ∀ i, k ≤ i → i < last → ∃ e, (attempt i (before attempt sleep s i)).1 = .raised e := by
  have ends_here (ended : retry_loop attempt sleep (k + n : Nat) (List.range' k (n + 1)) e (before attempt sleep s k) =
      attempt k (before attempt sleep s k)) : ∃ last, k ≤ last ∧ last ≤ k + n ∧
        retry_loop attempt sleep (k + n : Nat) (List.range' k (n + 1)) e (before attempt sleep s k) =
          attempt last (before attempt sleep s last) ∧
        ∀ i, k ≤ i → i < last → ∃ e, (attempt i (before attempt sleep s i)).1 = .raised e :=
    ⟨k, Nat.le_refl k, Nat.le_add_right k n, ended, fun i after earlier => absurd earlier (Nat.not_lt.mpr after)⟩
  rw [List.range'_succ, retry_loop] at ends_here ⊢
  obtain ⟨ended, s', answer⟩ : ∃ ended s', attempt k (before attempt sleep s k) = (ended, s') := ⟨_, _, rfl⟩
  rw [answer] at ends_here ⊢
  cases ended with
  | returned value => exact ends_here rfl
  | interrupted message => exact ends_here rfl
  | raised message =>
    cases n with
    | zero => exact ends_here (by simp [retry_loop])
    | succ n =>
      have more : ((k : Nat) : Int) < ((k + (n + 1) : Nat) : Int) := by omega
      obtain ⟨last, after, bound, same, raise⟩ := retry_loop_last attempt sleep s n (k + 1) (some message)
      have slept : before attempt sleep s (k + 1) = sleep s' := by rw [before, answer]
      rw [slept, Nat.add_right_comm, Nat.add_assoc k n 1] at same
      refine ⟨last, by omega, by omega, by simpa only [if_pos more] using same, fun i first earlier => ?_⟩
      rcases Nat.lt_or_ge k i with later | here
      · exact raise i later earlier
      · obtain rfl : i = k := by omega
        exact ⟨message, by rw [answer]⟩

/-! ## What an attempt leaves in the notes -/

/-- Neither a successful commit nor a run of the operation. -/
def Quiet (notes : List (AttemptEvent α)) : Prop := ∀ event ∈ notes, event.commits = false ∧ event.runs = false

/-- What an attempt ends by, and its notes. -/
inductive Attempted : Outcome α → List (AttemptEvent α) → Prop
  | not_started {ended : Outcome α} (fails : ∀ value, ended ≠ .returned value) : Attempted ended []
  | failed {ended : Outcome α} (fails : ∀ value, ended ≠ .returned value) (ran : Outcome α) {more : List (AttemptEvent α)}
      (quiet : Quiet more) : Attempted ended (.provider .started :: .operation ran :: more)
  | committed (value : α) :
      Attempted (.returned value) [.provider .started, .operation (.returned value), .provider (.committed (.returned true))]

/-- The notes of a call after which the transaction is not committed. -/
def Fails (w : σ × List (AttemptEvent α)) (answer : Outcome Unit × Transaction (σ × List (AttemptEvent α)) η × σ × List (AttemptEvent α)) :
    Prop := ∃ more, answer.2.2.2 = w.2 ++ more ∧ Quiet more

section
variable {p : Provider σ η} {t : Transaction (σ × List (AttemptEvent α)) η} {w : σ × List (AttemptEvent α)}

theorem fails_rollback (bare : t._rollback_handlers = []) : Fails w (t.rollback (p.observed .provider) w) := by
  unfold Transaction.rollback
  split
  · exact ⟨[], (List.append_nil _).symm, fun _ member => by cases member⟩
  · split
    · obtain ⟨answer, s, answered⟩ : ∃ answer s, p.rollback_transaction t._transaction w.1 = (answer, s) := ⟨_, _, rfl⟩
      have asked : (p.observed .provider).rollback_transaction t._transaction w =
          (answer, s, w.2 ++ [AttemptEvent.provider (.rolled_back answer)]) := by simp only [Provider.observed, answered]
      have quiet : Quiet [(AttemptEvent.provider (.rolled_back answer) : AttemptEvent α)] := fun event member =>
        List.mem_singleton.mp member ▸ ⟨rfl, rfl⟩
      rw [Transaction.provider_rollback, asked]
      cases answer <;> simp only [Transaction.rolled_back, bare, run_handlers] <;> exact ⟨_, rfl, quiet⟩
    · rw [Transaction.rolled_back, bare]
      exact ⟨[], (List.append_nil _).symm, fun _ member => by cases member⟩

theorem fails_commit_failed (bare : t._rollback_handlers = []) (message : String) :
    Fails w (t.commit_failed (p.observed .provider) message w) := by
  by_cases started : t._status = .STARTED
  · have same := Transaction.commit_failed_started (p := p.observed .provider) (s := w) message started
    obtain ⟨more, notes, quiet⟩ := fails_rollback (p := p) (w := w) bare
    exact ⟨more, by rw [same]; exact notes, quiet⟩
  · rw [Transaction.commit_failed_other message started]
    exact ⟨[], (List.append_nil _).symm, fun _ member => by cases member⟩

theorem Fails.after {event : AttemptEvent α} (quiet : event.commits = false ∧ event.runs = false) {s : σ}
    {answer : Outcome Unit × Transaction (σ × List (AttemptEvent α)) η × σ × List (AttemptEvent α)}
    (fails : Fails (s, w.2 ++ [event]) answer) : Fails w answer := by
  obtain ⟨more, notes, rest⟩ := fails
  refine ⟨event :: more, by rw [notes, List.append_assoc, List.singleton_append], fun other member => ?_⟩
  rcases List.mem_cons.mp member with rfl | later
  · exact quiet
  · exact rest other later

/-- A commit without operations and handlers returns where the provider commits, and else fails. -/
theorem commit_notes (started : t._status = .STARTED) (idle : t._operations = []) (bare : t._rollback_handlers = [])
    (bare' : t._commit_handlers = []) :
    ((t.commit (p.observed .provider) w).1 = .returned () ∧
      (t.commit (p.observed .provider) w).2.2.2 = w.2 ++ [.provider (.committed (.returned true))]) ∨
    ((t.commit (p.observed .provider) w).1 ≠ .returned () ∧ Fails w (t.commit (p.observed .provider) w)) := by
  obtain ⟨answer, s, answered⟩ : ∃ answer s, p.commit_transaction t._transaction w.1 = (answer, s) := ⟨_, _, rfl⟩
  have asked : (p.observed .provider).commit_transaction t._transaction w =
      (answer, s, w.2 ++ [AttemptEvent.provider (.committed answer)]) := by simp only [Provider.observed, answered]
  unfold Transaction.commit
  rw [if_neg (not_not.mpr started), idle]
  simp only [run_operations, asked]
  cases answer with
  | interrupted e =>
    exact Or.inr ⟨fun returned => (by cases returned), [_], rfl, fun event member => List.mem_singleton.mp member ▸ ⟨rfl, rfl⟩⟩
  | raised e =>
    refine Or.inr ⟨Transaction.commit_failed_ne _ _ _, Fails.after ⟨rfl, rfl⟩ (fails_commit_failed ?_ e)⟩
    exact bare
  | returned committed =>
    cases committed with
    | false =>
      refine Or.inr ⟨Transaction.commit_failed_ne _ _ _, Fails.after ⟨rfl, rfl⟩ (fails_commit_failed ?_ _)⟩
      exact bare
    | true =>
      rw [bare']
      exact Or.inl ⟨rfl, rfl⟩

end

section
variable {ended : Outcome α} {answer : Outcome Unit × Transaction σ η × σ}

theorem after_exit_world : (after_exit ended answer).2 = answer.2.2 := by
  match answer with
  | (.returned (), t, s) => rfl
  | (.raised e, t, s) => rfl
  | (.interrupted e, t, s) => rfl

theorem after_exit_returned (returned : answer.1 = .returned ()) : (after_exit ended answer).1 = ended := by
  match answer, returned with
  | (.returned (), t, s), _ => rfl

/-- Neither a block that fails nor one whose exit fails has a value. -/
theorem after_exit_fails (fails : (∀ value, ended ≠ .returned value) ∨ answer.1 ≠ .returned ()) (value : α) :
    (after_exit ended answer).1 ≠ .returned value := by
  match answer with
  | (.returned (), t, s) => exact fails.elim (fun block => block value) (absurd rfl)
  | (.raised e, t, s) => exact nofun
  | (.interrupted e, t, s) => exact nofun

end

theorem exit_raised (q : Provider σ η) (t : Transaction σ η) (s : σ) : t.exit q true s = t.rollback q s := if_neg (by simp)

theorem exit_committing (q : Provider σ η) {t : Transaction σ η} (commits : t.auto_commit = true) (s : σ) :
    t.exit q false s = t.commit q s := if_pos ⟨by simp, commits⟩

theorem attempt_notes (p : Provider σ η) (hex : Nat → String) (name : Option String) (operation : σ → Outcome α × σ) (i : Nat)
    (w : σ × List (AttemptEvent α)) :
    ∃ notes, (attempt (p.observed .provider) hex name (observed_operation operation) i w).2.2 = w.2 ++ notes ∧
      Attempted (attempt (p.observed .provider) hex name (observed_operation operation) i w).1 notes := by
  obtain ⟨answer, s, answered⟩ : ∃ answer s, p.start_transaction (transaction_name (hex i) name) w.1 = (answer, s) := ⟨_, _, rfl⟩
  unfold attempt transaction_scope Transaction.start
  simp only [ne_eq, not_true_eq_false, if_false]
  cases answer with
  | raised e =>
    have asked : (p.observed .provider).start_transaction (transaction_name (hex i) name) w = (.raised e, s, w.2) := by
      simp only [Provider.observed, answered]
    rw [asked]
    exact ⟨[], (List.append_nil _).symm, .not_started fun _ returned => by cases returned⟩
  | interrupted e =>
    have asked : (p.observed .provider).start_transaction (transaction_name (hex i) name) w = (.interrupted e, s, w.2) := by
      simp only [Provider.observed, answered]
    rw [asked]
    exact ⟨[], (List.append_nil _).symm, .not_started fun _ returned => by cases returned⟩
  | returned handle =>
    have asked : (p.observed .provider).start_transaction (transaction_name (hex i) name) w =
        (.returned handle, s, w.2 ++ [AttemptEvent.provider .started]) := by simp only [Provider.observed, answered]
    obtain ⟨ran, s', runs⟩ : ∃ ran s', operation s = (ran, s') := ⟨_, _, rfl⟩
    have noted : observed_operation operation (s, w.2 ++ [.provider .started]) =
        (ran, s', w.2 ++ [.provider .started] ++ [.operation ran]) := by simp only [observed_operation, runs]
    obtain ⟨t, made⟩ : ∃ t : Transaction (σ × List (AttemptEvent α)) η, t =
        { name := transaction_name (hex i) name
          auto_commit := true
          _transaction := handle
          _status := .STARTED
          returned := true } := ⟨_, rfl⟩
    simp only [asked, noted, ← made]
    -- The notes from the operation on, where the block or its exit fails.
    have failed {ended : Outcome α} {answer : Outcome Unit × Transaction (σ × List (AttemptEvent α)) η × σ × List (AttemptEvent α)}
        (fails : (∀ value, ended ≠ .returned value) ∨ answer.1 ≠ .returned ())
        (left : Fails (s', w.2 ++ [.provider .started] ++ [.operation ran]) answer) :
        ∃ notes, (after_exit ended answer).2.2 = w.2 ++ notes ∧ Attempted (after_exit ended answer).1 notes := by
      obtain ⟨more, notes, quiet⟩ := left
      refine ⟨_, ?_, .failed (after_exit_fails fails) ran quiet⟩
      rw [after_exit_world, notes]
      simp
    cases ran with
    | raised e =>
      simp only [exit_raised]
      exact failed (Or.inl fun _ returned => by cases returned) (fails_rollback (by rw [made]))
    | interrupted e =>
      simp only [exit_raised]
      exact failed (Or.inl fun _ returned => by cases returned) (fails_rollback (by rw [made]))
    | returned value =>
      simp only [exit_committing (p.observed .provider) (show t.auto_commit = true by rw [made])]
      rcases commit_notes (p := p) (w := (s', w.2 ++ [.provider .started] ++ [.operation (.returned value)]))
        (show t._status = .STARTED by rw [made]) (by rw [made]) (by rw [made]) (by rw [made]) with ⟨returned, notes⟩ | ⟨fails, left⟩
      · refine ⟨[.provider .started, .operation (.returned value), .provider (.committed (.returned true))], ?_, ?_⟩
        · rw [after_exit_world, notes]
          simp
        · rw [after_exit_returned returned]
          exact .committed value
      · exact failed (Or.inr fails) left

/-! ## What a retried operation leaves in the notes -/

/-- Every run of the operation comes directly after the start of a transaction. -/
def Fresh (notes : List (AttemptEvent α)) : Prop :=
  ∀ early ran late, notes = early ++ .operation ran :: late → ∃ earlier, early = earlier ++ [.provider .started]

/-- The notes of attempts that have all failed. -/
structure Unsuccessful (attempts : Nat) (notes : List (AttemptEvent α)) : Prop where
  commits : ∀ event ∈ notes, event.commits = false
  runs : notes.countP AttemptEvent.runs ≤ attempts
  fresh : Fresh notes

theorem fresh_append {notes more : List (AttemptEvent α)} (fresh : Fresh notes) (ran : Outcome α)
    (quiet : ∀ event ∈ more, event.runs = false) : Fresh (notes ++ .provider .started :: .operation ran :: more) := by
  intro early other late split
  rcases List.append_eq_append_iff.mp split with ⟨between, rfl, tail⟩ | ⟨between, rfl, tail⟩
  · match between, tail with
    | [], tail => cases (List.cons.inj tail).1
    | [first], tail =>
      obtain ⟨rfl, -⟩ := List.cons.inj tail
      exact ⟨notes, rfl⟩
    | first :: second :: rest, tail =>
      obtain ⟨-, tail⟩ := List.cons.inj tail
      obtain ⟨-, tail⟩ := List.cons.inj tail
      have runs := quiet (.operation other) (tail ▸ List.mem_append_right _ List.mem_cons_self)
      cases runs
  · cases between with
    | nil => cases (List.cons.inj tail).1
    | cons first rest =>
      obtain ⟨rfl, -⟩ := List.cons.inj tail
      exact fresh early other rest rfl

theorem Unsuccessful.attempted {attempts : Nat} {notes more : List (AttemptEvent α)} (unsuccessful : Unsuccessful attempts notes)
    {ended : Outcome α} (attempted : Attempted ended more) (fails : ∀ value, ended ≠ .returned value) :
    Unsuccessful (attempts + 1) (notes ++ more) := by
  obtain ⟨commits, runs, fresh⟩ := unsuccessful
  cases attempted with
  | not_started _ => exact ⟨by simpa using commits, by simpa using Nat.le_succ_of_le runs, by simpa using fresh⟩
  | committed value => exact absurd rfl (fails value)
  | @failed _ _ ran more quiet =>
    have none_run : more.countP AttemptEvent.runs = 0 := List.countP_eq_zero.mpr fun event member => by simp [(quiet event member).2]
    refine ⟨fun event member => ?_, ?_, fresh_append fresh ran fun event member => (quiet event member).2⟩
    · rcases List.mem_append.mp member with early | late
      · exact commits event early
      · rcases List.mem_cons.mp late with rfl | late
        · rfl
        · rcases List.mem_cons.mp late with rfl | late
          · rfl
          · exact (quiet event late).1
    · simp only [List.countP_append, List.countP_cons, none_run, AttemptEvent.runs]
      simpa using runs

/-- What a retried operation promises: the operation runs at most once an attempt, in a
    transaction of its own, and a value is returned exactly where a transaction was committed,
    which is then the only one and the last thing that happens. -/
structure Concluded (attempts : Nat) (ended : Outcome α) (notes : List (AttemptEvent α)) : Prop where
  runs : notes.countP AttemptEvent.runs ≤ attempts
  fresh : Fresh notes
  returns_iff : (∃ value, ended = .returned value) ↔ ∃ event ∈ notes, event.commits = true
  value : ∀ value, ended = .returned value → ∃ early, notes = early ++
    [.provider .started, .operation (.returned value), .provider (.committed (.returned true))] ∧ ∀ event ∈ early, event.commits = false

theorem Unsuccessful.concluded {attempts : Nat} {notes : List (AttemptEvent α)} (unsuccessful : Unsuccessful attempts notes)
    {ended : Outcome α} (fails : ∀ value, ended ≠ .returned value) : Concluded attempts ended notes where
  runs := unsuccessful.runs
  fresh := unsuccessful.fresh
  returns_iff := by
    refine iff_of_false (fun ⟨value, returned⟩ => fails value returned) fun ⟨event, member, commits⟩ => ?_
    rw [unsuccessful.commits event member] at commits
    cases commits
  value value returned := absurd returned (fails value)

/-- The last attempt after unsuccessful ones. -/
theorem Unsuccessful.last {attempts : Nat} {notes more : List (AttemptEvent α)} (unsuccessful : Unsuccessful attempts notes)
    {ended : Outcome α} (attempted : Attempted ended more) : Concluded (attempts + 1) ended (notes ++ more) := by
  cases attempted with
  | not_started fails => exact (unsuccessful.attempted (.not_started fails) fails).concluded fails
  | failed fails ran quiet => exact (unsuccessful.attempted (.failed fails ran quiet) fails).concluded fails
  | committed value =>
    refine ⟨?_, fresh_append unsuccessful.fresh _ ?_, ?_, ?_⟩
    · rw [List.countP_append]
      exact Nat.add_le_add_right unsuccessful.runs 1
    · exact fun event member => List.mem_singleton.mp member ▸ rfl
    · exact iff_of_true ⟨value, rfl⟩ ⟨.provider (.committed (.returned true)), by simp, rfl⟩
    · rintro _ ⟨⟩
      exact ⟨notes, rfl, unsuccessful.commits⟩

section
variable (p : Provider σ η) (hex : Nat → String) (sleep : σ → σ) (operation : σ → Outcome α × σ) (name : Option String) (s : σ)

/-- The world in which an attempt of the observed run starts. -/
def observed_world (i : Nat) : σ × List (AttemptEvent α) :=
  before (attempt (p.observed .provider) hex name (observed_operation operation)) (fun w => (sleep w.1, w.2)) (s, []) i

/-- An attempt of the observed run. -/
def observed_attempt (i : Nat) : Outcome α × (σ × List (AttemptEvent α)) :=
  attempt (p.observed .provider) hex name (observed_operation operation) i (observed_world p hex sleep operation name s i)

variable {p hex sleep operation name s}

theorem fresh_nil : Fresh ([] : List (AttemptEvent α)) := by
  intro early ran late split
  have empty := congrArg List.length split
  simp at empty

/-- Attempts that have raised leave no commit behind. -/
theorem unsuccessful_before {n : Nat} (raise : ∀ i < n, ∃ e, (observed_attempt p hex sleep operation name s i).1 = .raised e) :
    Unsuccessful n (observed_world p hex sleep operation name s n).2 := by
  induction n with
  | zero => exact ⟨fun _ member => (List.not_mem_nil member).elim, Nat.le_refl 0, fresh_nil⟩
  | succ n ih =>
    obtain ⟨e, raised⟩ := raise n (Nat.lt_succ_self n)
    obtain ⟨notes, left, attempted⟩ := attempt_notes p hex name operation n (observed_world p hex sleep operation name s n)
    have slept : (observed_world p hex sleep operation name s (n + 1)).2 =
        (observed_world p hex sleep operation name s n).2 ++ notes := left
    rw [slept]
    refine (ih fun i earlier => raise i (Nat.lt_succ_of_lt earlier)).attempted attempted fun value returned => ?_
    rw [observed_attempt, returned] at raised
    cases raised

end

/-- A provider whose first commit is refused. -/
def reluctant : Provider Nat Unit where
  start_transaction _ s := (.returned (some ()), s)
  commit_transaction _ s := (.returned (0 < s), s + 1)
  rollback_transaction _ s := (.returned true, s)
  truthy _ := true

end RevitPy.Api
