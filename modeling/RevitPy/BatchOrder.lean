import RevitPy.Slices

/-!
# The results of batches of operations

Both functions take the operations in batches. One gathers the results of a batch in
the order of its operations, the other in the order in which their futures are done.
So the two agree exactly where that order puts every outcome in the place of its
operation, and no operation ends in a way that the two treat differently.
-/

namespace RevitPy.BatchExecution

open Slices

variable {ν ε : Type}

/-- How a call ends, or the coroutine of a coroutine function. -/
inductive Ending (ν ε : Type)
  | returned (value : ν)
  | raised (exception : ε)
  deriving DecidableEq

structure Operation (ν ε : Type) where
  /-- `asyncio.iscoroutinefunction(operation)` -/
  is_coroutine_function : Bool := false
  ending : Ending ν ε
  deriving DecidableEq

/-- What stands in a list of results. -/
inductive Result (ν ε : Type)
  | value (v : ν)
  | exception (e : ε)
  /-- A coroutine that nobody awaits. -/
  | coroutine
  deriving DecidableEq

/-- Why no list is returned. -/
inductive Stop (ε : Type)
  | ValueError
  | raised (e : ε)
  /-- Some future is never done. -/
  | never
  deriving DecidableEq

/-- What becomes of an exception. -/
structure Exceptions (ε : Type) where
  /-- `isinstance(e, Exception)` -/
  is_Exception : ε → Bool
  /-- What `Future.set_exception` of `asyncio` keeps of it, which takes no `StopIteration`. -/
  set_exception : ε → Option ε
  /-- A task hands it on to the event loop, which stops. -/
  leaves_loop : ε → Bool

variable (py : Exceptions ε) (batch_size_default : Int)

/-- `batch_size or self.config.batch_size_default` -/
def effective_size (batch_size : Option Int) : Int :=
  match batch_size with
  | none => batch_size_default
  | some n => if n = 0 then batch_size_default else n

/-- `operations[i : i + batch_size] for i in range(0, len(operations), batch_size)` -/
def batches (batch_size : Int) (operations : List (Operation ν ε)) : Except (Stop ε) (List (List (Operation ν ε))) :=
  if batch_size = 0 then .error .ValueError
  else if batch_size < 0 then .ok []
  else .ok (slices batch_size.toNat operations)

/-! ## `execute_batch_async` -/

/-- What `gather` puts in the place of an operation. -/
def awaited (operation : Operation ν ε) : Except (Stop ε) (Result ν ε) :=
  match operation.ending with
  | .returned v => .ok (.value v)
  | .raised e =>
    if operation.is_coroutine_function then
      if py.leaves_loop e then .error (.raised e) else .ok (.exception e)
    else
      match py.set_exception e with
      | some kept => .ok (.exception kept)
      | none => .error .never

def async_batches : List (List (Operation ν ε)) → Except (Stop ε) (List (Result ν ε))
  | [] => .ok []
  | batch :: rest => do
    let batch_results ← batch.mapM (awaited py)
    let results ← async_batches rest
    return batch_results ++ results

def execute_batch_async (operations : List (Operation ν ε)) (batch_size : Option Int) : Except (Stop ε) (List (Result ν ε)) := do
  async_batches py (← batches (effective_size batch_size_default batch_size) operations)

/-! ## `execute_batch_sync` -/

/-- What the loop appends for a future. A call of a coroutine function only makes the coroutine. -/
def collected (operation : Operation ν ε) : Except (Stop ε) (Result ν ε) :=
  if operation.is_coroutine_function then .ok .coroutine
  else
    match operation.ending with
    | .returned v => .ok (.value v)
    | .raised e => if py.is_Exception e then .ok (.exception e) else .error (.raised e)

/-- The order in which the futures of the i-th batch are done. -/
abbrev AsCompleted (ν ε : Type) := Nat → List (Operation ν ε) → List (Operation ν ε)

variable (as_completed : AsCompleted ν ε)

def sync_batches : Nat → List (List (Operation ν ε)) → Except (Stop ε) (List (Result ν ε))
  | _, [] => .ok []
  | i, batch :: rest => do
    let batch_results ← (as_completed i batch).mapM (collected py)
    let results ← sync_batches (i + 1) rest
    return batch_results ++ results

def execute_batch_sync (operations : List (Operation ν ε)) (batch_size : Option Int) : Except (Stop ε) (List (Result ν ε)) := do
  sync_batches py as_completed 0 (← batches (effective_size batch_size_default batch_size) operations)

/-! ## Positions -/

/-- The value or the exception of an operation. -/
def Operation.outcome (operation : Operation ν ε) : Result ν ε :=
  match operation.ending with
  | .returned v => .value v
  | .raised e => .exception e

/-- A function that returns no coroutine, and whose exceptions pass through the futures of both kinds. -/
def Operation.Plain (operation : Operation ν ε) : Prop :=
  operation.is_coroutine_function = false ∧
    ∀ e, operation.ending = .raised e → py.is_Exception e = true ∧ py.set_exception e = some e

/-- Both lists have the outcome of each operation in its place. -/
def KeepsPositions (operations : List (Operation ν ε)) (batch_size : Option Int) : Prop :=
  execute_batch_sync py batch_size_default as_completed operations batch_size = .ok (operations.map (·.outcome)) ∧
    execute_batch_async py batch_size_default operations batch_size = .ok (operations.map (·.outcome))

variable {py as_completed batch_size_default}

/-! ### One batch -/

theorem mapM_ok_iff {α β σ : Type} {f : α → Except σ β} {l : List α} {results : List β} :
    l.mapM f = .ok results ↔ l.map f = results.map .ok := by
  induction l generalizing results with
  | nil => cases results <;> simp [pure, Except.pure]
  | cons a rest ih =>
    rw [List.mapM_cons]
    cases first : f a with
    | error e => cases results <;> simp [first, bind, Except.bind]
    | ok r =>
      cases later : rest.mapM f with
      | error e =>
        have none (found : List β) : rest.map f ≠ found.map .ok := fun same => by simp [ih.mpr same] at later
        cases results <;> simp [first, bind, Except.bind, none]
      | ok found => cases results <;> simp [first, bind, Except.bind, pure, Except.pure, ih.mp later, List.map_inj_right]

theorem outcome_of_collected {operation : Operation ν ε} {r : Result ν ε} (done : collected py operation = .ok r)
    (no_coroutine : r ≠ .coroutine) : r = operation.outcome := by
  unfold collected at done
  split at done
  · exact absurd (Except.ok.inj done).symm no_coroutine
  · unfold Operation.outcome
    split at done
    · exact (Except.ok.inj done).symm
    · split at done
      · exact (Except.ok.inj done).symm
      · cases done

theorem outcome_ne_coroutine (operation : Operation ν ε) : operation.outcome ≠ .coroutine := by
  unfold Operation.outcome
  split <;> simp

/-- A batch is collected in place if each of its operations is collected with its outcome and the futures
    are done in an order that shows the same. -/
theorem collect_iff {done batch : List (Operation ν ε)} (order : done.Perm batch) :
    done.mapM (collected py) = .ok (batch.map (·.outcome)) ↔
      (∀ operation ∈ batch, collected py operation = .ok operation.outcome) ∧
        done.map (·.outcome) = batch.map (·.outcome) := by
  rw [mapM_ok_iff]
  constructor
  · intro same
    have sound : ∀ operation ∈ done, collected py operation = .ok operation.outcome := by
      intro operation member
      have found : collected py operation ∈ (batch.map (·.outcome)).map .ok := same ▸ List.mem_map_of_mem member
      obtain ⟨r, member, collects⟩ := List.mem_map.mp found
      obtain ⟨other, _, rfl⟩ := List.mem_map.mp member
      rw [← collects, outcome_of_collected collects.symm (outcome_ne_coroutine other)]
    refine ⟨fun operation member => sound operation (order.mem_iff.mpr member), ?_⟩
    refine (List.map_inj_right (f := Except.ok (ε := Stop ε)) fun _ _ => Except.ok.inj).mp ?_
    rw [← same, List.map_map]
    exact (List.map_congr_left sound).symm
  · intro ⟨sound, same⟩
    rw [← same, List.map_map]
    exact List.map_congr_left fun operation member => sound operation (order.mem_iff.mp member)

theorem gather_iff {batch : List (Operation ν ε)} :
    batch.mapM (awaited py) = .ok (batch.map (·.outcome)) ↔ ∀ operation ∈ batch, awaited py operation = .ok operation.outcome := by
  rw [mapM_ok_iff, List.map_map]
  exact List.map_inj_left

/-- Both put the outcome of an operation in the list exactly if it is plain. -/
theorem plain_iff (operation : Operation ν ε) :
    collected py operation = .ok operation.outcome ∧ awaited py operation = .ok operation.outcome ↔ operation.Plain py := by
  unfold collected awaited Operation.outcome Operation.Plain
  cases operation.is_coroutine_function with
  | true =>
    cases operation.ending <;> simp
  | false =>
    cases operation.ending with
    | returned v => simp
    | raised e =>
      simp only [Ending.raised.injEq, forall_eq']
      cases py.is_Exception e <;> cases py.set_exception e <;> simp

/-! ### All batches -/

theorem append_ok_iff {α σ : Type} {x y : Except σ (List α)} {l more : List α} (long : ∀ found, x = .ok found → found.length = l.length) :
    (do let first ← x; let rest ← y; return first ++ rest) = .ok (l ++ more) ↔ x = .ok l ∧ y = .ok more := by
  cases x with
  | error e => simp [bind, Except.bind]
  | ok first =>
    cases y with
    | error e => simp [bind, Except.bind]
    | ok rest =>
      have split : first ++ rest = l ++ more ↔ first = l ∧ rest = more :=
        ⟨fun same => List.append_inj same (long first rfl), fun same => by rw [same.1, same.2]⟩
      simpa [bind, Except.bind, pure, Except.pure] using split

theorem length_of_mapM {α β σ : Type} {f : α → Except σ β} {l : List α} {results : List β} (done : l.mapM f = .ok results) :
    results.length = l.length := by
  simpa using (congrArg List.length (mapM_ok_iff.mp done)).symm

theorem sync_batches_iff (order : ∀ i batch, (as_completed i batch).Perm batch) (i : Nat) (bs : List (List (Operation ν ε))) :
    sync_batches py as_completed i bs = .ok (bs.flatten.map (·.outcome)) ↔
      (∀ operation ∈ bs.flatten, collected py operation = .ok operation.outcome) ∧
        ∀ j batch, bs[j]? = some batch → (as_completed (i + j) batch).map (·.outcome) = batch.map (·.outcome) := by
  induction bs generalizing i with
  | nil => simp [sync_batches]
  | cons batch rest ih =>
    rw [sync_batches, List.flatten_cons, List.map_append, append_ok_iff, collect_iff (order i batch), ih]
    · simp only [List.forall_mem_append]
      constructor
      · intro ⟨⟨sound, here⟩, sounds, later⟩
        refine ⟨⟨sound, sounds⟩, fun j b at_j => ?_⟩
        cases j with
        | zero =>
          cases at_j
          exact here
        | succ j => simpa [Nat.add_right_comm, Nat.add_assoc] using later j b at_j
      · intro ⟨⟨sound, sounds⟩, each⟩
        refine ⟨⟨sound, each 0 batch rfl⟩, sounds, fun j b at_j => ?_⟩
        simpa [Nat.add_right_comm, Nat.add_assoc] using each (j + 1) b at_j
    · intro found done
      rw [length_of_mapM done, List.length_map, (order i batch).length_eq]

theorem async_batches_iff (bs : List (List (Operation ν ε))) :
    async_batches py bs = .ok (bs.flatten.map (·.outcome)) ↔ ∀ operation ∈ bs.flatten, awaited py operation = .ok operation.outcome := by
  induction bs with
  | nil => simp [async_batches]
  | cons batch rest ih =>
    rw [async_batches, List.flatten_cons, List.map_append, append_ok_iff, gather_iff, ih, List.forall_mem_append]
    intro found done
    rw [length_of_mapM done, List.length_map]

/-- The results are in place exactly if the batches are of a proper size, the operations are plain, and
    the futures of every batch are done in an order that shows the same outcomes as the operations. -/
theorem keepsPositions_iff (order : ∀ i batch, (as_completed i batch).Perm batch) (operations : List (Operation ν ε))
    (batch_size : Option Int) :
    KeepsPositions py batch_size_default as_completed operations batch_size ↔
      (0 < effective_size batch_size_default batch_size ∨ effective_size batch_size_default batch_size < 0 ∧ operations = []) ∧
        (∀ operation ∈ operations, operation.Plain py) ∧
        ∀ i batch, (slices (effective_size batch_size_default batch_size).toNat operations)[i]? = some batch →
          (as_completed i batch).map (·.outcome) = batch.map (·.outcome) := by
  unfold KeepsPositions execute_batch_sync execute_batch_async batches
  generalize effective_size batch_size_default batch_size = size
  have trichotomy : size = 0 ∨ size < 0 ∨ 0 < size := by omega
  rcases trichotomy with rfl | negative | positive
  · simp [bind, Except.bind]
  · have nonzero : size ≠ 0 := by omega
    have not_positive : ¬0 < size := by omega
    have none : size.toNat = 0 := by omega
    cases operations with
    | nil => simp [bind, Except.bind, nonzero, negative, sync_batches, async_batches, slices, none]
    | cons operation rest => simp [bind, Except.bind, nonzero, negative, not_positive, sync_batches, async_batches]
  · have nonzero : size ≠ 0 := by omega
    have not_negative : ¬size < 0 := by omega
    have least : 1 ≤ size.toNat := by omega
    have whole := flatten_slices least operations
    have sync := @sync_batches_iff ν ε py as_completed order 0 (slices size.toNat operations)
    have async := @async_batches_iff ν ε py (slices size.toNat operations)
    rw [whole] at sync async
    simp only [bind, Except.bind, if_neg nonzero, if_neg not_negative]
    rw [sync, async]
    simp only [Nat.zero_add, positive, not_negative, false_and, or_false, true_and]
    constructor
    · rintro ⟨⟨collects, same⟩, gathers⟩
      exact ⟨fun operation member => (plain_iff operation).mp ⟨collects operation member, gathers operation member⟩, same⟩
    · rintro ⟨plain, same⟩
      exact ⟨⟨fun operation member => ((plain_iff operation).mpr (plain operation member)).1, same⟩,
        fun operation member => ((plain_iff operation).mpr (plain operation member)).2⟩

/-! Exceptions by their names. -/

def named_exceptions : Exceptions String where
  is_Exception e := e ≠ "KeyboardInterrupt" && e ≠ "SystemExit"
  set_exception e := if e = "StopIteration" then none else some e
  leaves_loop e := e = "KeyboardInterrupt" || e = "SystemExit"

/-- The futures are done in the order of their submission. -/
def in_order : AsCompleted Nat String := fun _ batch => batch

/-- The futures are done in the reversed order. -/
def reversed : AsCompleted Nat String := fun _ batch => batch.reverse

theorem done_in_order :
    KeepsPositions named_exceptions 100 in_order [⟨false, .returned 1⟩, ⟨false, .raised "ValueError"⟩, ⟨false, .returned 3⟩] (some 2) := by
  refine (keepsPositions_iff (fun _ _ => .refl _) _ _).mpr ⟨.inl (by decide), ?_, fun _ _ _ => rfl⟩
  intro operation member
  simp only [List.mem_cons, List.not_mem_nil, or_false] at member
  rcases member with rfl | rfl | rfl
  · exact ⟨rfl, fun e ends => by cases ends⟩
  · exact ⟨rfl, fun e ends => by cases ends; decide⟩
  · exact ⟨rfl, fun e ends => by cases ends⟩

/-- The second operation is done first. -/
theorem swapped :
    (∀ i batch, (reversed i batch).Perm batch) ∧
      execute_batch_sync named_exceptions 100 reversed [⟨false, .returned 1⟩, ⟨false, .returned 2⟩] none = .ok [.value 2, .value 1] ∧
      execute_batch_async named_exceptions 100 [⟨false, Ending.returned 1⟩, ⟨false, .returned 2⟩] none = .ok [.value 1, .value 2] ∧
      ¬KeepsPositions named_exceptions 100 reversed [⟨false, .returned 1⟩, ⟨false, .returned 2⟩] none := by
  refine ⟨fun _ batch => batch.reverse_perm, rfl, rfl, fun keeps => ?_⟩
  have sync : execute_batch_sync named_exceptions 100 reversed [⟨false, .returned 1⟩, ⟨false, .returned 2⟩] none = .ok [.value 2, .value 1] := rfl
  have same := sync.symm.trans keeps.1
  simp [Operation.outcome] at same

end RevitPy.BatchExecution
