import Mathlib.Tactic.Linarith
import RevitPy.AsyncBatchProcessor

/-!
# Accounting of batches

What has been collected after a number of batches is decided by the operations of
these batches alone. A cancelled operation is collected as a success, so the counts
are right only where no operation is cancelled, or where the error threshold ends the
processing at the same batch either way.
-/

namespace RevitPy
variable {ω β : Type}

namespace Handling
variable (h : Handling ω β)

/-- The handler returned normally. -/
def returns (operation : Numbered ω) : Bool := match h.operation_handler operation with
  | .returned _ => true
  | .raised _ | .cancelled => false

/-- The handler raised an exception, or returned one as its value. -/
def yields_exception (operation : Numbered ω) : Bool := match h.operation_handler operation with
  | .returned value => h.is_exception value
  | .raised _ => true
  | .cancelled => false

theorem error_of_isSome (operation : Numbered ω) :
    (h.error_of (h._process_single_operation operation)).isSome = h.yields_exception operation := by
  unfold _process_single_operation yields_exception
  cases h.operation_handler operation with
  | returned value => cases exception : h.is_exception value <;> simp [error_of, exception]
  | raised error => rfl
  | cancelled => rfl

end Handling

namespace AsyncBatchProcessor
variable (p : AsyncBatchProcessor) (h : Handling ω β) (operations : List ω)

/-- The operations of the first `k` batches. -/
def first (k : Nat) : List (Numbered ω) := operations.zipIdx.take (k * p.batch_size)

/-- The code raises after batch `k`, by its own count of errors or from the callback. -/
def Stops (k : Nat) : Prop :=
  (h.check ((p.first operations (k + 1)).countP fun operation => !h.yields_exception operation)
    ((p.first operations (k + 1)).countP h.yields_exception) operations.length).isSome = true

/-- The error rate exceeds the threshold after batch `k`, where every operation counts
    as an error whose handler did not return normally. -/
def Exceeds (k : Nat) : Prop :=
  h.exceeds ((p.first operations (k + 1)).countP fun operation => !h.returns operation) (p.first operations (k + 1)).length = true

/-- The first batch of which something holds. -/
def FirstBatch (holds : Nat → Prop) (b : Nat) : Prop := b * p.batch_size < operations.length ∧ holds b ∧ ∀ k < b, ¬holds k

/-- All operations were attempted once, and each is listed where it belongs. -/
def Accounted (reply : BatchReply ω β) (s : BatchProgress ω β) : Prop :=
  s.attempted.Perm operations.zipIdx ∧ ∃ successful failed, reply = .returned successful failed successful.length failed.length ∧
    successful.map Prod.fst = operations.zipIdx.filter h.returns ∧
    failed.map Prod.fst = operations.zipIdx.filter fun operation => !h.returns operation

/-- The processing was ended after batch `b`, and no later operation was attempted. -/
def EndedAt (b : Nat) (reply : BatchReply ω β) (s : BatchProgress ω β) : Prop :=
  s.attempted.Perm (p.first operations (b + 1)) ∧
    ∃ message failed successful, reply = .BatchOperationError message operations.length failed successful

/-- Every operation is accounted for, or the processing ends after the first batch at
    whose end the error rate exceeds the threshold. -/
def Accounts : Prop :=
  Accounted h operations (p.process_batch h operations).1 (p.process_batch h operations).2 ∨
    ∃ b, p.FirstBatch operations (p.Exceeds h operations) b ∧
      p.EndedAt operations b (p.process_batch h operations).1 (p.process_batch h operations).2

/-- There are permits to be had, and the code ends the processing at no batch, while
    only handlers that return normally yield no exception, or it ends it at the first
    batch after which the threshold is exceeded. -/
def Classified : Prop :=
  (operations = [] ∨ 0 < p.max_concurrency) ∧
    ((∀ k, k * p.batch_size < operations.length → ¬p.Stops h operations k) ∧
        (∀ operation ∈ operations.zipIdx, h.yields_exception operation = !h.returns operation) ∨
      ∃ b, p.FirstBatch operations (p.Stops h operations) b ∧ p.FirstBatch operations (p.Exceeds h operations) b)

/-! ## Collecting -/

/-- The operations of a list were attempted and collected, by what `gather` yields. -/
structure Reached (done : List (Numbered ω)) (s : BatchProgress ω β) : Prop where
  attempted : s.attempted.Perm done
  successful : s.successful_operations.map Prod.fst = done.filter fun operation => !h.yields_exception operation
  failed : s.failed_operations.map Prod.fst = done.filter h.yields_exception
  processed_count : s.processed_count = s.successful_operations.length
  error_count : s.error_count = s.failed_operations.length

variable {p h operations}

theorem reached_start : Reached h [] ({} : BatchProgress ω β) := ⟨.nil, rfl, rfl, rfl, rfl⟩

/-- Collecting a batch adds its operations to the two lists, and leaves the attempts alone. -/
theorem collect_batch (batch : List (Numbered ω)) (s : BatchProgress ω β) :
    (batch.foldl h.collect s).attempted = s.attempted ∧
    (batch.foldl h.collect s).successful_operations.map Prod.fst =
      s.successful_operations.map Prod.fst ++ batch.filter (fun operation => !h.yields_exception operation) ∧
    (batch.foldl h.collect s).failed_operations.map Prod.fst = s.failed_operations.map Prod.fst ++ batch.filter h.yields_exception ∧
    (s.processed_count = s.successful_operations.length →
      (batch.foldl h.collect s).processed_count = (batch.foldl h.collect s).successful_operations.length) ∧
    (s.error_count = s.failed_operations.length →
      (batch.foldl h.collect s).error_count = (batch.foldl h.collect s).failed_operations.length) := by
  induction batch generalizing s with
  | nil => simp
  | cons operation rest ih =>
    rw [List.foldl_cons]
    obtain ⟨attempted, successful, failed, processed, errors⟩ := ih (h.collect s operation)
    have kind := h.error_of_isSome operation
    cases ends : h.error_of (h._process_single_operation operation) with
    | none =>
      rw [ends] at kind
      have collected : h.collect s operation =
          { s with
            successful_operations := s.successful_operations ++ [(operation, h._process_single_operation operation)]
            processed_count := s.processed_count + 1 } := by
        unfold Handling.collect
        rw [ends]
      rw [collected] at attempted successful failed processed errors ⊢
      refine ⟨attempted, ?_, ?_, fun before => processed ?_, errors⟩
      · simp [successful, ← kind]
      · simp [failed, ← kind]
      · simp [before]
    | some error =>
      rw [ends] at kind
      have collected : h.collect s operation =
          { s with
            failed_operations := s.failed_operations ++ [(operation, error)]
            error_count := s.error_count + 1 } := by
        unfold Handling.collect
        rw [ends]
      rw [collected] at attempted successful failed processed errors ⊢
      refine ⟨attempted, ?_, ?_, processed, fun before => errors ?_⟩
      · simp [successful, ← kind]
      · simp [failed, ← kind]
      · simp [before]

theorem Reached.batch {done : List (Numbered ω)} {s : BatchProgress ω β} (reached : Reached h done s) (batch : List (Numbered ω)) :
    Reached h (done ++ batch) (h.gather s batch) := by
  unfold Handling.gather
  obtain ⟨attempted, successful, failed, processed, errors⟩ :=
    collect_batch (h := h) batch { s with attempted := s.attempted ++ h.schedule batch }
  refine ⟨?_, ?_, ?_, processed reached.processed_count, errors reached.error_count⟩
  · rw [attempted]
    exact reached.attempted.append (h.schedule_perm batch)
  · rw [successful, List.filter_append, ← reached.successful]
  · rw [failed, List.filter_append, ← reached.failed]

theorem Reached.counts {done : List (Numbered ω)} {s : BatchProgress ω β} (reached : Reached h done s) :
    s.processed_count = done.countP (fun operation => !h.yields_exception operation) ∧ s.error_count = done.countP h.yields_exception := by
  rw [reached.processed_count, reached.error_count, List.countP_eq_length_filter, List.countP_eq_length_filter, ← reached.successful,
    ← reached.failed, List.length_map, List.length_map]
  exact ⟨rfl, rfl⟩

theorem first_succ (k : Nat) : p.first operations (k + 1) = p.first operations k ++ p.batch operations (k * p.batch_size) := by
  rw [first, first, batch, Nat.succ_mul, List.take_add]

/-! ## The loop -/

/-- How the loop ends: it runs out of batches, or raises after the first batch that
    stops it. -/
inductive Ends (p : AsyncBatchProcessor) (h : Handling ω β) (operations : List ω) (k m : Nat) : BatchLoop × BatchProgress ω β → Prop
  | finished {s} : Reached h (p.first operations (k + m)) s → (∀ j, k ≤ j → j < k + m → ¬p.Stops h operations j) →
    Ends p h operations k m (.finished, s)
  | raised {s error} (b : Nat) : k ≤ b → b < k + m → Reached h (p.first operations (b + 1)) s → p.Stops h operations b →
      (∀ j, k ≤ j → j < b → ¬p.Stops h operations j) → Ends p h operations k m (.raised error, s)

theorem process_batches_ends (permits : operations = [] ∨ 0 < p.max_concurrency) (m k : Nat) {s : BatchProgress ω β}
    (reached : Reached h (p.first operations k) s) :
    Ends p h operations k m (p.process_batches h operations ((List.range' k m).map (· * p.batch_size)) s) := by
  induction m generalizing k s with
  | zero => exact .finished reached fun j low high => absurd high (by omega)
  | succ m ih =>
    have served : ¬(p.max_concurrency = 0 ∧ p.batch operations (k * p.batch_size) ≠ []) := by
      rcases permits with rfl | permits
      · simp [batch]
      · omega
    rw [List.range'_succ, List.map_cons, process_batches, if_neg served]
    have after := reached.batch (p.batch operations (k * p.batch_size))
    rw [← first_succ] at after
    obtain ⟨processed, errors⟩ := after.counts
    simp only
    generalize h.gather s (p.batch operations (k * p.batch_size)) = t at after processed errors ⊢
    cases stop : h.check t.processed_count t.error_count operations.length with
    | some error =>
      rw [processed, errors] at stop
      exact .raised k (Nat.le_refl _) (by omega) after (by rw [Stops, stop]; rfl) fun j low high => absurd high (by omega)
    | none =>
      rw [processed, errors] at stop
      have passes (j : Nat) (low : k ≤ j) (high : j < k + 1) : ¬p.Stops h operations j := by
        obtain rfl : j = k := by omega
        rw [Stops, stop]
        exact Bool.false_ne_true
      have shift : k + (m + 1) = k + 1 + m := by omega
      have later := ih (k + 1) after
      generalize p.process_batches h operations ((List.range' (k + 1) m).map (· * p.batch_size)) t = result at later ⊢
      cases later with
      | finished done clear =>
        refine .finished (shift ▸ done) fun j low high => ?_
        by_cases early : j < k + 1
        · exact passes j low early
        · exact clear j (by omega) (by omega)
      | raised b low high done stops clear =>
        refine .raised b (by omega) (by omega) done stops fun j low' high' => ?_
        by_cases early : j < k + 1
        · exact passes j low' early
        · exact clear j (by omega) high'

/-- The start of a batch lies within the list. -/
theorem batch_iff (sized : 0 < p.batch_size) (length k : Nat) :
    k < (length + p.batch_size - 1) / p.batch_size ↔ k * p.batch_size < length := by
  rw [Nat.lt_iff_add_one_le, Nat.le_div_iff_mul_le sized, Nat.succ_mul]
  omega

/-- All batches together are all operations. -/
theorem first_all (sized : 0 < p.batch_size) :
    p.first operations ((operations.length + p.batch_size - 1) / p.batch_size) = operations.zipIdx := by
  have beyond := (batch_iff (p := p) sized operations.length _).not.mp (Nat.lt_irrefl _)
  rw [first, List.take_of_length_le]
  rw [List.length_zipIdx]
  omega

/-- How a call ends: with a list that is all collected, or at the first batch that
    stops it. -/
theorem process_batch_ends (sized : 0 < p.batch_size) (permits : operations = [] ∨ 0 < p.max_concurrency) :
    (∃ s, p.process_batch h operations = (.returned s.successful_operations s.failed_operations s.processed_count s.error_count, s) ∧
      Reached h operations.zipIdx s ∧ ∀ k, k * p.batch_size < operations.length → ¬p.Stops h operations k) ∨
    ∃ b message s, p.process_batch h operations =
        (.BatchOperationError message operations.length s.failed_operations s.processed_count, s) ∧
      Reached h (p.first operations (b + 1)) s ∧ p.FirstBatch operations (p.Stops h operations) b := by
  have start : Reached h (p.first operations 0) ({} : BatchProgress ω β) := by
    rw [first, Nat.zero_mul, List.take_zero]
    exact reached_start
  have ends := process_batches_ends permits ((operations.length + p.batch_size - 1) / p.batch_size) 0 start
  rw [← List.range_eq_range', ← starts] at ends
  unfold process_batch process_all
  rw [if_neg (by omega)]
  generalize p.process_batches h operations (p.starts operations.length) {} = result at ends ⊢
  cases ends with
  | finished done clear =>
    rw [Nat.zero_add, first_all sized] at done
    exact .inl ⟨_, rfl, done, fun k inside => clear k (Nat.zero_le _) (by rw [Nat.zero_add]; exact (batch_iff sized _ _).mpr inside)⟩
  | raised b _ high done stops clear =>
    rw [Nat.zero_add] at high
    exact .inr ⟨b, _, _, rfl, done, (batch_iff sized _ _).mp high, stops, fun k early => clear k (Nat.zero_le _) early⟩

/-! ## When the counts are right -/

/-- Two lists of kept operations are equal where the tests agree on every operation. -/
theorem filter_eq_iff {items : List (Numbered ω)} {keeps keeps' : Numbered ω → Bool} :
    items.filter keeps = items.filter keeps' ↔ ∀ operation ∈ items, keeps operation = keeps' operation := by
  constructor
  · intro same operation member
    have either : operation ∈ items.filter keeps ↔ operation ∈ items.filter keeps' := by rw [same]
    exact Bool.eq_iff_iff.mpr (by simpa [member] using either)
  · exact List.filter_congr

/-- Batches whose ends are in the list are told apart by the operations up to there. -/
theorem batch_unique (sized : 0 < p.batch_size) {b b' : Nat} (inside : b * p.batch_size < operations.length)
    (inside' : b' * p.batch_size < operations.length) (same : (p.first operations (b + 1)).length = (p.first operations (b' + 1)).length) :
    b = b' := by
  have either (i j : Nat) (inside : j * p.batch_size < operations.length)
      (same : (p.first operations (i + 1)).length = (p.first operations (j + 1)).length) : j ≤ i := by
    by_contra later
    have less : (i + 1) * p.batch_size ≤ j * p.batch_size := Nat.mul_le_mul_right _ (by omega)
    have next : (j + 1) * p.batch_size = j * p.batch_size + p.batch_size := Nat.succ_mul j p.batch_size
    rw [first, first, List.length_take, List.length_take, List.length_zipIdx] at same
    omega
  exact Nat.le_antisymm (either b' b inside same.symm) (either b b' inside' same)

theorem firstBatch_unique {holds : Nat → Prop} {b b' : Nat} (one : p.FirstBatch operations holds b)
    (other : p.FirstBatch operations holds b') :
    b = b' := by
  rcases Nat.lt_trichotomy b b' with less | same | more
  · exact absurd one.2.1 (other.2.2 b less)
  · exact same
  · exact absurd other.2.1 (one.2.2 b' more)

/-- Without permits the first batch is never done. -/
theorem process_batch_waits (sized : 0 < p.batch_size) (some_operation : operations ≠ []) (no_permits : p.max_concurrency = 0) :
    (p.process_batch h operations).1 = .waiting := by
  have nonempty : 0 < operations.length := List.length_pos_of_ne_nil some_operation
  have batches : 0 < (operations.length + p.batch_size - 1) / p.batch_size := (batch_iff sized _ 0).mpr (by omega)
  obtain ⟨more, count⟩ := Nat.exists_eq_succ_of_ne_zero (Nat.ne_of_gt batches)
  have taken : p.batch operations (0 * p.batch_size) ≠ [] := by
    apply List.ne_nil_of_length_pos
    rw [batch, List.length_take, List.length_drop, List.length_zipIdx]
    omega
  unfold process_batch process_all
  rw [if_neg (by omega), starts, count, List.range_eq_range', List.range'_succ, List.map_cons, process_batches, if_pos ⟨no_permits, taken⟩]

theorem accounts_iff_of_finished {s : BatchProgress ω β}
    (reply : p.process_batch h operations = (.returned s.successful_operations s.failed_operations s.processed_count s.error_count, s))
    (reached : Reached h operations.zipIdx s) :
    p.Accounts h operations ↔ ∀ operation ∈ operations.zipIdx, h.yields_exception operation = !h.returns operation := by
  unfold Accounts
  rw [reply]
  constructor
  · rintro (⟨-, successful, failed, same, sorted, -⟩ | ⟨b, -, -, message, failed, successful, same⟩)
    · obtain ⟨rfl, -⟩ := BatchReply.returned.inj same
      rw [reached.successful, filter_eq_iff] at sorted
      intro operation member
      rw [← sorted operation member, Bool.not_not]
    · cases same
  · intro right
    have kept : operations.zipIdx.filter (fun operation => !h.yields_exception operation) = operations.zipIdx.filter h.returns :=
      filter_eq_iff.mpr fun operation member => by rw [right operation member, Bool.not_not]
    have dropped : operations.zipIdx.filter h.yields_exception = operations.zipIdx.filter fun operation => !h.returns operation :=
      filter_eq_iff.mpr right
    refine .inl ⟨reached.attempted, s.successful_operations, s.failed_operations, ?_, ?_, ?_⟩
    · rw [reached.processed_count, reached.error_count]
    · rw [reached.successful, kept]
    · rw [reached.failed, dropped]

/-- The first operation returns, and the task of the second is cancelled. No rate
    exceeds the threshold. -/
def second_cancelled : Handling String Nat where
  operation_handler operation := if operation.2 = 0 then .returned 7 else .cancelled
  is_exception _ := false
  str _ := ""
  schedule batch := batch
  exceeds _ _ := false
  exceeds_text _ _ := ""
  schedule_perm _ := .refl _

end AsyncBatchProcessor
end RevitPy
