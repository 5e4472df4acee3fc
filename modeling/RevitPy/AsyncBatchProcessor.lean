import Mathlib.Data.List.Perm.Basic

/-!
# Batches of asynchronous operations

The operations are cut into batches, and the handlers of one batch run together. What
`gather` yields for them is sorted into successes and failures, and too many failures
end the processing between two batches.
-/

namespace RevitPy

/-- How the handler of an operation ends. -/
inductive OperationEnd (β : Type)
  | returned (value : β)
  | raised (error : String)
  | cancelled

/-- What `gather` yields for an operation. -/
inductive GatherResult (β : Type)
  | value (value : β)
  | exception (error : String)
  | CancelledError

/-- An operation and its place in the list. -/
abbrev Numbered (ω : Type) := ω × Nat

/-- What a processor is given and does not decide: the ends of the handlers, the
    objects that they return, the order in which a batch is attempted, the error rate as
    a float, and the callback, which may raise. -/
structure Handling (ω β : Type) where
  operation_handler : Numbered ω → OperationEnd β
  is_exception : β → Bool
  str : β → String
  schedule : List (Numbered ω) → List (Numbered ω)
  /-- `error_count / (processed_count + error_count) > error_threshold`. -/
  exceeds : Nat → Nat → Bool
  exceeds_text : Nat → Nat → String
  progress_callback : Option (Nat → Nat → Option String) := none
  schedule_perm : ∀ batch, (schedule batch).Perm batch

structure AsyncBatchProcessor where
  max_concurrency : Nat := 10
  batch_size : Nat := 100

/-- What has been attempted and collected so far. -/
structure BatchProgress (ω β : Type) where
  attempted : List (Numbered ω) := []
  successful_operations : List (Numbered ω × GatherResult β) := []
  failed_operations : List (Numbered ω × String) := []
  processed_count : Nat := 0
  error_count : Nat := 0

/-- How the loop over the batches ends, or that it waits for permits forever. -/
inductive BatchLoop
  | finished
  | raised (error : String)
  | waiting

inductive BatchReply (ω β : Type)
  | returned (successful_operations : List (Numbered ω × GatherResult β)) (failed_operations : List (Numbered ω × String))
    (processed_count error_count : Nat)
  | BatchOperationError (message : String) (batch_size : Nat) (failed_operations : List (Numbered ω × String))
    (successful_operations : Nat)
  | waiting

variable {ω β : Type}

namespace Handling
variable (h : Handling ω β)

/-- A coroutine that raises `CancelledError` passes `except Exception`, and its task is
    cancelled. -/
def _process_single_operation (operation : Numbered ω) : GatherResult β := match h.operation_handler operation with
  | .returned value => .value value
  | .raised error => .exception error
  | .cancelled => .CancelledError

/-- `str(result)`, where `isinstance(result, Exception)`. `CancelledError` is none. -/
def error_of : GatherResult β → Option String
  | .value value => if h.is_exception value then some (h.str value) else none
  | .exception error => some error
  | .CancelledError => none

/-- A round of the loop that collects results. -/
def collect (s : BatchProgress ω β) (operation : Numbered ω) : BatchProgress ω β :=
  match h.error_of (h._process_single_operation operation) with
  | some error =>
    { s with
      failed_operations := s.failed_operations ++ [(operation, error)]
      error_count := s.error_count + 1 }
  | none =>
    { s with
      successful_operations := s.successful_operations ++ [(operation, h._process_single_operation operation)]
      processed_count := s.processed_count + 1 }

/-- The handlers of a batch run to their ends, and the results are collected. -/
def gather (s : BatchProgress ω β) (batch : List (Numbered ω)) : BatchProgress ω β :=
  batch.foldl h.collect { s with attempted := s.attempted ++ h.schedule batch }

/-- What is raised after a batch: the error threshold, or what the callback raises. -/
def check (processed_count error_count total : Nat) : Option String :=
  if 0 < error_count ∧ h.exceeds error_count (processed_count + error_count) = true then
    some (h.exceeds_text error_count (processed_count + error_count))
  else h.progress_callback.bind fun callback => callback (processed_count + error_count) total

end Handling

namespace AsyncBatchProcessor
variable (p : AsyncBatchProcessor) (h : Handling ω β)

/-- `range(0, length, batch_size)`. -/
def starts (length : Nat) : List Nat := (List.range ((length + p.batch_size - 1) / p.batch_size)).map (· * p.batch_size)

/-- `operations[i : i + batch_size]`. -/
def batch (operations : List ω) (i : Nat) : List (Numbered ω) := (operations.zipIdx.drop i).take p.batch_size

def process_batches (operations : List ω) : List Nat → BatchProgress ω β → BatchLoop × BatchProgress ω β
  | [], s => (.finished, s)
  | i :: rest, s =>
    if p.max_concurrency = 0 ∧ p.batch operations i ≠ [] then (.waiting, s)
    else
      let s := h.gather s (p.batch operations i)
      match h.check s.processed_count s.error_count operations.length with
      | some error => (.raised error, s)
      | none => process_batches operations rest s

/-- The loop over the batches, from the call of `range` on. -/
def process_all (operations : List ω) : BatchLoop × BatchProgress ω β :=
  if p.batch_size = 0 then (.raised "range() arg 3 must not be zero", {})
  else p.process_batches h operations (p.starts operations.length) {}

/-- Process a batch of operations asynchronously. Whatever is raised in the loop is
    raised again as a `BatchOperationError`. -/
def process_batch (operations : List ω) : BatchReply ω β × BatchProgress ω β :=
  match p.process_all h operations with
  | (.finished, s) => (.returned s.successful_operations s.failed_operations s.processed_count s.error_count, s)
  | (.raised error, s) =>
    (.BatchOperationError ("Batch processing failed: " ++ error) operations.length s.failed_operations s.processed_count, s)
  | (.waiting, s) => (.waiting, s)

end AsyncBatchProcessor
end RevitPy
