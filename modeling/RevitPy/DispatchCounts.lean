import Mathlib.Data.List.Induction
import RevitPy.EventDispatch
import RevitPy.Runs

/-!
# What a dispatch counts

The dispatcher counts the handlers that answered it and those that raised, while the handlers count
their own errors and answer in their place. Other code may run between the steps of a dispatch: what a
handler is at each of its checks, and what its code then does, is given with its turn.
-/

namespace RevitPy.DispatchCounts

/-- What is raised: an `Exception`; what a task gives to the code that awaits it, such as a
    `CancelledError`; or what ends the program. -/
inductive Thrown (ε : Type)
  | Exception (error : ε)
  | BaseException (error : ε)
  | SystemExit (error : ε)
  deriving DecidableEq

/-- Metadata for event handlers. -/
structure HandlerMetadata (ε : Type) where
  enabled : Bool := true
  error_count : Nat := 0
  max_errors : Int := 10
  last_error : Option ε := none
  execution_count : Nat := 0

/-- A handler in a dispatch: its metadata and the answer of its filter, if it has one, at the check of
    the dispatcher and at its own; and the end of `handle_event`. -/
structure Turn (ε : Type) where
  metadata : HandlerMetadata ε := {}
  event_filter : Option (Except (Thrown ε) Bool) := none
  later_metadata : HandlerMetadata ε := {}
  later_filter : Option (Except (Thrown ε) Bool) := none
  answer : Except (Thrown ε) EventResult

/-- A handler, with its turn in a dispatch. -/
structure Handler (ε : Type) where
  is_async : Bool
  turn : Turn ε

/-- Result of event dispatching. -/
structure EventDispatchResult (ε : Type) where
  handlers_executed : Nat := 0
  handlers_failed : Nat := 0
  was_cancelled : Bool := false
  final_result : EventResult := .CONTINUE
  errors : List (Thrown ε) := []

/-- A dispatch: its result, whether the event is cancelled, and how each call of `handle_event` that
    was started ends. -/
structure Dispatch (ε : Type) where
  result : EventDispatchResult ε := {}
  cancelled : Bool := false
  started : List (Except (Thrown ε) EventResult) := []

variable {ε : Type}

/-! ## Handlers -/

def HandlerMetadata.is_enabled (metadata : HandlerMetadata ε) : Bool :=
  metadata.enabled && !decide (metadata.max_errors ≤ metadata.error_count)

/-- Check if this handler should handle the event. -/
def should_handle (metadata : HandlerMetadata ε) (event_filter : Option (Except (Thrown ε) Bool)) : Except (Thrown ε) Bool :=
  if !metadata.is_enabled then .ok false else event_filter.getD (.ok true)

namespace Turn
variable (turn : Turn ε)

/-- The check of the dispatcher. -/
def accepts : Except (Thrown ε) Bool := should_handle turn.metadata turn.event_filter

/-- Handle event with error handling and metrics: what the dispatcher gets, the metadata after it,
    and the call of `handle_event`, if there is one. -/
def safely : Except (Thrown ε) EventResult × HandlerMetadata ε × Option (Except (Thrown ε) EventResult) :=
  match should_handle turn.later_metadata turn.later_filter with
  | .error e => (.error e, turn.later_metadata, none)
  | .ok false => (.ok .CONTINUE, turn.later_metadata, none)
  | .ok true =>
    match turn.answer with
    | .ok r => (.ok r, { turn.later_metadata with execution_count := turn.later_metadata.execution_count + 1 }, some (.ok r))
    | .error (.Exception e) =>
      (.ok .CONTINUE,
        { turn.later_metadata with
          error_count := turn.later_metadata.error_count + 1
          last_error := some e }, some (.error (.Exception e)))
    | .error e => (.error e, turn.later_metadata, some (.error e))

def handle_event_safely : Except (Thrown ε) EventResult × HandlerMetadata ε × Option (Except (Thrown ε) EventResult) := turn.safely

/-- The same around `handle_event_async`. -/
def handle_event_safely_async : Except (Thrown ε) EventResult × HandlerMetadata ε × Option (Except (Thrown ε) EventResult) := turn.safely

end Turn

/-! ## The dispatcher -/

/-- An answer after which the dispatch ends. -/
def ends (cancellable : Bool) (r : EventResult) : Bool := (r = .CANCEL && cancellable) || r = .STOP

namespace Dispatch
variable (s : Dispatch ε)

def start (call : Option (Except (Thrown ε) EventResult)) : Dispatch ε := { s with started := s.started ++ call.toList }

/-- A handler has answered. -/
def answered (cancellable : Bool) (r : EventResult) : Dispatch ε :=
  let s := { s with result := { s.result with handlers_executed := s.result.handlers_executed + 1 } }
  if r = .CANCEL ∧ cancellable = true then
    { s with
      cancelled := true
      result := { s.result with was_cancelled := true, final_result := .CANCEL } }
  else if r = .STOP then { s with result := { s.result with final_result := .STOP } }
  else s

def failed (e : Thrown ε) : Dispatch ε :=
  { s with result := { s.result with
    handlers_failed := s.result.handlers_failed + 1
    errors := s.result.errors ++ [e] } }

end Dispatch

/-- The loop over handlers that are called one after the other. -/
def process_handlers (cancellable : Bool) : Dispatch ε → List (Turn ε) → Except (Thrown ε) Unit × Dispatch ε
  | s, [] => (.ok (), s)
  | s, turn :: rest =>
    match turn.accepts with
    | .error e => (.error e, s)
    | .ok false => process_handlers cancellable s rest
    | .ok true =>
      let (handler_result, _, call) := turn.handle_event_safely
      let s := s.start call
      match handler_result with
      | .ok r =>
        if ends cancellable r then (.ok (), s.answered cancellable r)
        else process_handlers cancellable (s.answered cancellable r) rest
      | .error (.Exception e) => process_handlers cancellable (s.failed (.Exception e)) rest
      | .error e => (.error e, s)

/-- The handlers that get a task. -/
def create_tasks : List (Turn ε) → Except (Thrown ε) (List (Turn ε))
  | [] => .ok []
  | turn :: rest =>
    match turn.accepts with
    | .error e => .error e
    | .ok false => create_tasks rest
    | .ok true => (create_tasks rest).map fun tasks => turn :: tasks

/-- What the dispatcher makes of the end of a task. -/
def gathered (cancellable : Bool) (s : Dispatch ε) (turn : Turn ε) : Dispatch ε :=
  let (async_result, _, call) := turn.handle_event_safely_async
  match async_result with
  | .ok r => (s.start call).answered cancellable r
  | .error (.Exception e) => (s.start call).failed (.Exception e)
  | .error _ => (s.start call).answered cancellable .CONTINUE

/-- A task ends the program. -/
def exits (turn : Turn ε) : Option (Thrown ε) :=
  match turn.handle_event_safely_async.1 with
  | .error (.SystemExit e) => some (.SystemExit e)
  | _ => none

/-- `asyncio.gather` and the loop over its results, which are in the order of the tasks. -/
def gather (cancellable : Bool) (s : Dispatch ε) (tasks : List (Turn ε)) : Except (Thrown ε) Unit × Dispatch ε :=
  match tasks.findSome? exits with
  | some e => (.error e, s)
  | none => (.ok (), tasks.foldl (gathered cancellable) s)

/-- Process an event immediately (synchronously). -/
def _process_event_immediate (cancellable : Bool) (handlers : List (Handler ε)) : Except (Thrown ε) Unit × Dispatch ε :=
  process_handlers cancellable {} (handlers.map Handler.turn)

def sync_turns (handlers : List (Handler ε)) : List (Turn ε) := (handlers.filter fun h => !h.is_async).map Handler.turn
def async_turns (handlers : List (Handler ε)) : List (Turn ε) := (handlers.filter fun h => h.is_async).map Handler.turn

/-- Process an event asynchronously. -/
def _process_event_async (cancellable : Bool) (handlers : List (Handler ε)) : Except (Thrown ε) Unit × Dispatch ε :=
  match process_handlers cancellable {} (sync_turns handlers) with
  | (.error e, s) => (.error e, s)
  | (.ok (), s) =>
    if s.result.final_result = .CONTINUE then
      match create_tasks (async_turns handlers) with
      | .error e => (.error e, s)
      | .ok tasks => gather cancellable s tasks
    else (.ok (), s)

/-! ## Coherence -/

/-- What the started calls of `handle_event` raised. -/
def raised : List (Except (Thrown ε) EventResult) → List (Thrown ε)
  | [] => []
  | .error e :: rest => e :: raised rest
  | .ok _ :: rest => raised rest

structure Dispatch.Coherent (s : Dispatch ε) : Prop where
  cancelled : s.result.was_cancelled = true ↔ s.result.final_result = .CANCEL
  started : s.result.handlers_executed + s.result.handlers_failed = s.started.length
  failed : s.result.handlers_failed = (raised s.started).length
  errors : s.result.errors = raised s.started

/-- A handler that still accepts the event at its own check, and whose `handle_event` returns. -/
def Turn.Clean (turn : Turn ε) : Prop := should_handle turn.later_metadata turn.later_filter = .ok true ∧ ∃ r, turn.answer = .ok r

/-- The dispatcher calls the handler. -/
def Turn.accepted (turn : Turn ε) : Bool :=
  match turn.accepts with
  | .ok true => true
  | _ => false

/-- The answer of the handler ends the loop. -/
def Turn.stops (cancellable : Bool) (turn : Turn ε) : Bool :=
  match should_handle turn.later_metadata turn.later_filter, turn.answer with
  | .ok true, .ok r => ends cancellable r
  | _, _ => false

/-- The handlers that accept the event, up to the first that ends the loop. -/
def reached (cancellable : Bool) : List (Turn ε) → List (Turn ε)
  | [] => []
  | turn :: rest =>
    if turn.accepted then turn :: (if turn.stops cancellable then [] else reached cancellable rest)
    else reached cancellable rest

/-- The asynchronous handlers that accept the event, if none of the others ends the dispatch. -/
def served (cancellable : Bool) (handlers : List (Handler ε)) : List (Turn ε) :=
  if (reached cancellable (sync_turns handlers)).any (Turn.stops cancellable) then []
  else (async_turns handlers).filter Turn.accepted

/-- After a handler that cancels the event, one that stops it is followed by another that cancels it. -/
def Unoverruled (cancellable : Bool) (turns : List (Turn ε)) : Prop :=
  cancellable = true → ∀ before stopping after, turns = before ++ stopping :: after → stopping.answer = .ok .STOP →
    (∃ turn ∈ before, turn.answer = .ok .CANCEL) → ∃ turn ∈ after, turn.answer = .ok .CANCEL

/-! ## Counting -/

/-- The call of `handle_event` in a turn. -/
def Turn.call (turn : Turn ε) : Option (Except (Thrown ε) EventResult) := turn.safely.2.2

/-- The `Exception` that the dispatcher gets in a turn. -/
def Turn.failure (turn : Turn ε) : Option (Thrown ε) :=
  match turn.safely.1 with
  | .error (.Exception e) => some (.Exception e)
  | _ => none

section
variable (s : Dispatch ε) (cancellable : Bool) (r : EventResult)

@[simp] theorem answered_executed : (s.answered cancellable r).result.handlers_executed = s.result.handlers_executed + 1 := by
  unfold Dispatch.answered
  split
  · rfl
  · split <;> rfl

@[simp] theorem answered_failed : (s.answered cancellable r).result.handlers_failed = s.result.handlers_failed := by
  unfold Dispatch.answered
  split
  · rfl
  · split <;> rfl

@[simp] theorem answered_errors : (s.answered cancellable r).result.errors = s.result.errors := by
  unfold Dispatch.answered
  split
  · rfl
  · split <;> rfl

@[simp] theorem answered_started : (s.answered cancellable r).started = s.started := by
  unfold Dispatch.answered
  split
  · rfl
  · split <;> rfl

end

/-- What a dispatch has counted, and what it had counted before some turns. -/
structure Counted (s t : Dispatch ε) (turns : List (Turn ε)) : Prop where
  total : t.result.handlers_executed + t.result.handlers_failed =
    s.result.handlers_executed + s.result.handlers_failed + turns.length
  started : t.started = s.started ++ turns.filterMap Turn.call
  errors : t.result.errors = s.result.errors ++ turns.filterMap Turn.failure
  failed : t.result.handlers_failed = s.result.handlers_failed + (turns.filterMap Turn.failure).length

namespace Counted
variable {s t u : Dispatch ε} {turns more : List (Turn ε)} {turn : Turn ε} {cancellable : Bool} {r : EventResult}

theorem refl (s : Dispatch ε) : Counted s s [] := by constructor <;> simp

theorem trans (first : Counted s t turns) (second : Counted t u more) : Counted s u (turns ++ more) where
  total := by
    rw [second.total, first.total, List.length_append]
    omega
  started := by rw [second.started, first.started, List.filterMap_append, List.append_assoc]
  errors := by rw [second.errors, first.errors, List.filterMap_append, List.append_assoc]
  failed := by
    rw [second.failed, first.failed, List.filterMap_append, List.length_append]
    omega

theorem filterMap_call (turn : Turn ε) : [turn].filterMap Turn.call = turn.call.toList := by
  cases called : turn.call <;> simp [called]

/-- A turn in which the dispatcher gets no `Exception` counts as executed. -/
theorem answered (unfailing : turn.failure = none) : Counted s ((s.start turn.call).answered cancellable r) [turn] where
  total := by
    simp [Dispatch.start]
    omega
  started := by simp [Dispatch.start, filterMap_call]
  errors := by simp [Dispatch.start, unfailing]
  failed := by simp [Dispatch.start, unfailing]

theorem failed_turn {e : Thrown ε} (failing : turn.failure = some e) : Counted s ((s.start turn.call).failed e) [turn] where
  total := by
    simp [Dispatch.failed, Dispatch.start]
    omega
  started := by simp [Dispatch.failed, Dispatch.start, filterMap_call]
  errors := by simp [Dispatch.failed, Dispatch.start, failing]
  failed := by simp [Dispatch.failed, Dispatch.start, failing]

end Counted

/-! ## The loop over handlers -/

/-- The event is neither stopped nor cancelled. -/
structure Dispatch.Fresh (s : Dispatch ε) : Prop where
  uncancelled : s.result.was_cancelled = false
  continues : s.result.final_result = .CONTINUE

/-- The event is stopped or cancelled, and not both. -/
structure Dispatch.Ended (s : Dispatch ε) : Prop where
  cancelled : s.result.was_cancelled = true ↔ s.result.final_result = .CANCEL
  decided : s.result.final_result ≠ .CONTINUE

theorem Dispatch.Fresh.answered {s : Dispatch ε} (fresh : s.Fresh) {cancellable : Bool} {r : EventResult} (goes_on : ends cancellable r = false) :
    (s.answered cancellable r).Fresh := by
  unfold Dispatch.answered
  simp only [ends, Bool.or_eq_false_iff, Bool.and_eq_false_iff, decide_eq_false_iff_not] at goes_on
  rw [if_neg, if_neg goes_on.2]
  · exact ⟨fresh.uncancelled, fresh.continues⟩
  · rintro ⟨cancels, set⟩
    rcases goes_on.1 with other | unset
    · exact other cancels
    · rw [set] at unset
      cases unset

theorem Dispatch.Fresh.ended {s : Dispatch ε} (fresh : s.Fresh) {cancellable : Bool} {r : EventResult} (finishes : ends cancellable r = true) :
    (s.answered cancellable r).Ended := by
  unfold Dispatch.answered
  by_cases cancels : r = .CANCEL ∧ cancellable = true
  · rw [if_pos cancels]
    exact ⟨by simp, by simp⟩
  · rw [if_neg cancels]
    have stops : r = .STOP := by
      simp only [ends, Bool.or_eq_true, Bool.and_eq_true, decide_eq_true_eq] at finishes
      exact finishes.resolve_left cancels
    rw [if_pos stops]
    exact ⟨by simp [fresh.uncancelled], by simp⟩

/-- The answer that the dispatcher gets decides whether the loop ends. -/
theorem Turn.stops_ok {turn : Turn ε} {cancellable : Bool} {r : EventResult} (safe : turn.handle_event_safely.1 = .ok r) :
    turn.stops cancellable = ends cancellable r := by
  unfold Turn.handle_event_safely Turn.safely at safe
  unfold Turn.stops
  rcases check : should_handle turn.later_metadata turn.later_filter with e | (_ | _)
  · simp [check] at safe
  · simp only [check, Except.ok.injEq] at safe
    simp [← safe, ends]
  · rcases answer : turn.answer with (e | e | e) | r'
    · simp only [check, answer, Except.ok.injEq] at safe
      simp [← safe, ends]
    · simp [check, answer] at safe
    · simp [check, answer] at safe
    · simp only [check, answer, Except.ok.injEq] at safe
      simp [← safe]

theorem Turn.stops_error {turn : Turn ε} {cancellable : Bool} {e : Thrown ε} (uncaught : turn.handle_event_safely.1 = .error e) :
    turn.stops cancellable = false := by
  unfold Turn.handle_event_safely Turn.safely at uncaught
  unfold Turn.stops
  rcases check : should_handle turn.later_metadata turn.later_filter with e | (_ | _)
  · rfl
  · rfl
  · rcases answer : turn.answer with (e | e | e) | r
    · rfl
    · rfl
    · rfl
    · simp [check, answer] at uncaught

/-- What the loop has done once it returns. -/
structure Processed (cancellable : Bool) (turns : List (Turn ε)) (s t : Dispatch ε) : Prop where
  counted : Counted s t (reached cancellable turns)
  fresh : (reached cancellable turns).any (Turn.stops cancellable) = false → t.Fresh
  ended : (reached cancellable turns).any (Turn.stops cancellable) = true → t.Ended

/-- A turn after which the loop goes on. -/
theorem Processed.cons {cancellable : Bool} {turn : Turn ε} {rest : List (Turn ε)} {s t u : Dispatch ε} (accepted : turn.accepted = true)
    (goes_on : turn.stops cancellable = false) (first : Counted s t [turn]) (later : Processed cancellable rest t u) :
    Processed cancellable (turn :: rest) s u := by
  have split : reached cancellable (turn :: rest) = turn :: reached cancellable rest := by simp [reached, accepted, goes_on]
  constructor
  · rw [split]
    exact first.trans later.counted
  · intro unstopped
    rw [split, List.any_cons, goes_on, Bool.false_or] at unstopped
    exact later.fresh unstopped
  · intro stopped
    rw [split, List.any_cons, goes_on, Bool.false_or] at stopped
    exact later.ended stopped

theorem processed (cancellable : Bool) (turns : List (Turn ε)) {s : Dispatch ε} (fresh : s.Fresh)
    (returned : (process_handlers cancellable s turns).1 = .ok ()) :
    Processed cancellable turns s (process_handlers cancellable s turns).2 := by
  induction turns generalizing s with
  | nil => exact ⟨.refl s, fun _ => fresh, fun stopped => by cases stopped⟩
  | cons turn rest ih =>
    rw [process_handlers] at returned ⊢
    rcases check : turn.accepts with e | (_ | _)
    · simp [check] at returned
    · simp only [check] at returned ⊢
      have skipped : reached cancellable (turn :: rest) = reached cancellable rest := by simp [reached, Turn.accepted, check]
      obtain ⟨counted, goes, ends⟩ := ih fresh returned
      exact ⟨skipped ▸ counted, skipped ▸ goes, skipped ▸ ends⟩
    · have accepted : turn.accepted = true := by simp [Turn.accepted, check]
      simp only [check] at returned ⊢
      rcases safe : turn.handle_event_safely with ⟨(e | e | e) | r, metadata, call⟩
      · simp only [safe] at returned ⊢
        have goes_on : turn.stops cancellable = false := Turn.stops_error (congrArg Prod.fst safe)
        have failing : turn.failure = some (.Exception e) := by
          unfold Turn.failure
          rw [show turn.safely.1 = .error (.Exception e) from congrArg Prod.fst safe]
        have called : turn.call = call := congrArg (fun answer => answer.2.2) safe
        rw [← called] at returned ⊢
        exact .cons accepted goes_on (Counted.failed_turn failing) (ih ⟨fresh.uncancelled, fresh.continues⟩ returned)
      · simp [safe] at returned
      · simp [safe] at returned
      · simp only [safe] at returned ⊢
        have unfailing : turn.failure = none := by
          unfold Turn.failure
          rw [show turn.safely.1 = .ok r from congrArg Prod.fst safe]
        have called : turn.call = call := congrArg (fun answer => answer.2.2) safe
        rw [← called] at returned ⊢
        have started : (s.start turn.call).Fresh := ⟨fresh.uncancelled, fresh.continues⟩
        have same : turn.stops cancellable = ends cancellable r := Turn.stops_ok (congrArg Prod.fst safe)
        by_cases finishes : ends cancellable r = true
        · rw [if_pos finishes]
          have stops : turn.stops cancellable = true := by rw [same, finishes]
          have only : reached cancellable (turn :: rest) = [turn] := by simp [reached, accepted, stops]
          refine ⟨only ▸ Counted.answered unfailing, ?_, fun _ => started.ended finishes⟩
          intro unstopped
          simp [only, stops] at unstopped
        · rw [if_neg finishes] at returned ⊢
          have under : ends cancellable r = false := by simpa using finishes
          have goes_on : turn.stops cancellable = false := by rw [same, under]
          exact .cons accepted goes_on (Counted.answered unfailing) (ih (started.answered under) returned)

/-! ## The asynchronous handlers -/

theorem create_tasks_ok {turns tasks : List (Turn ε)} (created : create_tasks turns = .ok tasks) : tasks = turns.filter Turn.accepted := by
  induction turns generalizing tasks with
  | nil =>
    cases created
    rfl
  | cons turn rest ih =>
    rw [create_tasks] at created
    rcases check : turn.accepts with e | (_ | _)
    · simp [check] at created
    · simp only [check] at created
      rw [List.filter_cons_of_neg (by simp [Turn.accepted, check])]
      exact ih created
    · rw [List.filter_cons_of_pos (by simp [Turn.accepted, check])]
      rcases later : create_tasks rest with e | more
      · simp [check, later, Except.map] at created
      · simp only [check, later, Except.map, Except.ok.injEq] at created
        rw [← created, ih later]

theorem gathered_counted (cancellable : Bool) (s : Dispatch ε) (turn : Turn ε) : Counted s (gathered cancellable s turn) [turn] := by
  unfold gathered
  rcases safe : turn.handle_event_safely_async with ⟨(e | e | e) | r, metadata, call⟩
  all_goals
    have called : turn.call = call := congrArg (fun answer => answer.2.2) safe
    have outcome : turn.safely.1 = turn.handle_event_safely_async.1 := rfl
    rw [safe] at outcome
    simp only
    rw [← called]
  · exact Counted.failed_turn (by unfold Turn.failure; rw [outcome])
  · exact Counted.answered (by unfold Turn.failure; rw [outcome])
  · exact Counted.answered (by unfold Turn.failure; rw [outcome])
  · exact Counted.answered (by unfold Turn.failure; rw [outcome])

theorem gather_counted (cancellable : Bool) (s : Dispatch ε) (tasks : List (Turn ε)) :
    Counted s (tasks.foldl (gathered cancellable) s) tasks := by
  induction tasks generalizing s with
  | nil => exact .refl s
  | cons turn rest ih => exact (gathered_counted cancellable s turn).trans (ih _)

theorem Turn.Clean.gathered {turn : Turn ε} (clean : turn.Clean) (cancellable : Bool) (s : Dispatch ε) :
    ∃ r, turn.answer = .ok r ∧ DispatchCounts.gathered cancellable s turn = (s.start (some (.ok r))).answered cancellable r := by
  obtain ⟨check, r, answer⟩ := clean
  refine ⟨r, answer, ?_⟩
  simp [DispatchCounts.gathered, Turn.handle_event_safely_async, Turn.safely, check, answer]

/-- An event that cannot be cancelled is not. -/
theorem gather_uncancellable {s : Dispatch ε} (fresh : s.Fresh) {tasks : List (Turn ε)} (clean : ∀ turn ∈ tasks, turn.Clean) :
    (tasks.foldl (gathered false) s).result.was_cancelled = false ∧ (tasks.foldl (gathered false) s).result.final_result ≠ .CANCEL := by
  induction tasks using List.reverseRecOn with
  | nil => exact ⟨fresh.uncancelled, by simp [fresh.continues]⟩
  | append_singleton tasks turn ih =>
    obtain ⟨uncancelled, other⟩ := ih fun other member => clean other (List.mem_append_left _ member)
    obtain ⟨r, -, same⟩ := (clean turn (by simp)).gathered false (tasks.foldl (gathered false) s)
    rw [List.foldl_append, List.foldl_cons, List.foldl_nil, same]
    by_cases stops : r = .STOP
    · simp [Dispatch.answered, Dispatch.start, stops, uncancelled]
    · simp [Dispatch.answered, Dispatch.start, stops, uncancelled, other]

/-- Nothing overrules the last turn. -/
theorem unoverruled_of_last_cancels (cancellable : Bool) (turns : List (Turn ε)) {turn : Turn ε} (answer : turn.answer = .ok .CANCEL) :
    Unoverruled cancellable (turns ++ [turn]) := by
  intro _ before stopping after split stops _
  rcases Runs.split_concat split with ⟨rfl, -⟩ | ⟨between, rfl, -⟩
  · rw [answer] at stops
    cases stops
  · exact ⟨turn, by simp, answer⟩

/-- A turn that goes on overrules nothing. -/
theorem unoverruled_concat {turns : List (Turn ε)} {turn : Turn ε} (answer : turn.answer = .ok .CONTINUE) :
    Unoverruled true (turns ++ [turn]) ↔ Unoverruled true turns := by
  constructor
  · intro unoverruled set before stopping after split stops earlier
    obtain ⟨other, member, cancels⟩ := unoverruled set before stopping (after ++ [turn]) (by simp [split]) stops earlier
    rcases List.mem_append.mp member with behind | last
    · exact ⟨other, behind, cancels⟩
    · rw [List.mem_singleton.mp last, answer] at cancels
      cases cancels
  · intro unoverruled set before stopping after split stops earlier
    rcases Runs.split_concat split with ⟨rfl, -⟩ | ⟨between, rfl, first⟩
    · rw [answer] at stops
      cases stops
    · obtain ⟨other, member, cancels⟩ := unoverruled set before stopping between first stops earlier
      exact ⟨other, List.mem_append_left _ member, cancels⟩

/-- What the answers of clean turns come to: they cancel the event if one of them does, and the final
    result says so unless a later one overrules it. -/
theorem gather_cancellable {s : Dispatch ε} (fresh : s.Fresh) {tasks : List (Turn ε)} (clean : ∀ turn ∈ tasks, turn.Clean) :
    ((tasks.foldl (gathered true) s).result.was_cancelled = true ↔ ∃ turn ∈ tasks, turn.answer = .ok .CANCEL) ∧
      ((tasks.foldl (gathered true) s).result.final_result = .CANCEL ↔ (∃ turn ∈ tasks, turn.answer = .ok .CANCEL) ∧ Unoverruled true tasks) := by
  induction tasks using List.reverseRecOn with
  | nil => exact ⟨by simp [fresh.uncancelled], by simp [fresh.continues]⟩
  | append_singleton tasks turn ih =>
    obtain ⟨cancelled, final⟩ := ih fun other member => clean other (List.mem_append_left _ member)
    obtain ⟨r, answer, same⟩ := (clean turn (by simp)).gathered true (tasks.foldl (gathered true) s)
    rw [List.foldl_append, List.foldl_cons, List.foldl_nil, same]
    cases r with
    | CANCEL =>
      refine ⟨by simp [Dispatch.answered, answer], ?_⟩
      exact iff_of_true (by simp [Dispatch.answered]) ⟨⟨turn, by simp, answer⟩, unoverruled_of_last_cancels true tasks answer⟩
    | STOP =>
      refine ⟨by simp [Dispatch.answered, Dispatch.start, cancelled, answer, or_and_right, exists_or], ?_⟩
      refine iff_of_false (by simp [Dispatch.answered]) ?_
      rintro ⟨⟨other, member, cancels⟩, unoverruled⟩
      have earlier : other ∈ tasks := by
        rcases List.mem_append.mp member with earlier | now
        · exact earlier
        · rw [List.mem_singleton.mp now, answer] at cancels
          cases cancels
      obtain ⟨_, none_after, -⟩ := unoverruled rfl tasks turn [] rfl answer ⟨other, earlier, cancels⟩
      cases none_after
    | CONTINUE =>
      have same_cancel : (∃ other ∈ tasks ++ [turn], other.answer = .ok .CANCEL) ↔ ∃ other ∈ tasks, other.answer = .ok .CANCEL := by
        simp [answer, or_and_right, exists_or]
      rw [same_cancel, unoverruled_concat answer]
      exact ⟨cancelled, final⟩

/-! ## When a dispatch is coherent -/

theorem raised_eq_nil (calls : List (Except (Thrown ε) EventResult)) : raised calls = [] ↔ ∀ call ∈ calls, ∃ r, call = .ok r := by
  induction calls with
  | nil => simp [raised]
  | cons call rest ih => cases call <;> simp [raised, ih]

/-- The call in a turn, once the handler accepts the event at its own check; the dispatcher gets no
    `Exception` then. -/
theorem Turn.call_of_check {turn : Turn ε} (check : should_handle turn.later_metadata turn.later_filter = .ok true) :
    turn.call = some turn.answer ∧ turn.failure = none := by
  unfold Turn.call Turn.failure Turn.safely
  rw [check]
  rcases turn.answer with (e | e | e) | r <;> exact ⟨rfl, rfl⟩

theorem Turn.check_of_call {turn : Turn ε} (called : turn.call.isSome) : should_handle turn.later_metadata turn.later_filter = .ok true := by
  unfold Turn.call Turn.safely at called
  rcases check : should_handle turn.later_metadata turn.later_filter with e | (_ | _)
  · simp [check] at called
  · simp [check] at called
  · rfl

theorem Turn.Clean.call {turn : Turn ε} (clean : turn.Clean) : turn.call.isSome ∧ turn.failure = none ∧ ∀ call ∈ turn.call, ∃ r, call = .ok r := by
  obtain ⟨check, r, answer⟩ := clean
  obtain ⟨called, unfailing⟩ := Turn.call_of_check check
  rw [called, answer]
  exact ⟨rfl, unfailing, fun call same => ⟨r, (Option.some.inj same).symm⟩⟩

/-- The numbers of a dispatch are right when each of its turns is clean, and only then. -/
theorem Counted.clean_iff {t : Dispatch ε} {turns : List (Turn ε)} (counted : Counted {} t turns) :
    (t.result.handlers_executed + t.result.handlers_failed = t.started.length ∧ t.result.handlers_failed = (raised t.started).length ∧
      t.result.errors = raised t.started) ↔ ∀ turn ∈ turns, turn.Clean := by
  have total : t.result.handlers_executed + t.result.handlers_failed = turns.length := by
    rw [counted.total]
    show 0 + 0 + turns.length = turns.length
    omega
  have started : t.started = turns.filterMap Turn.call := counted.started
  have errors : t.result.errors = turns.filterMap Turn.failure := counted.errors
  have failed : t.result.handlers_failed = (turns.filterMap Turn.failure).length := by
    rw [counted.failed]
    exact Nat.zero_add _
  rw [total, started, errors, failed]
  constructor
  · rintro ⟨all, -, same⟩ turn member
    have called : ∀ turn ∈ turns, turn.call.isSome := List.filterMap_length_eq_length.mp all.symm
    have none_failed : turns.filterMap Turn.failure = [] := by
      apply List.filterMap_eq_nil_iff.mpr
      intro other member
      exact (Turn.call_of_check (Turn.check_of_call (called other member))).2
    have check := Turn.check_of_call (called turn member)
    have returned := (raised_eq_nil _).mp (same.symm.trans none_failed) turn.answer
    exact ⟨check, returned (List.mem_filterMap.mpr ⟨turn, member, (Turn.call_of_check check).1⟩)⟩
  · intro clean
    have none_failed : turns.filterMap Turn.failure = [] :=
      List.filterMap_eq_nil_iff.mpr fun turn member => (clean turn member).call.2.1
    have none_raised : raised (turns.filterMap Turn.call) = [] := by
      apply (raised_eq_nil _).mpr
      intro call member
      obtain ⟨turn, of, same⟩ := List.mem_filterMap.mp member
      exact (clean turn of).call.2.2 call same
    rw [none_failed, none_raised]
    exact ⟨(List.filterMap_length_eq_length.mpr fun turn member => (clean turn member).call.1).symm, rfl, rfl⟩

theorem coherent_of {t : Dispatch ε} {turns : List (Turn ε)} (ruled : Prop) (counted : Counted {} t turns)
    (cancelled : (∀ turn ∈ turns, turn.Clean) → ((t.result.was_cancelled = true ↔ t.result.final_result = .CANCEL) ↔ ruled)) :
    t.Coherent ↔ (∀ turn ∈ turns, turn.Clean) ∧ ruled := by
  constructor
  · intro coherent
    have clean := counted.clean_iff.mp ⟨coherent.started, coherent.failed, coherent.errors⟩
    exact ⟨clean, (cancelled clean).mp coherent.cancelled⟩
  · rintro ⟨clean, holds⟩
    obtain ⟨started, failed, errors⟩ := counted.clean_iff.mpr clean
    exact ⟨(cancelled clean).mpr holds, started, failed, errors⟩

/-- A stopped or a continued loop agrees with the cancellation. -/
theorem Processed.cancelled {cancellable : Bool} {turns : List (Turn ε)} {s t : Dispatch ε} (processed : Processed cancellable turns s t) :
    t.result.was_cancelled = true ↔ t.result.final_result = .CANCEL := by
  by_cases stopped : (reached cancellable turns).any (Turn.stops cancellable) = true
  · exact (processed.ended stopped).cancelled
  · have fresh := processed.fresh (by simpa using stopped)
    simp [fresh.uncancelled, fresh.continues]

theorem gather_ruled (cancellable : Bool) {s : Dispatch ε} (fresh : s.Fresh) {tasks : List (Turn ε)} (clean : ∀ turn ∈ tasks, turn.Clean) :
    ((tasks.foldl (gathered cancellable) s).result.was_cancelled = true ↔ (tasks.foldl (gathered cancellable) s).result.final_result = .CANCEL) ↔
      Unoverruled cancellable tasks := by
  cases cancellable with
  | false =>
    obtain ⟨uncancelled, other⟩ := gather_uncancellable fresh clean
    refine iff_of_true (by simp [uncancelled, other]) ?_
    intro set
    cases set
  | true =>
    obtain ⟨cancelled, final⟩ := gather_cancellable fresh clean
    rw [cancelled, final]
    constructor
    · intro same set before stopping after split stops earlier
      obtain ⟨turn, member, cancels⟩ := earlier
      exact (same.mp ⟨turn, by simp [split, member], cancels⟩).2 set before stopping after split stops ⟨turn, member, cancels⟩
    · intro unoverruled
      exact ⟨fun some_cancels => ⟨some_cancels, unoverruled⟩, fun both => both.1⟩

end RevitPy.DispatchCounts
