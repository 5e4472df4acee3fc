import Mathlib.Data.List.Basic

/-!
# The event queue

Queued events are taken from the queue in batches by a background thread, which looks
at the shutdown flag before each event. Threads that dispatch, stop and clear come in
between at any moment.
-/

namespace RevitPy

/-- An accepted event, with its number in the order of acceptance. -/
structure QueuedEvent (ε : Type) where
  number : Nat
  event_data : ε

/-- Where a processing thread stands in `_process_events_loop`. -/
inductive LoopPhase (ε : Type)
  /-- Before the condition of the `while` loop. -/
  | checking
  /-- Past the condition, before the queue is read. -/
  | fetching
  /-- In the loop over a batch; what is left of it. -/
  | processing (batch : List (QueuedEvent ε))
  | stopped

def LoopPhase.batch {ε : Type} : LoopPhase ε → List (QueuedEvent ε)
  | .processing batch => batch
  | _ => []

/-- The queue and the threads that use it. The numbers of the events that left the queue
    are recorded by the way in which they left. -/
structure EventQueue (ε : Type) where
  max_queue_size : Nat
  batch_size : Int
  _event_queue : List (QueuedEvent ε) := []
  _is_processing : Bool := false
  _shutdown_event : Bool := false
  /-- The processing threads, in the order in which they were started. -/
  threads : List (LoopPhase ε) := []
  /-- Calls of `dispatch_event` that have queued their event. -/
  dispatching : Nat := 0
  /-- Those of them that found no processing under way. -/
  starting : Nat := 0
  /-- Calls of `stop_processing` that wait for the thread. -/
  stopping : Nat := 0
  accepted : Nat := 0
  overflowed : List Nat := []
  cleared : List Nat := []
  processed : List Nat := []

/-- The next step of one of the threads. -/
inductive QueueStep (ε : Type)
  /-- `_queue_event` under the lock. -/
  | dispatch_event (event_data : ε)
  /-- A dispatching call reads `_is_processing`. -/
  | notice
  /-- It starts a thread. -/
  | _start_processing
  /-- A processing thread goes on. -/
  | loop (thread : Nat)
  | stop_processing
  /-- The thread has ended, or the timeout has. -/
  | joined
  | clear_queue

variable {ε : Type}

namespace EventQueue

/-- A dispatcher as it is constructed. -/
def init (max_queue_size : Nat) (batch_size : Int) : EventQueue ε where
  max_queue_size := max_queue_size
  batch_size := batch_size

variable (q : EventQueue ε)

/-- Queue an event for processing; a full queue drops its oldest event. -/
def _queue_event (event_data : ε) : EventQueue ε :=
  let event : QueuedEvent ε := ⟨q.accepted, event_data⟩
  let q := { q with accepted := q.accepted + 1, dispatching := q.dispatching + 1 }
  if q.max_queue_size ≤ q._event_queue.length then
    { q with
      _event_queue := q._event_queue.drop 1 ++ [event]
      overflowed := q.overflowed ++ (q._event_queue.take 1).map QueuedEvent.number }
  else { q with _event_queue := q._event_queue ++ [event] }

def _start_processing : EventQueue ε :=
  { q with _is_processing := true, _shutdown_event := false, threads := q.threads ++ [.checking] }

/-- `min(self.batch_size, len(self._event_queue))`, as the length of a range. -/
def batch_length : Nat := (min q.batch_size q._event_queue.length).toNat

/-- One step of a thread in `_process_events_loop`. -/
def _process_events_loop (thread : Nat) : EventQueue ε := match q.threads[thread]? with
  | some .checking =>
    if q._is_processing && !q._shutdown_event then { q with threads := q.threads.set thread .fetching }
    else { q with threads := q.threads.set thread .stopped, _is_processing := false }
  | some .fetching => match q._event_queue.take q.batch_length with
    | [] => { q with threads := q.threads.set thread .checking }
    | batch => { q with
        _event_queue := q._event_queue.drop q.batch_length
        threads := q.threads.set thread (.processing batch) }
  | some (.processing []) => { q with threads := q.threads.set thread .checking }
  | some (.processing (event :: rest)) =>
    if q._shutdown_event then { q with threads := q.threads.set thread .checking }
    else { q with threads := q.threads.set thread (.processing rest), processed := q.processed ++ [event.number] }
  | some .stopped | none => q

def stop_processing : EventQueue ε :=
  if q._is_processing then { q with _shutdown_event := true, stopping := q.stopping + 1 } else q

def clear_queue : EventQueue ε :=
  { q with _event_queue := [], cleared := q.cleared ++ q._event_queue.map QueuedEvent.number }

def step : QueueStep ε → EventQueue ε
  | .dispatch_event event_data => q._queue_event event_data
  | .notice =>
    if q.dispatching = 0 then q
    else if q._is_processing then { q with dispatching := q.dispatching - 1 }
    else { q with dispatching := q.dispatching - 1, starting := q.starting + 1 }
  | ._start_processing => if q.starting = 0 then q else { q with starting := q.starting - 1 }._start_processing
  | .loop thread => q._process_events_loop thread
  | .stop_processing => q.stop_processing
  | .joined => if q.stopping = 0 then q else { q with stopping := q.stopping - 1, _is_processing := false }
  | .clear_queue => q.clear_queue

/-- The events that the threads have taken and not yet processed. -/
def held : List (QueuedEvent ε) := q.threads.flatMap LoopPhase.batch

/-- In how many places an event is. -/
def places (number : Nat) : Nat :=
  (q._event_queue.map QueuedEvent.number).count number + (q.held.map QueuedEvent.number).count number +
    q.overflowed.count number + q.cleared.count number + q.processed.count number

end EventQueue
end RevitPy
