import Mathlib.Data.List.Sort
import RevitPy.Dict

/-!
# Event dispatch

An event goes to the handlers of its type and to the global ones, the highest
priority first, until one of them stops or cancels it. The asynchronous dispatch
serves the synchronous handlers first and then all the asynchronous ones at once.
-/

namespace RevitPy

/-- Standard Revit event types. -/
inductive EventType
  | DOCUMENT_OPENED | DOCUMENT_CLOSED | DOCUMENT_SAVED | DOCUMENT_SYNCHRONIZED
  | ELEMENT_CREATED | ELEMENT_MODIFIED | ELEMENT_DELETED | ELEMENT_TYPE_CHANGED
  | TRANSACTION_STARTED | TRANSACTION_COMMITTED | TRANSACTION_ROLLED_BACK
  | PARAMETER_CHANGED | PARAMETER_ADDED | PARAMETER_REMOVED
  | VIEW_ACTIVATED | VIEW_DEACTIVATED | VIEW_CREATED
  | SELECTION_CHANGED
  | APPLICATION_INITIALIZED | APPLICATION_CLOSING
  | CUSTOM
  deriving DecidableEq

/-- Event handler priority levels. -/
inductive EventPriority
  | LOWEST | LOW | NORMAL | HIGH | HIGHEST

def EventPriority.value : EventPriority → Nat
  | .LOWEST => 0
  | .LOW => 25
  | .NORMAL => 50
  | .HIGH => 75
  | .HIGHEST => 100

/-- Event handling results. -/
inductive EventResult
  | CONTINUE | STOP | CANCEL
  deriving DecidableEq

/-- `payload` is everything else that an event carries and that a filter may read. -/
structure EventData (δ : Type) where
  event_type : EventType
  event_id : String
  cancellable : Bool
  cancelled : Bool
  payload : δ

def EventData.cancel {δ : Type} (event_data : EventData δ) : EventData δ :=
  if event_data.cancellable then { event_data with cancelled := true } else event_data

/-- A handler with a fixed result. It raises nothing, so that no error is counted. -/
structure BaseEventHandler (δ : Type) where
  priority : EventPriority
  enabled : Bool
  error_count : Nat
  max_errors : Int
  event_filter : Option (EventData δ → Bool)
  /-- `isinstance(h, AsyncEventHandler)` -/
  is_async : Bool
  result : EventResult

namespace BaseEventHandler
variable {δ : Type} (h : BaseEventHandler δ)

def is_enabled : Bool := h.enabled && !decide (h.max_errors ≤ h.error_count)

/-- Check if this handler should handle the event. -/
def should_handle (event_data : EventData δ) : Bool :=
  if !h.is_enabled then false
  else match h.event_filter with
    | some filter => filter event_data
    | none => true

/-- An asynchronous handler is run by `asyncio.run`, except in a thread whose event loop
    runs: there it becomes a task of its own and its result is not waited for. -/
def handle_event (running_loop : Bool) : EventResult :=
  if h.is_async && running_loop then .CONTINUE else h.result

def handle_event_safely (running_loop : Bool) (event_data : EventData δ) : EventResult :=
  if h.should_handle event_data then h.handle_event running_loop else .CONTINUE

def handle_event_safely_async (event_data : EventData δ) : EventResult :=
  if h.should_handle event_data then h.result else .CONTINUE

end BaseEventHandler

/-- Result of event dispatching. -/
structure EventDispatchResult where
  event_id : String
  handlers_executed : Nat := 0
  was_cancelled : Bool := false
  final_result : EventResult := .CONTINUE

/-- The handlers are objects `η`; `_event_filters` hold for every event. -/
structure EventDispatcher (η δ : Type) where
  object : η → BaseEventHandler δ
  _handlers : Dict EventType (List η)
  _global_handlers : List η
  _event_filters : List (EventData δ → Bool)

/-- A dispatch under way: the event, its result so far and the handlers that were executed. -/
structure Dispatch (η δ : Type) where
  event_data : EventData δ
  result : EventDispatchResult
  executed : List η

variable {η δ : Type}

/-- Nothing is executed yet. -/
def Dispatch.start (event_data : EventData δ) : Dispatch η δ where
  event_data := event_data
  result := { event_id := event_data.event_id }
  executed := []

/-- A handler answered. -/
def Dispatch.answered (s : Dispatch η δ) (h : η) (handler_result : EventResult) : Dispatch η δ :=
  let s : Dispatch η δ := { s with
    result := { s.result with handlers_executed := s.result.handlers_executed + 1 }
    executed := s.executed ++ [h] }
  if handler_result = .CANCEL ∧ s.event_data.cancellable = true then
    { s with
      event_data := s.event_data.cancel
      result := { s.result with was_cancelled := true, final_result := .CANCEL } }
  else if handler_result = .STOP then
    { s with result := { s.result with final_result := .STOP } }
  else s

namespace EventDispatcher
variable (self : EventDispatcher η δ)

def by_priority (handlers : List η) : List η :=
  handlers.insertionSort fun a b => (self.object b).priority.value ≤ (self.object a).priority.value

/-- Register an event handler for specific event types, or for all of them. -/
def register_handler (handler : η) : Option (List EventType) → EventDispatcher η δ
  | none => { self with _global_handlers := self.by_priority (self._global_handlers ++ [handler]) }
  | some event_types => { self with
      _handlers := event_types.foldl
        (fun handlers event_type => handlers.set event_type (self.by_priority (handlers.getD event_type [] ++ [handler])))
        self._handlers }

/-- Get all handlers that should process an event of the given type. -/
def get_handlers_for_event (event_type : EventType) : List η :=
  self.by_priority (self._handlers.getD event_type [] ++ self._global_handlers)

/-- The loop over handlers that are called one after the other. -/
def process_handlers (running_loop : Bool) : Dispatch η δ → List η → Dispatch η δ
  | s, [] => s
  | s, h :: rest =>
    if !(self.object h).should_handle s.event_data then process_handlers running_loop s rest
    else
      let handler_result := (self.object h).handle_event_safely running_loop s.event_data
      if (handler_result = .CANCEL ∧ s.event_data.cancellable = true) ∨ handler_result = .STOP then s.answered h handler_result
      else process_handlers running_loop (s.answered h handler_result) rest

def _process_event_immediate (running_loop : Bool) (event_data : EventData δ) : Dispatch η δ :=
  self.process_handlers running_loop (.start event_data) (self.get_handlers_for_event event_data.event_type)

/-- Synchronous handlers run in a thread of an executor, which has no event loop. `gather`
    answers in the order of the tasks, whatever the order in which they end. -/
def _process_event_async (event_data : EventData δ) : Dispatch η δ :=
  let handlers := self.get_handlers_for_event event_data.event_type
  let sync_handlers := handlers.filter fun h => !(self.object h).is_async
  let async_handlers := handlers.filter fun h => (self.object h).is_async
  let s := self.process_handlers false (.start event_data) sync_handlers
  if s.result.final_result = .CONTINUE then
    let async_tasks := async_handlers.filter fun h => (self.object h).should_handle s.event_data
    let async_results := async_tasks.map fun h => (h, (self.object h).handle_event_safely_async s.event_data)
    async_results.foldl (fun s answer => s.answered answer.1 answer.2) s
  else s

/-- Apply global filters. -/
def filters_pass (event_data : EventData δ) : Bool := self._event_filters.all fun filter_func => filter_func event_data

/-- `dispatch_event(event_data, immediate=True)` -/
def dispatch_event_immediate (running_loop : Bool) (event_data : EventData δ) : Dispatch η δ :=
  if self.filters_pass event_data then self._process_event_immediate running_loop event_data else .start event_data

def dispatch_event_async (event_data : EventData δ) : Dispatch η δ :=
  if self.filters_pass event_data then self._process_event_async event_data else .start event_data

/-! ## The order of the handlers -/

/-- Handlers stand in the order of their priorities, the highest first. -/
theorem get_handlers_for_event_sorted (event_type : EventType) :
    (self.get_handlers_for_event event_type).Pairwise fun a b => (self.object b).priority.value ≤ (self.object a).priority.value := by
  have total : Std.Total fun a b => (self.object b).priority.value ≤ (self.object a).priority.value := ⟨fun a b => le_total _ _⟩
  have transitive : IsTrans η fun a b => (self.object b).priority.value ≤ (self.object a).priority.value :=
    ⟨fun _ _ _ first second => le_trans second first⟩
  exact List.pairwise_insertionSort _ _

theorem mem_by_priority (handlers : List η) (h : η) : h ∈ self.by_priority handlers ↔ h ∈ handlers := List.mem_insertionSort _

theorem mem_get_handlers_for_event (event_type : EventType) (h : η) :
    h ∈ self.get_handlers_for_event event_type ↔ h ∈ self._handlers.getD event_type [] ∨ h ∈ self._global_handlers := by
  rw [get_handlers_for_event, mem_by_priority, List.mem_append]

/-- Registering a handler adds it to the events that it is registered for. -/
theorem mem_get_handlers_register_handler (handler : η) (event_types : Option (List EventType)) (event_type : EventType) (h : η) :
    h ∈ (self.register_handler handler event_types).get_handlers_for_event event_type ↔
      h ∈ self.get_handlers_for_event event_type ∨ h = handler ∧ ∀ listed, event_types = some listed → event_type ∈ listed := by
  cases event_types with
  | none =>
    simp [register_handler, mem_get_handlers_for_event, mem_by_priority, or_assoc]
  | some listed =>
    have added : ∀ (handlers : Dict EventType (List η)),
        h ∈ (listed.foldl (fun handlers event_type =>
          handlers.set event_type (self.by_priority (handlers.getD event_type [] ++ [handler]))) handlers).getD event_type [] ↔
        h ∈ handlers.getD event_type [] ∨ h = handler ∧ event_type ∈ listed := by
      induction listed with
      | nil => simp
      | cons first rest ih =>
        intro handlers
        rw [List.foldl_cons, ih]
        by_cases same : first = event_type
        · subst same
          simp [Dict.getD, Dict.get?_set_self, mem_by_priority]
          tauto
        · have other : ¬event_type = first := fun e => same e.symm
          simp [Dict.getD, Dict.get?_set_ne _ _ same, other]
    simp [register_handler, mem_get_handlers_for_event, added]
    tauto

end EventDispatcher
end RevitPy
