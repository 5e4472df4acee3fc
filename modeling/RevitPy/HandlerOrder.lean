import RevitPy.EventDispatch
import RevitPy.Runs
import RevitPy.StableSort

/-!
# The order of the handlers over whole runs

Handlers are registered, for some types of events or for all, and unregistered again,
and every registration sorts one list anew. The handlers of an event stand at every
time as one stable sort by priority puts what is registered for it: first what is
registered for its type and then what is registered for all, each in the order of
the registrations. A listener is a handler too, and it stays one when the listener
is removed.
-/

namespace RevitPy
open StableSort

variable {η γ δ : Type} [DecidableEq η] [DecidableEq γ]

namespace EventDispatcher
variable (self : EventDispatcher η δ)

/-- Unregister an event handler from specific event types, or from everything. -/
def unregister_handler (handler : η) : Option (List EventType) → EventDispatcher η δ
  | none => { self with
      _global_handlers := self._global_handlers.erase handler
      _handlers := self._handlers.keys.foldl
        (fun handlers event_type => handlers.set event_type ((handlers.getD event_type []).erase handler)) self._handlers }
  | some event_types => { self with
      _handlers := event_types.foldl
        (fun handlers event_type => handlers.set event_type ((handlers.getD event_type []).erase handler)) self._handlers }

end EventDispatcher

/-- The manager's dispatcher, and the callbacks that were added as listeners. -/
structure EventManager (η γ δ : Type) where
  _dispatcher : EventDispatcher η δ
  _event_listeners : Dict EventType (List γ) := ∅

/-- What a program calls. A listener is registered as the handler that is made of it. -/
inductive RegistrationCall (η γ : Type)
  | register_handler (handler : η) (event_types : Option (List EventType))
  | unregister_handler (handler : η) (event_types : Option (List EventType))
  | add_listener (event_type : EventType) (callback : γ) (handler : η)
  | remove_listener (event_type : EventType) (callback : γ)

namespace EventManager
variable (self : EventManager η γ δ)

/-- `handler` is the new handler that `register_function` makes of the callback. -/
def add_listener (event_type : EventType) (callback : γ) (handler : η) : EventManager η γ δ where
  _event_listeners := self._event_listeners.set event_type (self._event_listeners.getD event_type [] ++ [callback])
  _dispatcher := self._dispatcher.register_handler handler (some [event_type])

/-- The callback is taken off the listeners. Its handler is not unregistered. -/
def remove_listener (event_type : EventType) (callback : γ) : Bool × EventManager η γ δ :=
  let listeners := self._event_listeners.getD event_type []
  if callback ∈ listeners then (true, { self with _event_listeners := self._event_listeners.set event_type (listeners.erase callback) })
  else (false, self)

def call : RegistrationCall η γ → EventManager η γ δ
  | .register_handler handler event_types => { self with _dispatcher := self._dispatcher.register_handler handler event_types }
  | .unregister_handler handler event_types => { self with _dispatcher := self._dispatcher.unregister_handler handler event_types }
  | .add_listener event_type callback handler => self.add_listener event_type callback handler
  | .remove_listener event_type callback => (self.remove_listener event_type callback).2

end EventManager

/-! ## What is registered -/

/-- The registrations that stand, in the order in which they were made. -/
structure Registered (η γ : Type) where
  typed : EventType → List η := fun _ => []
  for_all : List η := []
  listeners : EventType → List γ := fun _ => []

namespace Registered
variable (r : Registered η γ)

/-- A call that lists a type twice registers and unregisters twice. A removed listener
    remains registered. -/
def after : RegistrationCall η γ → Registered η γ
  | .register_handler handler none => { r with for_all := r.for_all ++ [handler] }
  | .register_handler handler (some event_types) =>
    { r with typed := fun event_type => r.typed event_type ++ List.replicate (event_types.count event_type) handler }
  | .unregister_handler handler none =>
    { r with for_all := r.for_all.erase handler, typed := fun event_type => (r.typed event_type).erase handler }
  | .unregister_handler handler (some event_types) =>
    { r with typed := fun event_type => (fun handlers : List η => handlers.erase handler)^[event_types.count event_type] (r.typed event_type) }
  | .add_listener event_type callback handler =>
    { r with
      typed := fun listed => r.typed listed ++ if listed = event_type then [handler] else []
      listeners := fun listed => r.listeners listed ++ if listed = event_type then [callback] else [] }
  | .remove_listener event_type callback =>
    { r with listeners := fun listed => if listed = event_type then (r.listeners listed).erase callback else r.listeners listed }

end Registered

/-! ## Sorting by priority -/

namespace EventDispatcher
variable (self : EventDispatcher η δ)

/-- `a` may stand before `b`. -/
def precedes (object : η → BaseEventHandler δ) (a b : η) : Bool := decide ((object b).priority.value ≤ (object a).priority.value)

omit [DecidableEq η] in
theorem precedes_totalPreorder (object : η → BaseEventHandler δ) : TotalPreorder (precedes object) where
  trans _ _ _ := by simpa [precedes] using fun first second => le_trans second first
  total a b := by simpa [precedes] using le_total _ _

omit [DecidableEq η] in
theorem by_priority_stablySorts (handlers : List η) : StablySorts (precedes self.object) handlers (self.by_priority handlers) := by
  have total : Std.Total fun a b => (self.object b).priority.value ≤ (self.object a).priority.value := ⟨fun a b => le_total _ _⟩
  have transitive : IsTrans η fun a b => (self.object b).priority.value ≤ (self.object a).priority.value :=
    ⟨fun _ _ _ first second => le_trans second first⟩
  refine stablySorts_of_sublists (precedes_totalPreorder _) (List.perm_insertionSort _ _) ?_ fun part ordered inside => ?_
  · simpa [precedes, by_priority] using List.pairwise_insertionSort (fun a b => (self.object b).priority.value ≤ (self.object a).priority.value) handlers
  · exact List.sublist_insertionSort (by simpa [precedes] using ordered) inside

end EventDispatcher

/-- Each time that a key is listed, its list is replaced. -/
theorem Dict.getD_foldl_set {κ ν : Type} [DecidableEq κ] (replace : ν → ν) (default : ν) (listed : List κ) (d : Dict κ ν) (k : κ) :
    (listed.foldl (fun d k => d.set k (replace (d.getD k default))) d).getD k default = replace^[listed.count k] (d.getD k default) := by
  induction listed generalizing d with
  | nil => rfl
  | cons first rest ih =>
    rw [List.foldl_cons, ih]
    by_cases same : first = k
    · subst same
      rw [List.count_cons_self, Function.iterate_succ_apply]
      simp [Dict.getD]
    · rw [List.count_cons_of_ne same]
      simp [Dict.getD, Dict.get?_set_ne _ _ same]

/-- The lists of the dispatcher are the registrations, sorted. -/
structure EventManager.Ordered (object : η → BaseEventHandler δ) (m : EventManager η γ δ) (r : Registered η γ) : Prop where
  same_object : m._dispatcher.object = object
  typed : ∀ event_type, StablySorts (EventDispatcher.precedes object) (r.typed event_type) (m._dispatcher._handlers.getD event_type [])
  for_all : StablySorts (EventDispatcher.precedes object) r.for_all m._dispatcher._global_handlers
  listeners : ∀ event_type, m._event_listeners.getD event_type [] = r.listeners event_type

namespace EventDispatcher
variable {object : η → BaseEventHandler δ} {l handlers : List η}

omit [DecidableEq η] in
/-- A handler that is registered goes behind those of its priority. -/
theorem by_priority_concat (self : EventDispatcher η δ) (sorts : StablySorts (precedes self.object) l handlers) (handler : η) :
    StablySorts (precedes self.object) (l ++ [handler]) (self.by_priority (handlers ++ [handler])) :=
  sorts.append (.singleton _ handler) (self.by_priority_stablySorts _)

omit [DecidableEq η] in
theorem by_priority_concat_times (self : EventDispatcher η δ) (sorts : StablySorts (precedes self.object) l handlers) (handler : η) (times : Nat) :
    StablySorts (precedes self.object) (l ++ List.replicate times handler)
      ((fun handlers => self.by_priority (handlers ++ [handler]))^[times] handlers) := by
  induction times with
  | zero => simpa using sorts
  | succ times ih =>
    rw [List.replicate_succ', ← List.append_assoc, Function.iterate_succ_apply']
    exact self.by_priority_concat ih handler

theorem erase_times {le : η → η → Bool} (sorts : StablySorts le l handlers) (handler : η) (times : Nat) :
    StablySorts le ((fun handlers : List η => handlers.erase handler)^[times] l) ((fun handlers : List η => handlers.erase handler)^[times] handlers) := by
  induction times with
  | zero => exact sorts
  | succ times ih =>
    rw [Function.iterate_succ_apply', Function.iterate_succ_apply']
    exact ih.erase handler

/-- Unregistering from everything takes a handler off each list once. -/
theorem getD_unregister_all (self : EventDispatcher η δ) (handler : η) (event_type : EventType) :
    (self.unregister_handler handler none)._handlers.getD event_type [] = (self._handlers.getD event_type []).erase handler := by
  rw [unregister_handler]
  show (self._handlers.keys.foldl _ self._handlers).getD event_type [] = _
  rw [Dict.getD_foldl_set (fun handlers : List η => handlers.erase handler)]
  by_cases known : event_type ∈ self._handlers.keys
  · rw [List.count_eq_one_of_mem self._handlers.keys_nodup known, Function.iterate_one]
  · rw [List.count_eq_zero.mpr known, Function.iterate_zero, id]
    simp [Dict.getD, (Dict.get?_none_iff _ _).mpr known]

end EventDispatcher

namespace EventManager
variable {object : η → BaseEventHandler δ} {self : EventManager η γ δ} {r : Registered η γ}

theorem Ordered.call (ordered : self.Ordered object r) (call : RegistrationCall η γ) : (self.call call).Ordered object (r.after call) := by
  obtain ⟨rfl, typed, for_all, listeners⟩ := ordered
  cases call with
  | register_handler handler event_types =>
    cases event_types with
    | none => exact ⟨rfl, typed, self._dispatcher.by_priority_concat for_all handler, listeners⟩
    | some event_types =>
      refine ⟨rfl, fun event_type => ?_, for_all, listeners⟩
      show StablySorts _ _ (Dict.getD (event_types.foldl _ self._dispatcher._handlers) event_type [])
      rw [Dict.getD_foldl_set (fun handlers => self._dispatcher.by_priority (handlers ++ [handler]))]
      exact self._dispatcher.by_priority_concat_times (typed event_type) handler _
  | unregister_handler handler event_types =>
    cases event_types with
    | none =>
      refine ⟨rfl, fun event_type => ?_, for_all.erase handler, listeners⟩
      show StablySorts _ _ ((self._dispatcher.unregister_handler handler none)._handlers.getD event_type [])
      rw [EventDispatcher.getD_unregister_all]
      exact (typed event_type).erase handler
    | some event_types =>
      refine ⟨rfl, fun event_type => ?_, for_all, listeners⟩
      show StablySorts _ _ (Dict.getD (event_types.foldl _ self._dispatcher._handlers) event_type [])
      rw [Dict.getD_foldl_set (fun handlers : List η => handlers.erase handler)]
      exact EventDispatcher.erase_times (typed event_type) handler _
  | add_listener event_type callback handler =>
    refine ⟨rfl, fun listed => ?_, for_all, fun listed => ?_⟩
    · show StablySorts _ (r.typed listed ++ if listed = event_type then [handler] else []) (Dict.getD (Dict.set _ event_type _) listed [])
      by_cases same : listed = event_type
      · subst same
        simpa [Dict.getD] using self._dispatcher.by_priority_concat (typed listed) handler
      · simpa [Dict.getD, Dict.get?_set_ne _ _ (Ne.symm same), same] using typed listed
    · show Dict.getD (Dict.set _ event_type _) listed [] = r.listeners listed ++ if listed = event_type then [callback] else []
      by_cases same : listed = event_type
      · subst same
        simp [Dict.getD, ← listeners listed]
      · simpa [Dict.getD, Dict.get?_set_ne _ _ (Ne.symm same), same] using listeners listed
  | remove_listener event_type callback =>
    -- only the listeners are other than before
    have kept : ((self.call (.remove_listener event_type callback))._dispatcher) = self._dispatcher := by
      simp only [call, remove_listener]
      split <;> rfl
    refine ⟨congrArg EventDispatcher.object kept, fun listed => ?_, ?_, fun listed => ?_⟩
    · rw [kept]
      exact typed listed
    · rw [kept]
      exact for_all
    · show Dict.getD (self.remove_listener event_type callback).2._event_listeners listed [] =
        if listed = event_type then (r.listeners listed).erase callback else r.listeners listed
      unfold remove_listener
      simp only
      by_cases same : listed = event_type
      · subst same
        rw [if_pos rfl, ← listeners listed]
        by_cases member : callback ∈ self._event_listeners.getD listed []
        · rw [if_pos member]
          simp [Dict.getD]
        · rw [if_neg member, List.erase_of_not_mem member]
      · rw [if_neg same, ← listeners listed]
        split
        · simp [Dict.getD, Dict.get?_set_ne _ _ (Ne.symm same)]
        · rfl

/-- A manager with nothing registered. -/
def new (object : η → BaseEventHandler δ) (filters : List (EventData δ → Bool)) : EventManager η γ δ where
  _dispatcher := { object, _handlers := ∅, _global_handlers := [], _event_filters := filters }

omit [DecidableEq η] [DecidableEq γ] in
theorem ordered_new (object : η → BaseEventHandler δ) (filters : List (EventData δ → Bool)) :
    (new object filters : EventManager η γ δ).Ordered object {} :=
  ⟨rfl, fun _ => .nil _, .nil _, fun _ => rfl⟩

theorem Ordered.run (ordered : self.Ordered object r) (calls : List (RegistrationCall η γ)) :
    (calls.foldl EventManager.call self).Ordered object (calls.foldl Registered.after r) := by
  induction calls generalizing self r with
  | nil => exact ordered
  | cons call rest ih => exact ih (ordered.call call)

/-- After every run, the handlers of a type of events are what is registered for it, sorted
    by priority and otherwise in the order of registration: a handler is there for every time
    that it was registered and not unregistered, whether or not it was a listener's and the
    listener is removed. Removing a listener succeeds when its callback is still listed. -/
theorem handlers_in_order (object : η → BaseEventHandler δ) (filters : List (EventData δ → Bool)) (calls : List (RegistrationCall η γ))
    (event_type : EventType) :
    let self : EventManager η γ δ := calls.foldl EventManager.call (new object filters)
    let r : Registered η γ := calls.foldl Registered.after {}
    StablySorts (EventDispatcher.precedes object) (r.typed event_type ++ r.for_all) (self._dispatcher.get_handlers_for_event event_type) ∧
      ∀ callback, (self.remove_listener event_type callback).1 = true ↔ callback ∈ r.listeners event_type := by
  have ordered := (ordered_new object filters).run calls
  refine ⟨?_, fun callback => ?_⟩
  · have sorts := EventDispatcher.by_priority_stablySorts (calls.foldl EventManager.call (new object filters))._dispatcher
    rw [ordered.same_object] at sorts
    exact (ordered.typed event_type).append ordered.for_all (sorts _)
  · rw [← ordered.listeners event_type, remove_listener]
    by_cases member : callback ∈ Dict.getD (calls.foldl EventManager.call (new object filters))._event_listeners event_type [] <;> simp [member]

end EventManager
end RevitPy
