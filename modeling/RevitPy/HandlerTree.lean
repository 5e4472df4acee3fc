import Mathlib.Data.List.Chain
import RevitPy.EventDispatch

/-!
# Handlers of handlers

A handler can combine others: a composite calls several, a conditional one adds a
condition and a throttled one a pause between two executions. Each of them counts the
exceptions that reach it and no longer takes part when they are too many. Callbacks may
raise and may change the event; filters and conditions may raise too. No handler stands
in a tree twice, and a callback does not dispatch to the handlers above it.
-/

namespace RevitPy.HandlerTree

/-! ## Filters -/

/-- The filters that read one property of an event are `CustomFilter`s: `none` is an exception. -/
inductive EventFilter (δ : Type)
  | EventTypeFilter (event_types : List EventType)
  | CancellableFilter (cancellable : Bool)
  | CustomFilter (predicate : EventData δ → Option Bool)
  | AndFilter (filters : List (EventFilter δ))
  | OrFilter (filters : List (EventFilter δ))
  | NotFilter (filter_to_invert : EventFilter δ)

namespace EventFilter
variable {δ : Type}

mutual

/-- `matches`, where `all` and `any` stop at the first filter that decides. -/
def is_match (event_data : EventData δ) : EventFilter δ → Option Bool
  | .EventTypeFilter event_types => some (decide (event_data.event_type ∈ event_types))
  | .CancellableFilter cancellable => some (event_data.cancellable == cancellable)
  | .CustomFilter predicate => predicate event_data
  | .AndFilter filters => all_match event_data filters
  | .OrFilter filters => any_match event_data filters
  | .NotFilter filter_to_invert => (is_match event_data filter_to_invert).map not

def all_match (event_data : EventData δ) : List (EventFilter δ) → Option Bool
  | [] => some true
  | f :: rest => match is_match event_data f with
    | some true => all_match event_data rest
    | answer => answer

def any_match (event_data : EventData δ) : List (EventFilter δ) → Option Bool
  | [] => some false
  | f :: rest => match is_match event_data f with
    | some false => any_match event_data rest
    | answer => answer

end

end EventFilter

/-! ## Handlers -/

structure HandlerMetadata where
  enabled : Bool := true
  error_count : Nat := 0
  max_errors : Int := 10
  execution_count : Nat := 0

namespace HandlerMetadata
variable (m : HandlerMetadata)

def is_disabled_due_to_errors : Bool := decide (m.max_errors ≤ m.error_count)
def is_enabled : Bool := m.enabled && !m.is_disabled_due_to_errors

end HandlerMetadata

/-- `executed` are the times of all executions, the latest first. Nothing reads them. -/
structure Throttle where
  min_interval : Int
  last_execution_time : Int := 0
  executed : List Int := []

/-- Callbacks are known by `ι`. The handlers of a composite stand in the order of their
    priorities. -/
inductive EventHandler (ι δ : Type)
  | Callable (metadata : HandlerMetadata) (event_filter : Option (EventFilter δ)) (callback : ι)
  | Composite (metadata : HandlerMetadata) (event_filter : Option (EventFilter δ)) (handlers : List (EventHandler ι δ))
      (stop_on_first_result : Bool)
  | Conditional (metadata : HandlerMetadata) (event_filter : Option (EventFilter δ)) (handler : EventHandler ι δ)
      (condition : EventData δ → Option Bool)
  | Throttled (metadata : HandlerMetadata) (event_filter : Option (EventFilter δ)) (handler : EventHandler ι δ) (throttle : Throttle)

/-- What a callback does: it raises, or its result is an `EventResult`, `False` or another. -/
inductive Answer
  | raises
  | result (r : EventResult)
  | is_false
  | other

def Answer.outcome : Answer → Option EventResult
  | .raises => none
  | .result r => some r
  | .is_false => some .STOP
  | .other => some .CONTINUE

/-- `time.perf_counter()`: its readings do not go back. -/
structure PerfCounter where
  reading : Nat → Int
  monotone : ∀ ⦃i j⦄, i ≤ j → reading i ≤ reading j

/-- What an execution leaves. No outcome is an exception; `tick` counts the readings of the clock. -/
structure Handled (ι δ : Type) where
  outcome : Option EventResult
  handler : EventHandler ι δ
  event_data : EventData δ
  tick : Nat

/-- What the loop over the handlers of a composite leaves. -/
structure Delegated (ι δ : Type) where
  outcome : Option EventResult
  handlers : List (EventHandler ι δ)
  event_data : EventData δ
  tick : Nat

namespace EventHandler
variable {ι δ : Type}

def metadata : EventHandler ι δ → HandlerMetadata
  | .Callable m _ _ => m
  | .Composite m _ _ _ => m
  | .Conditional m _ _ _ => m
  | .Throttled m _ _ _ => m

def with_metadata (m : HandlerMetadata) : EventHandler ι δ → EventHandler ι δ
  | .Callable _ event_filter callback => .Callable m event_filter callback
  | .Composite _ event_filter handlers stop_on_first_result => .Composite m event_filter handlers stop_on_first_result
  | .Conditional _ event_filter handler condition => .Conditional m event_filter handler condition
  | .Throttled _ event_filter handler throttle => .Throttled m event_filter handler throttle

/-- `BaseEventHandler.should_handle` -/
def base_should_handle (m : HandlerMetadata) (event_filter : Option (EventFilter δ)) (event_data : EventData δ) : Option Bool :=
  if !m.is_enabled then some false
  else match event_filter with
    | none => some true
    | some event_filter => event_filter.is_match event_data

/-- Check if a handler should handle an event. -/
def should_handle (clock : PerfCounter) (event_data : EventData δ) : EventHandler ι δ → Nat → Option Bool × Nat
  | .Callable m event_filter _, tick => (base_should_handle m event_filter event_data, tick)
  | .Composite m event_filter _ _, tick => (base_should_handle m event_filter event_data, tick)
  | .Conditional m event_filter handler condition, tick => match base_should_handle m event_filter event_data with
    | some true => match should_handle clock event_data handler tick with
      | (some true, tick) => (condition event_data, tick)
      | answer => answer
    | answer => (answer, tick)
  | .Throttled m event_filter handler throttle, tick =>
    if clock.reading tick - throttle.last_execution_time < throttle.min_interval then (some false, tick + 1)
    else match base_should_handle m event_filter event_data with
      | some true => should_handle clock event_data handler (tick + 1)
      | answer => (answer, tick + 1)

/-- The metrics after an execution. An exception ends here. -/
def counted (r : Handled ι δ) : Handled ι δ :=
  let m := r.handler.metadata
  match r.outcome with
  | some result => { r with outcome := some result, handler := r.handler.with_metadata { m with execution_count := m.execution_count + 1 } }
  | none => { r with outcome := some .CONTINUE, handler := r.handler.with_metadata { m with error_count := m.error_count + 1 } }

/-- `handle_event_safely`, given what `handle_event` does. -/
def safely (clock : PerfCounter) (h : EventHandler ι δ) (event_data : EventData δ) (tick : Nat) (handle : Nat → Handled ι δ) : Handled ι δ :=
  match h.should_handle clock event_data tick with
  | (none, tick) => ⟨none, h, event_data, tick⟩
  | (some false, tick) => ⟨some .CONTINUE, h, event_data, tick⟩
  | (some true, tick) => counted (handle tick)

variable (clock : PerfCounter) (callbacks : ι → EventData δ → Answer × EventData δ)

mutual

def handle_event : EventHandler ι δ → EventData δ → Nat → Handled ι δ
  | .Callable m event_filter callback, event_data, tick =>
    let answer := callbacks callback event_data
    ⟨answer.1.outcome, .Callable m event_filter callback, answer.2, tick⟩
  | .Composite m event_filter handlers stop_on_first_result, event_data, tick =>
    let r := delegate stop_on_first_result handlers event_data tick
    ⟨r.outcome, .Composite m event_filter r.handlers stop_on_first_result, r.event_data, r.tick⟩
  | .Conditional m event_filter handler condition, event_data, tick =>
    let r := safely clock handler event_data tick (handle_event handler event_data)
    ⟨r.outcome, .Conditional m event_filter r.handler condition, r.event_data, r.tick⟩
  | .Throttled m event_filter handler throttle, event_data, tick =>
    let now := clock.reading tick
    let throttle := { throttle with last_execution_time := now, executed := now :: throttle.executed }
    let r := safely clock handler event_data (tick + 1) (handle_event handler event_data)
    ⟨r.outcome, .Throttled m event_filter r.handler throttle, r.event_data, r.tick⟩

/-- The loop over the handlers of a composite. -/
def delegate (stop_on_first_result : Bool) : List (EventHandler ι δ) → EventData δ → Nat → Delegated ι δ
  | [], event_data, tick => ⟨some .CONTINUE, [], event_data, tick⟩
  | handler :: rest, event_data, tick => match handler.should_handle clock event_data tick with
    | (none, tick) => ⟨none, handler :: rest, event_data, tick⟩
    | (some false, tick) =>
      let later := delegate stop_on_first_result rest event_data tick
      { later with handlers := handler :: later.handlers }
    | (some true, tick) =>
      let r := safely clock handler event_data tick (handle_event handler event_data)
      match r.outcome with
      | none => ⟨none, r.handler :: rest, r.event_data, r.tick⟩
      | some result =>
        if result = .CANCEL ∧ r.event_data.cancellable = true then ⟨some .CANCEL, r.handler :: rest, r.event_data.cancel, r.tick⟩
        else if result = .STOP ∨ stop_on_first_result = true then ⟨some result, r.handler :: rest, r.event_data, r.tick⟩
        else
          let later := delegate stop_on_first_result rest r.event_data r.tick
          { later with handlers := r.handler :: later.handlers }

end

def handle_event_safely (h : EventHandler ι δ) (event_data : EventData δ) (tick : Nat) : Handled ι δ :=
  safely clock h event_data tick (handle_event clock callbacks h event_data)

end EventHandler

/-! ## Runs -/

inductive Maintenance
  | enable
  | disable
  | reset_error_count

def HandlerMetadata.maintained (m : HandlerMetadata) : Maintenance → HandlerMetadata
  | .enable => { m with enabled := true }
  | .disable => { m with enabled := false }
  | .reset_error_count => { m with error_count := 0 }

/-- Maintenance of the handler that a path of positions leads to. -/
def EventHandler.maintain {ι δ : Type} (change : Maintenance) : List Nat → EventHandler ι δ → EventHandler ι δ
  | [], h => h.with_metadata (h.metadata.maintained change)
  | _ :: _, .Callable m event_filter callback => .Callable m event_filter callback
  | i :: path, .Composite m event_filter handlers stop_on_first_result =>
    .Composite m event_filter (handlers.modify i (maintain change path)) stop_on_first_result
  | _ :: path, .Conditional m event_filter handler condition => .Conditional m event_filter (handler.maintain change path) condition
  | _ :: path, .Throttled m event_filter handler throttle => .Throttled m event_filter (handler.maintain change path) throttle

/-- An event, with what the callbacks do with it, or a call to a handler of the tree. -/
inductive Input (ι δ : Type)
  | event (callbacks : ι → EventData δ → Answer × EventData δ) (event_data : EventData δ)
  | maintain (path : List Nat) (change : Maintenance)

structure State (ι δ : Type) where
  handler : EventHandler ι δ
  tick : Nat := 0
  outcomes : List (Option EventResult) := []

def State.after {ι δ : Type} (clock : PerfCounter) (s : State ι δ) : Input ι δ → State ι δ
  | .event callbacks event_data =>
    let r := s.handler.handle_event_safely clock callbacks event_data s.tick
    ⟨r.handler, r.tick, s.outcomes ++ [r.outcome]⟩
  | .maintain path change => { s with handler := s.handler.maintain change path }

/-! ## What holds of every handler of a tree -/

inductive Kind (δ : Type)
  | callable
  | composite
  | conditional (condition : EventData δ → Option Bool)
  | throttled (throttle : Throttle)

/-- A handler without the handlers below it. -/
structure Label (δ : Type) where
  metadata : HandlerMetadata
  event_filter : Option (EventFilter δ)
  kind : Kind δ

namespace EventHandler
variable {ι δ : Type}

mutual

def Every (P : Label δ → Prop) : EventHandler ι δ → Prop
  | .Callable m event_filter _ => P ⟨m, event_filter, .callable⟩
  | .Composite m event_filter handlers _ => P ⟨m, event_filter, .composite⟩ ∧ EveryOf P handlers
  | .Conditional m event_filter handler condition => P ⟨m, event_filter, .conditional condition⟩ ∧ Every P handler
  | .Throttled m event_filter handler throttle => P ⟨m, event_filter, .throttled throttle⟩ ∧ Every P handler

def EveryOf (P : Label δ → Prop) : List (EventHandler ι δ) → Prop
  | [] => True
  | h :: rest => Every P h ∧ EveryOf P rest

end

variable {P : Label δ → Prop}

theorem everyOf_iff (handlers : List (EventHandler ι δ)) : EveryOf P handlers ↔ ∀ h ∈ handlers, h.Every P := by
  induction handlers with
  | nil => simp [EveryOf]
  | cons h rest ih => simp [EveryOf, ih]

@[simp] theorem metadata_with_metadata (h : EventHandler ι δ) (m : HandlerMetadata) : (h.with_metadata m).metadata = m := by
  cases h <;> rfl

/-- The handler at the root may get other metadata. -/
theorem Every.with_metadata {h : EventHandler ι δ} {m : HandlerMetadata} (every : h.Every P)
    (root : ∀ event_filter kind, P ⟨h.metadata, event_filter, kind⟩ → P ⟨m, event_filter, kind⟩) : (h.with_metadata m).Every P := by
  cases h with
  | Callable _ event_filter _ => exact root event_filter _ every
  | Composite _ event_filter _ _ => exact ⟨root event_filter _ every.1, every.2⟩
  | Conditional _ event_filter _ _ => exact ⟨root event_filter _ every.1, every.2⟩
  | Throttled _ event_filter _ _ => exact ⟨root event_filter _ every.1, every.2⟩

/-- What no maintenance breaks holds of the whole tree after it. -/
theorem Every.maintain (keeps : ∀ m event_filter kind change, P ⟨m, event_filter, kind⟩ → P ⟨m.maintained change, event_filter, kind⟩)
    (change : Maintenance) (path : List Nat) {h : EventHandler ι δ} (every : h.Every P) : (h.maintain change path).Every P := by
  induction path generalizing h with
  | nil => simpa only [EventHandler.maintain] using every.with_metadata fun _ _ root => keeps _ _ _ change root
  | cons i path ih =>
    cases h with
    | Callable _ _ _ => exact every
    | Composite _ _ handlers _ =>
      refine ⟨every.1, (everyOf_iff _).mpr fun h member => ?_⟩
      obtain ⟨j, at_j⟩ := List.mem_iff_getElem?.mp member
      rw [List.getElem?_modify] at at_j
      obtain ⟨before, found, rfl⟩ := Option.map_eq_some_iff.mp at_j
      have kept : before.Every P := (everyOf_iff _).mp every.2 before (List.mem_of_getElem? found)
      split
      · exact ih kept
      · exact kept
    | Conditional _ _ handler _ => exact ⟨every.1, ih every.2⟩
    | Throttled _ _ handler _ => exact ⟨every.1, ih every.2⟩

end EventHandler

/-! ## Few errors, and pauses -/

/-- Two executions that follow each other are a pause apart, and the latest is on record. -/
structure Throttle.Paced (throttle : Throttle) : Prop where
  apart : throttle.executed.IsChain fun later earlier => throttle.min_interval ≤ later - earlier
  latest : ∀ time ∈ throttle.executed.head?, time = throttle.last_execution_time

structure Kept {δ : Type} (l : Label δ) : Prop where
  few_errors : (l.metadata.error_count : Int) ≤ max l.metadata.max_errors 0
  paced : ∀ throttle, l.kind = .throttled throttle → throttle.Paced

theorem Throttle.Paced.execute {throttle : Throttle} (paced : throttle.Paced) {now : Int}
    (ready : throttle.min_interval ≤ now - throttle.last_execution_time) :
    Throttle.Paced { throttle with last_execution_time := now, executed := now :: throttle.executed } where
  apart := by
    refine List.isChain_cons.mpr ⟨fun time head => ?_, paced.apart⟩
    rw [paced.latest time head]
    exact ready
  latest time head := by simpa using head.symm

namespace EventHandler
variable {ι δ : Type} {clock : PerfCounter} {callbacks : ι → EventData δ → Answer × EventData δ}

/-- The pause of a throttled handler is over. -/
def Ready (clock : PerfCounter) (tick : Nat) : EventHandler ι δ → Prop
  | .Throttled _ _ _ throttle => throttle.min_interval ≤ clock.reading tick - throttle.last_execution_time
  | _ => True

theorem le_should_handle (clock : PerfCounter) (event_data : EventData δ) (h : EventHandler ι δ) (tick : Nat) :
    tick ≤ (h.should_handle clock event_data tick).2 := by
  fun_induction should_handle clock event_data h tick <;> simp_all; omega

theorem base_should_handle_enabled {m : HandlerMetadata} {event_filter : Option (EventFilter δ)} {event_data : EventData δ}
    (should : base_should_handle m event_filter event_data = some true) : m.is_enabled = true := by
  unfold base_should_handle at should
  split at should <;> simp_all

/-- A handler that should handle an event is enabled, and it is ready. -/
theorem should_handle_spec {h : EventHandler ι δ} {event_data : EventData δ} {tick tick' : Nat}
    (should : h.should_handle clock event_data tick = (some true, tick')) : h.metadata.is_enabled = true ∧ h.Ready clock tick := by
  cases h with
  | Callable m event_filter callback => exact ⟨base_should_handle_enabled (congrArg Prod.fst should), trivial⟩
  | Composite m event_filter handlers stop => exact ⟨base_should_handle_enabled (congrArg Prod.fst should), trivial⟩
  | Conditional m event_filter handler condition =>
    unfold should_handle at should
    split at should
    · exact ⟨base_should_handle_enabled ‹_›, trivial⟩
    · rename_i not_base
      exact absurd (congrArg Prod.fst should) not_base
  | Throttled m event_filter handler throttle =>
    unfold should_handle at should
    split at should
    · cases should
    · rename_i waited
      split at should
      · exact ⟨base_should_handle_enabled ‹_›, Int.not_lt.mp waited⟩
      · rename_i not_base
        exact absurd (congrArg Prod.fst should) not_base

theorem not_many_errors {m : HandlerMetadata} (enabled : m.is_enabled = true) : (m.error_count : Int) < m.max_errors := by
  simpa [HandlerMetadata.is_enabled, HandlerMetadata.is_disabled_due_to_errors] using (Bool.and_eq_true_iff.mp enabled).2

/-- What `handle_event` keeps, where `counted` counts once more. -/
theorem counted_kept {r : Handled ι δ} (kept : r.handler.Every Kept) (enabled : r.handler.metadata.is_enabled = true) :
    (counted r).handler.Every Kept := by
  have few := not_many_errors enabled
  unfold counted
  simp only
  split
  · exact kept.with_metadata fun _ _ root => ⟨root.few_errors, root.paced⟩
  · refine kept.with_metadata fun _ _ root => ⟨?_, root.paced⟩
    show ((r.handler.metadata.error_count + 1 : Nat) : Int) ≤ max r.handler.metadata.max_errors 0
    omega

theorem tick_counted (r : Handled ι δ) : (counted r).tick = r.tick := by
  unfold counted
  simp only
  split <;> rfl

/-- What a call of `handle_event` at a handler that is ready is to keep. -/
structure Keeps (clock : PerfCounter) (h : EventHandler ι δ) (tick : Nat) (r : Handled ι δ) : Prop where
  kept : r.handler.Every Kept
  metadata : r.handler.metadata = h.metadata
  tick : tick ≤ r.tick

theorem safely_kept {h : EventHandler ι δ} (kept : h.Every Kept) (event_data : EventData δ) (tick : Nat) {handle : Nat → Handled ι δ}
    (handles : ∀ tick', tick ≤ tick' → h.Ready clock tick' → h.Keeps clock tick' (handle tick')) :
    (safely clock h event_data tick handle).handler.Every Kept ∧ tick ≤ (safely clock h event_data tick handle).tick := by
  have later := le_should_handle clock event_data h tick
  unfold safely
  split
  · rename_i tick' should
    exact ⟨kept, by simpa [should] using later⟩
  · rename_i tick' should
    exact ⟨kept, by simpa [should] using later⟩
  · rename_i tick' should
    have before : tick ≤ tick' := by simpa [should] using later
    obtain ⟨enabled, ready⟩ := should_handle_spec should
    -- the clock does not go back between the check and the execution
    have ready : h.Ready clock tick' := by
      cases h with
      | Throttled _ _ _ throttle => exact le_trans ready (Int.sub_le_sub_right (clock.monotone before) _)
      | _ => trivial
    have keeps := handles tick' before ready
    exact ⟨counted_kept keeps.kept (by rw [keeps.metadata]; exact enabled), le_trans before (by rw [tick_counted]; exact keeps.tick)⟩

mutual

theorem handle_event_kept (h : EventHandler ι δ) (kept : h.Every Kept) (event_data : EventData δ) (tick : Nat) (ready : h.Ready clock tick) :
    h.Keeps clock tick (handle_event clock callbacks h event_data tick) := by
  match h with
  | .Callable m event_filter callback => exact ⟨kept, rfl, le_refl tick⟩
  | .Composite m event_filter handlers stop =>
    have delegated := delegate_kept handlers kept.2 stop event_data tick
    exact ⟨⟨kept.1, delegated.1⟩, rfl, delegated.2⟩
  | .Conditional m event_filter handler condition =>
    have child := safely_kept kept.2 event_data tick fun tick' _ ready => handle_event_kept handler kept.2 event_data tick' ready
    exact ⟨⟨⟨kept.1.few_errors, kept.1.paced⟩, child.1⟩, rfl, child.2⟩
  | .Throttled m event_filter handler throttle =>
    have child := safely_kept kept.2 event_data (tick + 1) fun tick' _ ready => handle_event_kept handler kept.2 event_data tick' ready
    refine ⟨⟨⟨kept.1.few_errors, ?_⟩, child.1⟩, rfl, Nat.le_of_succ_le child.2⟩
    intro _ same
    cases same
    exact (kept.1.paced throttle rfl).execute ready

theorem delegate_kept (handlers : List (EventHandler ι δ)) (kept : EveryOf Kept handlers) (stop : Bool) (event_data : EventData δ) (tick : Nat) :
    EveryOf Kept (delegate clock callbacks stop handlers event_data tick).handlers ∧
      tick ≤ (delegate clock callbacks stop handlers event_data tick).tick := by
  match handlers with
  | [] => exact ⟨trivial, le_refl tick⟩
  | handler :: rest =>
    have later := le_should_handle clock event_data handler tick
    unfold delegate
    split
    · rename_i tick' should
      exact ⟨kept, by simpa [should] using later⟩
    · rename_i tick' should
      have others := delegate_kept rest kept.2 stop event_data tick'
      exact ⟨⟨kept.1, others.1⟩, le_trans (by simpa [should] using later) others.2⟩
    · rename_i tick' should
      have child := safely_kept kept.1 event_data tick' fun tick' _ ready =>
        handle_event_kept handler kept.1 event_data tick' ready
      have before : tick ≤ tick' := by simpa [should] using later
      simp only
      split
      · exact ⟨⟨child.1, kept.2⟩, le_trans before child.2⟩
      · split
        · exact ⟨⟨child.1, kept.2⟩, le_trans before child.2⟩
        · split
          · exact ⟨⟨child.1, kept.2⟩, le_trans before child.2⟩
          · have others := delegate_kept rest kept.2 stop
              (safely clock handler event_data tick' (handle_event clock callbacks handler event_data)).event_data
              (safely clock handler event_data tick' (handle_event clock callbacks handler event_data)).tick
            exact ⟨⟨child.1, others.1⟩, le_trans before (le_trans child.2 others.2)⟩

end

theorem handle_event_safely_kept {h : EventHandler ι δ} (kept : h.Every Kept) (event_data : EventData δ) (tick : Nat) :
    (h.handle_event_safely clock callbacks event_data tick).handler.Every Kept :=
  (safely_kept kept event_data tick fun tick' _ ready => handle_event_kept h kept event_data tick' ready).1

end EventHandler

theorem Kept.maintained {δ : Type} {m : HandlerMetadata} {event_filter : Option (EventFilter δ)} {kind : Kind δ} (kept : Kept ⟨m, event_filter, kind⟩)
    (change : Maintenance) : Kept ⟨m.maintained change, event_filter, kind⟩ := by
  obtain ⟨few_errors, paced⟩ := kept
  refine ⟨?_, paced⟩
  cases change with
  | enable => exact few_errors
  | disable => exact few_errors
  | reset_error_count => exact le_max_right _ _

section
variable {ι δ : Type}

/-- No error is counted yet, and nothing was executed. -/
def Fresh (l : Label δ) : Prop := l.metadata.error_count = 0 ∧ ∀ throttle, l.kind = .throttled throttle → throttle.executed = []

mutual

theorem EventHandler.Every.mono {P Q : Label δ → Prop} (weaker : ∀ l, P l → Q l) {h : EventHandler ι δ} (every : h.Every P) : h.Every Q := by
  match h with
  | .Callable _ _ _ => exact weaker _ every
  | .Composite _ _ _ _ => exact ⟨weaker _ every.1, EventHandler.EveryOf.mono weaker every.2⟩
  | .Conditional _ _ _ _ => exact ⟨weaker _ every.1, EventHandler.Every.mono weaker every.2⟩
  | .Throttled _ _ _ _ => exact ⟨weaker _ every.1, EventHandler.Every.mono weaker every.2⟩

theorem EventHandler.EveryOf.mono {P Q : Label δ → Prop} (weaker : ∀ l, P l → Q l) {handlers : List (EventHandler ι δ)}
    (every : EveryOf P handlers) : EveryOf Q handlers := by
  match handlers with
  | [] => trivial
  | _ :: _ => exact ⟨EventHandler.Every.mono weaker every.1, EventHandler.EveryOf.mono weaker every.2⟩

end

theorem Fresh.kept {l : Label δ} (fresh : Fresh l) : Kept l where
  few_errors := by
    rw [fresh.1]
    exact le_max_right _ _
  paced throttle kind := by
    have none := fresh.2 throttle kind
    exact ⟨by simp [none], by simp [none]⟩

theorem kept_after (clock : PerfCounter) {s : State ι δ} (kept : s.handler.Every Kept) (input : Input ι δ) :
    (s.after clock input).handler.Every Kept := by
  cases input with
  | event callbacks event_data => exact EventHandler.handle_event_safely_kept kept event_data s.tick
  | maintain path change => exact kept.maintain (fun _ _ _ change kept => kept.maintained change) change path

theorem kept_run (clock : PerfCounter) {s : State ι δ} (kept : s.handler.Every Kept) (inputs : List (Input ι δ)) :
    (inputs.foldl (State.after clock) s).handler.Every Kept := by
  induction inputs generalizing s with
  | nil => exact kept
  | cons input rest ih => exact ih (kept_after clock kept input)

/-- In every run of events and maintenance no handler of the tree counts more errors than it
    may make, and every throttled handler pauses between two executions for its interval. -/
theorem errors_limited_and_executions_paced (clock : PerfCounter) (h : EventHandler ι δ) (fresh : h.Every Fresh) (inputs : List (Input ι δ)) :
    (inputs.foldl (State.after clock) { handler := h }).handler.Every Kept := by
  have start : h.Every Kept := fresh.mono fun _ => Fresh.kept
  exact kept_run clock start inputs

/-- A clock that shows a tenth of a second more at every reading. -/
def tenths : PerfCounter := ⟨fun n => 100000 * n, fun _ _ later => by omega⟩

/-- A callback behind a pause, with one error to make. -/
def hasty : EventHandler Unit Unit :=
  .Throttled {} none (.Callable { max_errors := 1 } none ()) { min_interval := 300000 }

def failing : Input Unit Unit := .event (fun _ event_data => (.raises, event_data)) ⟨.CUSTOM, "", false, false, ()⟩

theorem hasty_paced : ([failing, failing, failing].foldl (State.after tenths) { handler := hasty }).handler.Every Kept :=
  errors_limited_and_executions_paced tenths hasty ⟨⟨rfl, fun _ same => by cases same; rfl⟩, rfl, nofun⟩ _

end

/-! ## Errors stay where they happen -/

/-- A handler whose filter and condition do not raise, with errors only if it is a callback. -/
structure Calm {δ : Type} (l : Label δ) : Prop where
  event_filter : ∀ f ∈ l.event_filter, ∀ event_data, f.is_match event_data ≠ none
  condition : ∀ condition, l.kind = .conditional condition → ∀ event_data, condition event_data ≠ none
  blameless : l.kind = .callable ∨ l.metadata.error_count = 0

namespace EventHandler
variable {ι δ : Type} {clock : PerfCounter} {callbacks : ι → EventData δ → Answer × EventData δ}

theorem base_should_handle_calm {m : HandlerMetadata} {event_filter : Option (EventFilter δ)} {kind : Kind δ} (calm : Calm ⟨m, event_filter, kind⟩)
    (event_data : EventData δ) : base_should_handle m event_filter event_data ≠ none := by
  unfold base_should_handle
  split
  · exact Option.some_ne_none _
  · split
    · exact Option.some_ne_none _
    · exact calm.event_filter _ rfl event_data

theorem should_handle_calm (clock : PerfCounter) (h : EventHandler ι δ) (calm : h.Every Calm) (event_data : EventData δ) (tick : Nat) :
    (h.should_handle clock event_data tick).1 ≠ none := by
  match h with
  | .Callable _ _ _ => exact base_should_handle_calm calm event_data
  | .Composite _ _ _ _ => exact base_should_handle_calm calm.1 event_data
  | .Conditional _ _ handler _ =>
    have base := base_should_handle_calm calm.1 event_data
    have child := should_handle_calm clock handler calm.2 event_data tick
    unfold should_handle
    split
    · split
      · exact calm.1.condition _ rfl event_data
      · exact child
    · exact base
  | .Throttled _ _ handler _ =>
    have base := base_should_handle_calm calm.1 event_data
    have child := should_handle_calm clock handler calm.2 event_data (tick + 1)
    unfold should_handle
    split
    · exact Option.some_ne_none _
    · split
      · exact child
      · exact base

/-- What a call of `handle_event` is to show: only a callback raises. -/
structure Isolates (r : Handled ι δ) : Prop where
  calm : r.handler.Every Calm
  raised : r.outcome = none → ∃ m event_filter callback, r.handler = .Callable m event_filter callback

theorem counted_calm {r : Handled ι δ} (isolates : Isolates r) : (counted r).handler.Every Calm ∧ (counted r).outcome ≠ none := by
  unfold counted
  simp only
  split
  · exact ⟨isolates.calm.with_metadata fun _ _ root => ⟨root.event_filter, root.condition, root.blameless⟩, Option.some_ne_none _⟩
  · rename_i raised
    obtain ⟨m, event_filter, callback, callable⟩ := isolates.raised raised
    have calm := isolates.calm
    rw [callable] at calm ⊢
    exact ⟨⟨calm.event_filter, calm.condition, .inl rfl⟩, Option.some_ne_none _⟩

theorem safely_calm (clock : PerfCounter) {h : EventHandler ι δ} (calm : h.Every Calm) (event_data : EventData δ) (tick : Nat) {handle : Nat → Handled ι δ}
    (handles : ∀ tick', Isolates (handle tick')) :
    (safely clock h event_data tick handle).handler.Every Calm ∧ (safely clock h event_data tick handle).outcome ≠ none := by
  have answers := should_handle_calm clock h calm event_data tick
  unfold safely
  split
  · rename_i raised
    exact absurd (congrArg Prod.fst raised) answers
  · exact ⟨calm, Option.some_ne_none _⟩
  · exact counted_calm (handles _)

mutual

theorem handle_event_isolates (clock : PerfCounter) (h : EventHandler ι δ) (calm : h.Every Calm) (event_data : EventData δ) (tick : Nat) :
    Isolates (handle_event clock callbacks h event_data tick) := by
  match h with
  | .Callable m event_filter callback => exact ⟨calm, fun _ => ⟨m, event_filter, callback, rfl⟩⟩
  | .Composite m event_filter handlers stop =>
    have delegated := delegate_calm clock handlers calm.2 stop event_data tick
    exact ⟨⟨calm.1, delegated.1⟩, fun raised => absurd raised delegated.2⟩
  | .Conditional m event_filter handler condition =>
    have child := safely_calm clock calm.2 event_data tick fun tick' => handle_event_isolates clock handler calm.2 event_data tick'
    exact ⟨⟨calm.1, child.1⟩, fun raised => absurd raised child.2⟩
  | .Throttled m event_filter handler throttle =>
    have child := safely_calm clock calm.2 event_data (tick + 1) fun tick' => handle_event_isolates clock handler calm.2 event_data tick'
    have root := calm.1
    refine ⟨⟨⟨root.event_filter, nofun, .inr ?_⟩, child.1⟩, fun raised => absurd raised child.2⟩
    exact root.blameless.resolve_left nofun

theorem delegate_calm (clock : PerfCounter) (handlers : List (EventHandler ι δ)) (calm : EveryOf Calm handlers) (stop : Bool) (event_data : EventData δ) (tick : Nat) :
    EveryOf Calm (delegate clock callbacks stop handlers event_data tick).handlers ∧
      (delegate clock callbacks stop handlers event_data tick).outcome ≠ none := by
  match handlers with
  | [] => exact ⟨trivial, Option.some_ne_none _⟩
  | handler :: rest =>
    have answers := should_handle_calm clock handler calm.1 event_data tick
    unfold delegate
    split
    · rename_i raised
      exact absurd (congrArg Prod.fst raised) answers
    · rename_i tick' _
      have others := delegate_calm clock rest calm.2 stop event_data tick'
      exact ⟨⟨calm.1, others.1⟩, others.2⟩
    · rename_i tick' _
      have child := safely_calm clock calm.1 event_data tick' fun tick'' => handle_event_isolates clock handler calm.1 event_data tick''
      simp only
      split
      · rename_i raised
        exact absurd raised child.2
      · split
        · exact ⟨⟨child.1, calm.2⟩, Option.some_ne_none _⟩
        · split
          · exact ⟨⟨child.1, calm.2⟩, Option.some_ne_none _⟩
          · have others := delegate_calm clock rest calm.2 stop
              (safely clock handler event_data tick' (handle_event clock callbacks handler event_data)).event_data
              (safely clock handler event_data tick' (handle_event clock callbacks handler event_data)).tick
            exact ⟨⟨child.1, others.1⟩, others.2⟩

end

end EventHandler

section
variable {ι δ : Type}

theorem Calm.maintained {m : HandlerMetadata} {event_filter : Option (EventFilter δ)} {kind : Kind δ} (calm : Calm ⟨m, event_filter, kind⟩)
    (change : Maintenance) : Calm ⟨m.maintained change, event_filter, kind⟩ := by
  refine ⟨calm.event_filter, calm.condition, ?_⟩
  cases change with
  | enable => exact calm.blameless
  | disable => exact calm.blameless
  | reset_error_count => exact .inr rfl

/-- The handlers of a tree are calm, and no event raised. -/
structure Untroubled (s : State ι δ) : Prop where
  calm : s.handler.Every Calm
  outcomes : none ∉ s.outcomes

theorem Untroubled.after (clock : PerfCounter) {s : State ι δ} (untroubled : Untroubled s) (input : Input ι δ) :
    Untroubled (s.after clock input) := by
  cases input with
  | event callbacks event_data =>
    have handled : _ ∧ (s.handler.handle_event_safely clock callbacks event_data s.tick).outcome ≠ none := EventHandler.safely_calm clock untroubled.calm event_data s.tick fun tick =>
      EventHandler.handle_event_isolates clock s.handler untroubled.calm event_data tick
    refine ⟨handled.1, fun member => ?_⟩
    rcases List.mem_append.mp member with before | now
    · exact untroubled.outcomes before
    · exact handled.2 (List.mem_singleton.mp now).symm
  | maintain path change => exact ⟨untroubled.calm.maintain (fun _ _ _ change calm => calm.maintained change) change path, untroubled.outcomes⟩

end
end RevitPy.HandlerTree
