import RevitPy.EventDispatch

/-!
# Synchronous and asynchronous dispatch

Both dispatches fold the same answers over handlers. The synchronous one reads the
handlers up to the first that ends the event; the asynchronous one reads the synchronous
handlers so, and all the asynchronous ones after them.
-/

namespace RevitPy
variable {η δ : Type}

/-- An answer after which no further handler is called. -/
def EventResult.ends (cancellable : Bool) (r : EventResult) : Bool := (r = .CANCEL && cancellable) || r = .STOP

/-! ## Lists up to the first hit -/

/-- A list up to the first entry that meets a condition, this entry included. -/
def upTo {α : Type} (p : α → Bool) : List α → List α
  | [] => []
  | a :: rest => if p a then [a] else a :: upTo p rest

section
variable {α : Type} {p : α → Bool}

theorem upTo_of_none {xs : List α} (none : ∀ a ∈ xs, p a = false) : upTo p xs = xs := by
  induction xs with
  | nil => rfl
  | cons a rest ih =>
    rw [upTo, if_neg (by simp [none a List.mem_cons_self]), ih fun b member => none b (List.mem_cons_of_mem _ member)]

theorem upTo_append {before after : List α} {a : α} (none : ∀ b ∈ before, p b = false) (hit : p a = true) :
    upTo p (before ++ a :: after) = before ++ [a] := by
  induction before with
  | nil => simp [upTo, hit]
  | cons b rest ih =>
    rw [List.cons_append, upTo, if_neg (by simp [none b List.mem_cons_self]),
      ih fun c member => none c (List.mem_cons_of_mem _ member), List.cons_append]

theorem mem_upTo {before after : List α} {a : α} (none : ∀ b ∈ before, p b = false) : a ∈ upTo p (before ++ a :: after) := by
  by_cases hit : p a = true
  · simp [upTo_append none hit]
  · induction before with
    | nil => simp [upTo, hit]
    | cons b rest ih =>
      rw [List.cons_append, upTo, if_neg (by simp [none b List.mem_cons_self])]
      exact List.mem_cons_of_mem _ (ih fun c member => none c (List.mem_cons_of_mem _ member))

/-- Where an entry meets the condition, the first one splits the list. -/
theorem none_or_first (p : α → Bool) (xs : List α) :
    (∀ a ∈ xs, p a = false) ∨ ∃ before a after, xs = before ++ a :: after ∧ (∀ b ∈ before, p b = false) ∧ p a = true := by
  cases first : xs.find? p with
  | none => exact .inl fun a member => by simpa using List.find?_eq_none.mp first a member
  | some a =>
    obtain ⟨hit, before, after, split, none⟩ := List.find?_eq_some_iff_append.mp first
    exact .inr ⟨before, a, after, split, fun b member => by simpa using none b member, hit⟩

end

/-! ## Answers -/

namespace Dispatch
variable {s : Dispatch η δ} {h : η} {r : EventResult}

/-- The result that a dispatch shows. -/
def Shows (s : Dispatch η δ) (r : EventResult) : Prop :=
  s.result.final_result = r ∧ s.result.was_cancelled = decide (r = .CANCEL)

theorem shows_start (event_data : EventData δ) : (start event_data : Dispatch η δ).Shows .CONTINUE := ⟨rfl, rfl⟩

theorem answered_of_goes_on (goes_on : r.ends s.event_data.cancellable = false) :
    s.answered h r = { s with
      result := { s.result with handlers_executed := s.result.handlers_executed + 1 }
      executed := s.executed ++ [h] } := by
  simp only [EventResult.ends, Bool.or_eq_false_iff, Bool.and_eq_false_iff, decide_eq_false_iff_not] at goes_on
  obtain ⟨not_cancel, not_stop⟩ := goes_on
  have kept : ¬(r = .CANCEL ∧ s.event_data.cancellable = true) := by
    rintro ⟨same, cancellable⟩
    rcases not_cancel with other | not_cancellable
    · exact other same
    · simp [cancellable] at not_cancellable
  simp [answered, kept, not_stop]

theorem answered_of_ends (shows : s.Shows .CONTINUE ∨ s.Shows r) (ends : r.ends s.event_data.cancellable = true) :
    (s.answered h r).Shows r := by
  unfold answered
  by_cases cancels : r = .CANCEL ∧ s.event_data.cancellable = true
  · obtain ⟨rfl, cancellable⟩ := cancels
    simp [Shows, cancellable]
  · have stops : r = .STOP := by
      simp only [EventResult.ends, Bool.or_eq_true, Bool.and_eq_true, decide_eq_true_eq] at ends
      exact ends.resolve_left cancels
    subst stops
    have uncancelled : s.result.was_cancelled = false := by
      rcases shows with shows | shows
      · simpa using shows.2
      · simpa using shows.2
    simp [Shows, uncancelled]

@[simp] theorem answered_cancellable : (s.answered h r).event_data.cancellable = s.event_data.cancellable := by
  by_cases cancels : r = .CANCEL ∧ s.event_data.cancellable = true
  · simp [answered, cancels, EventData.cancel]
  · by_cases stops : r = .STOP
    · simp [answered, stops]
    · simp [answered, cancels, stops]

@[simp] theorem answered_executed : (s.answered h r).executed = s.executed ++ [h] := by
  by_cases cancels : r = .CANCEL ∧ s.event_data.cancellable = true
  · simp [answered, cancels]
  · by_cases stops : r = .STOP
    · simp [answered, stops]
    · simp [answered, cancels, stops]

variable {f : η → EventResult} {hs : List η}

/-- The answers of handlers, one after the other. -/
def answeredAll (s : Dispatch η δ) (f : η → EventResult) (hs : List η) : Dispatch η δ := hs.foldl (fun s h => s.answered h (f h)) s

theorem answeredAll_append (hs gs : List η) : s.answeredAll f (hs ++ gs) = (s.answeredAll f hs).answeredAll f gs := List.foldl_append

@[simp] theorem executed_answeredAll : (s.answeredAll f hs).executed = s.executed ++ hs := by
  induction hs generalizing s with
  | nil => simp [answeredAll]
  | cons h rest ih =>
    show ((s.answered h (f h)).answeredAll f rest).executed = _
    simp [ih]

theorem answeredAll_of_go_on (go_on : ∀ h ∈ hs, (f h).ends s.event_data.cancellable = false) (shows : s.Shows r) :
    (s.answeredAll f hs).Shows r ∧ (s.answeredAll f hs).event_data = s.event_data := by
  induction hs generalizing s with
  | nil => exact ⟨shows, rfl⟩
  | cons h rest ih =>
    have next := answered_of_goes_on (h := h) (go_on h List.mem_cons_self)
    have later := ih (s := s.answered h (f h)) (by simpa using fun g member => go_on g (List.mem_cons_of_mem _ member))
      (by rw [next]; exact shows)
    exact ⟨later.1, later.2.trans (by rw [next])⟩

/-- Handlers that end the event all in the same way show this result. -/
theorem answeredAll_of_ends (same : ∀ h ∈ hs, (f h).ends s.event_data.cancellable = true → f h = r)
    (shows : s.Shows .CONTINUE ∨ s.Shows r) (ends : s.Shows r ∨ ∃ h ∈ hs, (f h).ends s.event_data.cancellable = true) :
    (s.answeredAll f hs).Shows r := by
  induction hs generalizing s with
  | nil => exact ends.elim id fun ⟨h, member, _⟩ => absurd member List.not_mem_nil
  | cons h rest ih =>
    have later : ∀ g ∈ rest, (f g).ends (s.answered h (f h)).event_data.cancellable = true → f g = r := by
      simpa using fun g member => same g (List.mem_cons_of_mem _ member)
    show ((s.answered h (f h)).answeredAll f rest).Shows r
    by_cases hit : (f h).ends s.event_data.cancellable = true
    · have here : (s.answered h (f h)).Shows r := by
        have single := same h List.mem_cons_self hit
        rw [single] at hit ⊢
        exact answered_of_ends shows hit
      exact ih later (.inr here) (.inl here)
    · have next := answered_of_goes_on (h := h) (by simpa using hit)
      refine ih later (by rw [next]; exact shows) ?_
      rw [next]
      rcases ends with shown | ⟨g, member, ended⟩
      · exact .inl shown
      · rcases List.mem_cons.mp member with rfl | member
        · exact absurd ended hit
        · exact .inr ⟨g, member, ended⟩

theorem answered_not_continue (gone : s.result.final_result ≠ .CONTINUE ∨ r.ends s.event_data.cancellable = true) :
    (s.answered h r).result.final_result ≠ .CONTINUE := by
  by_cases cancels : r = .CANCEL ∧ s.event_data.cancellable = true
  · simp [answered, cancels]
  · by_cases stops : r = .STOP
    · simp [answered, stops]
    · simp only [answered, cancels, stops, ↓reduceIte]
      refine gone.resolve_right fun ends => ?_
      simp only [EventResult.ends, Bool.or_eq_true, Bool.and_eq_true, decide_eq_true_eq] at ends
      exact ends.elim cancels stops

theorem answeredAll_not_continue
    (gone : s.result.final_result ≠ .CONTINUE ∨ ∃ h ∈ hs, (f h).ends s.event_data.cancellable = true) :
    (s.answeredAll f hs).result.final_result ≠ .CONTINUE := by
  induction hs generalizing s with
  | nil => exact gone.resolve_right fun ⟨h, member, _⟩ => absurd member List.not_mem_nil
  | cons h rest ih =>
    show ((s.answered h (f h)).answeredAll f rest).result.final_result ≠ _
    refine ih ?_
    rw [answered_cancellable]
    rcases gone with shown | ⟨g, member, ended⟩
    · exact .inl (answered_not_continue (.inl shown))
    · rcases List.mem_cons.mp member with rfl | member
      · exact .inl (answered_not_continue (.inr ended))
      · exact .inr ⟨g, member, ended⟩

end Dispatch

/-! ## The two dispatches -/

namespace EventDispatcher
variable (self : EventDispatcher η δ) (event_data : EventData δ)

/-- The handlers that an event reaches while none of them ends it. -/
def accepting : List η :=
  (self.get_handlers_for_event event_data.event_type).filter fun h => (self.object h).should_handle event_data

/-- A handler ends the event where it is waited for. -/
def ends (running_loop : Bool) (h : η) : Bool := ((self.object h).handle_event running_loop).ends event_data.cancellable

theorem process_handlers_eq (running_loop : Bool) (s : Dispatch η δ) (hs : List η) :
    self.process_handlers running_loop s hs =
      s.answeredAll (fun h => (self.object h).handle_event running_loop)
        (upTo (self.ends s.event_data running_loop) (hs.filter fun h => (self.object h).should_handle s.event_data)) := by
  induction hs generalizing s with
  | nil => rfl
  | cons h rest ih =>
    by_cases accepts : (self.object h).should_handle s.event_data = true
    · have answer : (self.object h).handle_event_safely running_loop s.event_data = (self.object h).handle_event running_loop := by
        simp [BaseEventHandler.handle_event_safely, accepts]
      simp only [process_handlers, List.filter_cons, accepts, answer, Bool.not_true, Bool.false_eq_true, ↓reduceIte, upTo]
      by_cases hit : self.ends s.event_data running_loop h = true
      · have stops := hit
        simp only [ends, EventResult.ends, Bool.or_eq_true, Bool.and_eq_true, decide_eq_true_eq] at stops
        simp [hit, stops, Dispatch.answeredAll]
      · have goes_on : ¬(((self.object h).handle_event running_loop = .CANCEL ∧ s.event_data.cancellable = true) ∨
            (self.object h).handle_event running_loop = .STOP) := by
          simpa only [ends, EventResult.ends, Bool.or_eq_true, Bool.and_eq_true, decide_eq_true_eq] using hit
        have next := Dispatch.answered_of_goes_on (s := s) (h := h) (by simpa [ends] using hit)
        have kept : (s.answered h ((self.object h).handle_event running_loop)).event_data = s.event_data := by rw [next]
        simp only [goes_on, hit, ih, kept]
        rfl
    · simp [process_handlers, accepts, ih]

/-- What the synchronous dispatch executes and shows. -/
theorem process_event_immediate_eq (running_loop : Bool) :
    self._process_event_immediate running_loop event_data =
      (Dispatch.start event_data).answeredAll (fun h => (self.object h).handle_event running_loop)
        (upTo (self.ends event_data running_loop) (self.accepting event_data)) :=
  self.process_handlers_eq running_loop _ _

@[simp] theorem handle_event_waited (h : BaseEventHandler δ) : h.handle_event false = h.result := by simp [BaseEventHandler.handle_event]

/-- The synchronous handlers that an event reaches, and the asynchronous ones. -/
def accepting_sync : List η := (self.accepting event_data).filter fun h => !(self.object h).is_async
def accepting_async : List η := (self.accepting event_data).filter fun h => (self.object h).is_async

theorem mem_accepting_sync (h : η) :
    h ∈ self.accepting_sync event_data ↔ h ∈ self.accepting event_data ∧ (self.object h).is_async = false := by
  simp [accepting_sync]

theorem mem_accepting_async (h : η) :
    h ∈ self.accepting_async event_data ↔ h ∈ self.accepting event_data ∧ (self.object h).is_async = true := by
  simp [accepting_async]

variable {self event_data}

variable (self event_data) in
theorem sync_phase : self.process_handlers false (.start event_data)
      ((self.get_handlers_for_event event_data.event_type).filter fun h => !(self.object h).is_async) =
    (Dispatch.start event_data).answeredAll (fun h => (self.object h).result)
      (upTo (self.ends event_data false) (self.accepting_sync event_data)) := by
  rw [process_handlers_eq, accepting_sync, accepting, List.filter_filter, List.filter_filter]
  simp only [Dispatch.start, handle_event_waited, Bool.and_comm]

/-- A synchronous handler that ends the event keeps it from every asynchronous one. -/
theorem process_event_async_of_first {before after : List η} {h : η} (split : self.accepting_sync event_data = before ++ h :: after)
    (none : ∀ b ∈ before, self.ends event_data false b = false) (hit : self.ends event_data false h = true) :
    self._process_event_async event_data =
      (Dispatch.start event_data).answeredAll (fun h => (self.object h).result) (before ++ [h]) ∧
    (self._process_event_async event_data).Shows (self.object h).result := by
  have phase := sync_phase self event_data
  rw [split, upTo_append none hit] at phase
  have shown : ((Dispatch.start event_data).answeredAll (fun h => (self.object h).result) (before ++ [h])).Shows (self.object h).result := by
    refine Dispatch.answeredAll_of_ends ?_ (.inl (Dispatch.shows_start event_data)) (.inr ⟨h, by simp, by simpa [ends, Dispatch.start] using hit⟩)
    intro g member ended
    rcases List.mem_append.mp member with earlier | last
    · have goes_on := none g earlier
      simp [ends, handle_event_waited] at goes_on
      simp [Dispatch.start, goes_on] at ended
    · rw [List.mem_singleton.mp last]
  have gone : (self.object h).result ≠ .CONTINUE := by
    intro continues
    simp [ends, continues, EventResult.ends] at hit
  have whole : self._process_event_async event_data =
      (Dispatch.start event_data).answeredAll (fun h => (self.object h).result) (before ++ [h]) := by
    simp only [_process_event_async, phase, shown.1, gone, ↓reduceIte]
  exact ⟨whole, whole ▸ shown⟩

/-- Where no synchronous handler ends the event, every handler is called. -/
theorem process_event_async_of_none (none : ∀ h ∈ self.accepting_sync event_data, self.ends event_data false h = false) :
    self._process_event_async event_data =
      (Dispatch.start event_data).answeredAll (fun h => (self.object h).result)
        (self.accepting_sync event_data ++ self.accepting_async event_data) := by
  have phase := sync_phase self event_data
  rw [upTo_of_none none] at phase
  have go_on : ∀ h ∈ self.accepting_sync event_data, (self.object h).result.ends (Dispatch.start (η := η) event_data).event_data.cancellable = false := by
    simpa [ends, Dispatch.start] using none
  obtain ⟨shown, kept⟩ := Dispatch.answeredAll_of_go_on go_on (Dispatch.shows_start event_data)
  have unchanged : (Dispatch.start (η := η) event_data).event_data = event_data := rfl
  have tasks : ((self.get_handlers_for_event event_data.event_type).filter fun h => (self.object h).is_async).filter
      (fun h => (self.object h).should_handle event_data) = self.accepting_async event_data := by
    simp only [accepting_async, accepting, List.filter_filter, Bool.and_comm]
  have waited : ∀ h ∈ self.accepting_async event_data, (self.object h).handle_event_safely_async event_data = (self.object h).result := by
    intro h member
    have accepts := (List.mem_filter.mp ((self.mem_accepting_async event_data h).mp member).1).2
    simp [BaseEventHandler.handle_event_safely_async, accepts]
  simp only [_process_event_async, phase, shown.1, kept, unchanged, tasks, ↓reduceIte, List.foldl_map]
  rw [Dispatch.answeredAll_append, Dispatch.answeredAll]
  exact List.foldl_ext _ _ _ fun s h member => by rw [waited h member]

variable (self event_data)

/-- No handler that the event reaches ends it; or the first one that does is synchronous,
    as all those before it; or it is asynchronous, waited for, and every handler after it
    was called before. -/
def Aligned (running_loop : Bool) : Prop :=
  (∀ h ∈ self.accepting event_data, self.ends event_data false h = false) ∨
  ∃ before h after, self.accepting event_data = before ++ h :: after ∧
    (∀ b ∈ before, self.ends event_data false b = false) ∧ self.ends event_data false h = true ∧
    (if (self.object h).is_async then running_loop = false ∧ ∀ a ∈ after, a ∈ before ++ [h]
      else ∀ b ∈ before, (self.object b).is_async = false)

end EventDispatcher

/-- The same handlers executed, and the same outcome. -/
structure Dispatch.Agrees (s t : Dispatch η δ) : Prop where
  executed : ∀ h, h ∈ s.executed ↔ h ∈ t.executed
  final_result : s.result.final_result = t.result.final_result
  was_cancelled : s.result.was_cancelled = t.result.was_cancelled

theorem Dispatch.agrees_of_shows {s t : Dispatch η δ} {r : EventResult} (executed : ∀ h, h ∈ s.executed ↔ h ∈ t.executed)
    (left : s.Shows r) (right : t.Shows r) : s.Agrees t where
  executed := executed
  final_result := left.1.trans right.1.symm
  was_cancelled := left.2.trans right.2.symm

namespace EventDispatcher
variable {self : EventDispatcher η δ} {event_data : EventData δ} {running_loop : Bool}

theorem ends_of_sync {h : η} (sync : (self.object h).is_async = false) :
    self.ends event_data running_loop h = self.ends event_data false h := by
  simp [ends, BaseEventHandler.handle_event, sync]

/-- A handler that is not waited for ends nothing. -/
theorem goes_on_of_running {h : η} (goes_on : self.ends event_data false h = false) : self.ends event_data running_loop h = false := by
  cases running_loop with
  | false => exact goes_on
  | true =>
    cases async : (self.object h).is_async with
    | false => exact (ends_of_sync async).trans goes_on
    | true => simp [ends, BaseEventHandler.handle_event, async, EventResult.ends]

theorem mem_accepting_iff (h : η) :
    h ∈ self.accepting event_data ↔ h ∈ self.accepting_sync event_data ++ self.accepting_async event_data := by
  rw [List.mem_append, mem_accepting_sync, mem_accepting_async, ← and_or_left]
  cases (self.object h).is_async with
  | false => simp
  | true => simp

/-- What the synchronous dispatch executes is among what the event reaches. -/
theorem executed_immediate (h : η) :
    h ∈ (self._process_event_immediate running_loop event_data).executed ↔
      h ∈ upTo (self.ends event_data running_loop) (self.accepting event_data) := by
  rw [process_event_immediate_eq, Dispatch.executed_answeredAll]
  simp [Dispatch.start]

/-- Where no synchronous handler ends the event, the asynchronous dispatch executes all. -/
theorem executed_async_of_none (sync_none : ∀ h ∈ self.accepting_sync event_data, self.ends event_data false h = false) (h : η) :
    h ∈ (self._process_event_async event_data).executed ↔ h ∈ self.accepting event_data := by
  rw [process_event_async_of_none sync_none, Dispatch.executed_answeredAll, mem_accepting_iff]
  simp [Dispatch.start]

/-- Where nothing ends the event, both dispatches call every handler. -/
theorem agrees_of_none (none : ∀ h ∈ self.accepting event_data, self.ends event_data false h = false) :
    (self._process_event_immediate running_loop event_data).Agrees (self._process_event_async event_data) := by
  have sync_none : ∀ h ∈ self.accepting_sync event_data, self.ends event_data false h = false := fun h member =>
    none h ((self.mem_accepting_sync event_data h).mp member).1
  have go_on : ∀ h ∈ self.accepting event_data, self.ends event_data running_loop h = false := fun h member =>
    goes_on_of_running (none h member)
  rw [process_event_immediate_eq, process_event_async_of_none sync_none, upTo_of_none go_on]
  refine Dispatch.agrees_of_shows (r := .CONTINUE) (fun h => ?_) ?_ ?_
  · simpa [Dispatch.start] using mem_accepting_iff h
  · exact (Dispatch.answeredAll_of_go_on go_on (Dispatch.shows_start event_data)).1
  · refine (Dispatch.answeredAll_of_go_on ?_ (Dispatch.shows_start event_data)).1
    intro h member
    simpa [ends, Dispatch.start] using none h ((mem_accepting_iff h).mpr member)

theorem eq_of_ends {before : List η} {g h : η} (none : ∀ b ∈ before, self.ends event_data false b = false) (called : g ∈ before ++ [h])
    (ended : self.ends event_data false g = true) : g = h := by
  rcases List.mem_append.mp called with earlier | last
  · simp [none g earlier] at ended
  · exact List.mem_singleton.mp last

section
variable {before after : List η} {h : η} (split : self.accepting event_data = before ++ h :: after)
  (none : ∀ b ∈ before, self.ends event_data false b = false) (hit : self.ends event_data false h = true)
include split none

/-- The synchronous dispatch ends at the first handler that ends the event and is waited for. -/
theorem process_event_immediate_of_first (waited : self.ends event_data running_loop h = true) :
    (∀ g, g ∈ (self._process_event_immediate running_loop event_data).executed ↔ g ∈ before ++ [h]) ∧
    (self._process_event_immediate running_loop event_data).Shows (self.object h).result := by
  have go_on : ∀ b ∈ before, self.ends event_data running_loop b = false := fun b member => goes_on_of_running (none b member)
  refine ⟨fun g => ?_, ?_⟩
  · rw [executed_immediate, split, upTo_append go_on waited]
  · have answer : (self.object h).handle_event running_loop = (self.object h).result := by
      unfold ends BaseEventHandler.handle_event at waited
      split at waited
      · simp [EventResult.ends] at waited
      · next plain => rw [BaseEventHandler.handle_event, if_neg plain]
    rw [process_event_immediate_eq, split, upTo_append go_on waited]
    refine Dispatch.answeredAll_of_ends ?_ (.inl (Dispatch.shows_start event_data)) (.inr ⟨h, by simp, waited⟩)
    intro g member ended
    rcases List.mem_append.mp member with earlier | last
    · exact absurd ended (by simpa [ends, Dispatch.start] using go_on g earlier)
    · rw [List.mem_singleton.mp last, answer]

/-- Where a synchronous handler ends the event too, the asynchronous dispatch does not come
    to the asynchronous one. -/
theorem not_agrees_of_sync_hit (async : (self.object h).is_async = true) {earlier later : List η} {g : η}
    (sync_split : self.accepting_sync event_data = earlier ++ g :: later) (sync_none : ∀ b ∈ earlier, self.ends event_data false b = false)
    (sync_hit : self.ends event_data false g = true) :
    ¬(self._process_event_immediate running_loop event_data).Agrees (self._process_event_async event_data) := by
  intro agrees
  have called : h ∈ (self._process_event_async event_data).executed := by
    refine (agrees.executed h).mp ?_
    rw [executed_immediate, split]
    exact mem_upTo fun b before => goes_on_of_running (none b before)
  rw [(process_event_async_of_first sync_split sync_none sync_hit).1, Dispatch.executed_answeredAll] at called
  have among : h ∈ self.accepting_sync event_data := by
    rw [sync_split]
    rcases List.mem_append.mp called with impossible | called
    · simp [Dispatch.start] at impossible
    · rcases List.mem_append.mp called with before | last
      · exact List.mem_append_left _ before
      · simp [List.mem_singleton.mp last]
  simp [((self.mem_accepting_sync event_data h).mp among).2] at async

include hit

/-- A synchronous handler that ends the event first must have no asynchronous one before it. -/
theorem agrees_iff_of_sync_first (sync : (self.object h).is_async = false) :
    (self._process_event_immediate running_loop event_data).Agrees (self._process_event_async event_data) ↔
      ∀ b ∈ before, (self.object b).is_async = false := by
  have waited : self.ends event_data running_loop h = true := (ends_of_sync sync).trans hit
  obtain ⟨executed, shown⟩ := process_event_immediate_of_first split none waited
  have sync_split : self.accepting_sync event_data =
      before.filter (fun g => !(self.object g).is_async) ++ h :: after.filter fun g => !(self.object g).is_async := by
    simp [accepting_sync, split, sync]
  obtain ⟨whole, shown'⟩ := process_event_async_of_first sync_split (fun b member => none b (List.mem_filter.mp member).1) hit
  have executed' (g : η) : g ∈ (self._process_event_async event_data).executed ↔
      g ∈ before.filter (fun g => !(self.object g).is_async) ++ [h] := by
    rw [whole, Dispatch.executed_answeredAll]
    simp [Dispatch.start]
  constructor
  · intro agrees b member
    have called := (executed' b).mp ((agrees.executed b).mp ((executed b).mpr (List.mem_append_left _ member)))
    rcases List.mem_append.mp called with kept | last
    · simpa using (List.mem_filter.mp kept).2
    · exact List.mem_singleton.mp last ▸ sync
  · intro all_sync
    refine Dispatch.agrees_of_shows (fun g => ?_) shown shown'
    rw [executed, executed', List.filter_eq_self.mpr fun b member => by simp [all_sync b member]]

/-- Waited for, it keeps the event from the handlers after it, which the asynchronous
    dispatch calls. -/
theorem agrees_iff_of_waited (sync_none : ∀ g ∈ self.accepting_sync event_data, self.ends event_data false g = false) :
    (self._process_event_immediate false event_data).Agrees (self._process_event_async event_data) ↔ ∀ a ∈ after, a ∈ before ++ [h] := by
  have member : h ∈ self.accepting event_data := by simp [split]
  obtain ⟨executed, shown⟩ := process_event_immediate_of_first split none hit
  constructor
  · intro agrees a later
    exact (executed a).mp ((agrees.executed a).mpr ((executed_async_of_none sync_none a).mpr (by simp [split, later])))
  · intro covered
    refine Dispatch.agrees_of_shows (fun g => ?_) shown ?_
    · rw [executed, executed_async_of_none sync_none, split]
      simp only [List.mem_append, List.mem_cons, List.not_mem_nil, or_false]
      constructor
      · exact Or.imp_right .inl
      · rintro (earlier | same | later)
        · exact .inl earlier
        · exact .inr same
        · simpa using covered g later
    · rw [process_event_async_of_none sync_none]
      refine Dispatch.answeredAll_of_ends ?_ (.inl (Dispatch.shows_start event_data)) (.inr ⟨h, (mem_accepting_iff h).mp member, ?_⟩)
      · intro g among ended
        have reached := (mem_accepting_iff g).mpr among
        rw [split] at reached
        have ended' : self.ends event_data false g = true := by simpa [ends, Dispatch.start] using ended
        rcases List.mem_append.mp reached with earlier | here
        · rw [eq_of_ends none (List.mem_append_left _ earlier) ended']
        · rcases List.mem_cons.mp here with rfl | later
          · rfl
          · rw [eq_of_ends none (covered g later) ended']
      · simpa [ends, Dispatch.start] using hit

omit none in
/-- Within a running loop it is not waited for, and only the asynchronous dispatch shows
    its result. -/
theorem not_agrees_of_running (sync_none : ∀ g ∈ self.accepting_sync event_data, self.ends event_data false g = false) :
    ¬(self._process_event_immediate true event_data).Agrees (self._process_event_async event_data) := by
  have member : h ∈ self.accepting event_data := by simp [split]
  have go_on : ∀ g ∈ self.accepting event_data, self.ends event_data true g = false := by
    intro g reached
    cases plain : (self.object g).is_async with
    | true => simp [ends, BaseEventHandler.handle_event, plain, EventResult.ends]
    | false => exact (ends_of_sync plain).trans (sync_none g ((self.mem_accepting_sync event_data g).mpr ⟨reached, plain⟩))
  have shown : (self._process_event_immediate true event_data).Shows .CONTINUE := by
    rw [process_event_immediate_eq, upTo_of_none go_on]
    exact (Dispatch.answeredAll_of_go_on go_on (Dispatch.shows_start event_data)).1
  have gone : (self._process_event_async event_data).result.final_result ≠ .CONTINUE := by
    rw [process_event_async_of_none sync_none]
    refine Dispatch.answeredAll_not_continue (.inr ⟨h, (mem_accepting_iff h).mp member, ?_⟩)
    simpa [ends, Dispatch.start] using hit
  exact fun agrees => gone (agrees.final_result.symm.trans shown.1)

/-- An asynchronous handler that ends the event first must be waited for, and leave no
    handler after it to be called. -/
theorem agrees_iff_of_async_first (async : (self.object h).is_async = true) :
    (self._process_event_immediate running_loop event_data).Agrees (self._process_event_async event_data) ↔
      running_loop = false ∧ ∀ a ∈ after, a ∈ before ++ [h] := by
  rcases none_or_first (self.ends event_data false) (self.accepting_sync event_data) with sync_none | ⟨first, g, later, sync_split, sync_none, sync_hit⟩
  · cases running_loop with
    | false => simpa using agrees_iff_of_waited split none hit sync_none
    | true => simpa using not_agrees_of_running split hit sync_none
  · refine iff_of_false (not_agrees_of_sync_hit split none async sync_split sync_none sync_hit) ?_
    rintro ⟨_, covered⟩
    obtain ⟨reached, plain⟩ := (self.mem_accepting_sync event_data g).mp (by simp [sync_split])
    rw [split] at reached
    have same : g = h := by
      rcases List.mem_append.mp reached with earlier | here
      · exact eq_of_ends none (List.mem_append_left _ earlier) sync_hit
      · rcases List.mem_cons.mp here with same | later
        · exact same
        · exact eq_of_ends none (covered g later) sync_hit
    simp [same, async] at plain

end

/-- An asynchronous handler of the highest priority that stops the event, and a
    synchronous one of the lowest. -/
def stopped_first : EventDispatcher Bool Unit where
  object
    | true => ⟨.HIGHEST, true, 0, 10, none, true, .STOP⟩
    | false => ⟨.LOWEST, true, 0, 10, none, false, .CONTINUE⟩
  _handlers := ∅
  _global_handlers := [true, false]
  _event_filters := []

end EventDispatcher
end RevitPy
