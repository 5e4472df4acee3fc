import Mathlib.Data.List.Nodup
import RevitPy.Runs
import RevitPy.WebSocketBridge

/-!
# Responses and the calls they answer

A response finds its call where it carries the identifier of the request. The server's own
answers carry none, nor do those of the bridge manager.
-/

namespace RevitPy.WebSocket
open Runs

/-- The identifier that a message carries. -/
def requestId? : Json → Option String
  | .obj members => match Json.get? members "request_id" with
    | some (.str request_id) => some request_id
    | _ => none
  | _ => none

theorem requestId?_obj {members : List (String × Json)} {request_id : String} :
    requestId? (.obj members) = some request_id ↔ Json.get? members "request_id" = some (.str request_id) := by
  unfold requestId?
  dsimp only
  split
  · next text carried => simp [carried]
  · next other =>
    constructor
    · intro carried
      cases carried
    · exact fun carried => absurd carried (other request_id)

/-- What the bridge manager answers carries no identifier. -/
theorem requestId?_handle_websocket_message (message : Message) (info : ManagerInfo) :
    requestId? (handle_websocket_message message info) = none := by
  unfold handle_websocket_message
  split
  · split
    · rfl
    · rfl
  · split
    · rfl
    · split
      · rfl
      · rfl

/-- The server itself answers the message, whatever handler is set. -/
def builtIn (message : Message) : Bool := typeIs message "ping" || typeIs message "get_status" || typeIs message "get_connections"

/-- Nor does what the server answers itself. -/
theorem requestId?_process_message {message : Message} {info : ServerInfo} {response : Json}
    (answered : process_message message info = some response)
    (unhandled : builtIn message = false → ∀ r, info.message_handler ≠ some (.returns r)) : requestId? response = none := by
  unfold process_message at answered
  split at answered
  · obtain rfl := Option.some.inj answered
    rfl
  · next no_ping =>
    split at answered
    · obtain rfl := Option.some.inj answered
      rfl
    · next no_status =>
      split at answered
      · obtain rfl := Option.some.inj answered
        rfl
      · next no_connections =>
        have custom : builtIn message = false := by simp [builtIn, no_ping, no_status, no_connections]
        split at answered
        · obtain rfl := Option.some.inj answered
          rfl
        · cases answered
        · next r returned => exact absurd returned (unhandled custom r)
        · obtain rfl := Option.some.inj answered
          rfl
        · obtain rfl := Option.some.inj answered
          rfl

namespace Bridge

/-- A response that was delivered is the result of its call, unless that was given up, and no call has
    the response to another. -/
def Correlated (s : Bridge) : Prop :=
  (∀ c response, (some c, response) ∈ s.delivered → ∀ call, s.calls[c]? = some call →
    call.state = .failed ∨ call.state = .resolved (some c) response) ∧
  ∀ (c d : Nat) (call : Call) (response : Json), s.calls[c]? = some call → call.state = .resolved (some d) response → d = c

def Pending (s : Bridge) (c : Nat) (request_id : String) : Prop :=
  ∃ call, s.calls[c]? = some call ∧ call.isPending = true ∧ call.request_id = request_id

/-- A message carries the identifier of the call that it answers, while that is pending, and of no
    other pending call. -/
def Addressed (s : Bridge) (answers : Option Nat) (message : Json) : Prop :=
  (∀ c request_id, answers = some c → s.Pending c request_id → requestId? message = some request_id) ∧
  ∀ c request_id, s.Pending c request_id → requestId? message = some request_id → answers = some c

/-- The handler answers a pending call by nothing or by a message with its identifier, and no message
    by one with the identifier of another pending call. -/
def Echoes (s : Bridge) (answers : Option Nat) (message : Message) (handler : Option HandlerOutcome) : Prop :=
  (∀ c request_id, answers = some c → s.Pending c request_id → builtIn message = false ∧
    (handler = some .nothing ∨ ∃ response, handler = some (.returns response) ∧ requestId? response = some request_id)) ∧
  ∀ response, builtIn message = false → handler = some (.returns response) →
    ∀ c request_id, s.Pending c request_id → requestId? response = some request_id → answers = some c

/-- What must hold when an event happens. -/
def WellAddressed (s : Bridge) : Event → Prop
  | .send_message second address _ => (∀ c, ¬s.Pending c s!"req_{second}_{address}") ∧
      ∀ entry ∈ s.toClient, requestId? entry.2 ≠ some s!"req_{second}_{address}"
  | .answer info => ∀ answers message, s.processing = some (answers, message) → s.Echoes answers message info.message_handler
  | .push message => s.Addressed none message
  | _ => True

/-- The calls that what is on its way or was delivered belongs to. -/
def onTheWay (s : Bridge) : List Nat :=
  s.delivered.filterMap Prod.fst ++ (s.toClient.filterMap Prod.fst ++ (s.processing.toList.filterMap Prod.fst ++ s.toServer.filterMap Prod.fst))

structure Orderly (s : Bridge) : Prop where
  registered : ∀ c request_id, s.Pending c request_id → s.response_futures.get? request_id = some c
  owned : ∀ request_id c, s.response_futures.get? request_id = some c → ∃ call, s.calls[c]? = some call ∧ call.request_id = request_id
  named : ∀ call ∈ s.calls, call.request_id ≠ ""
  addressed : ∀ entry ∈ s.toClient, s.Addressed entry.1 entry.2
  once : s.onTheWay.Nodup
  sent : ∀ c ∈ s.onTheWay, ∃ call, s.calls[c]? = some call ∧ call.state ≠ .sending
  resolved : ∀ (c : Nat) (call : Call) (answers : Option Nat) (response : Json), s.calls[c]? = some call →
    call.state = .resolved answers response → c ∈ s.delivered.filterMap Prod.fst
  correlated : s.Correlated

variable {s t : Bridge}

theorem onTheWay_of_delivered {c : Nat} {response : Json} (member : (some c, response) ∈ s.delivered) : c ∈ s.onTheWay :=
  List.mem_append_left _ (List.mem_filterMap.mpr ⟨_, member, rfl⟩)

/-! ## Calls that move on -/

theorem calls_setState {call i : Nat} {state : CallState} {c : Call} (found : (s.setState call state).calls[i]? = some c) :
    ∃ d, s.calls[i]? = some d ∧ c.request_id = d.request_id ∧ (i = call ∧ c.state = state ∨ i ≠ call ∧ c = d) := by
  simp only [setState, List.getElem?_modify] at found
  obtain ⟨d, there, rfl⟩ := Option.map_eq_some_iff.mp found
  refine ⟨d, there, ?_⟩
  by_cases same : call = i
  · simp [same]
  · simp [same, Ne.symm same]

theorem setState_calls {i : Nat} {d : Call} (there : s.calls[i]? = some d) (call : Nat) (state : CallState) :
    ∃ e, (s.setState call state).calls[i]? = some e ∧ e.request_id = d.request_id ∧ (i = call ∧ e.state = state ∨ i ≠ call ∧ e = d) := by
  by_cases same : call = i
  · exact ⟨{ d with state }, by simp [setState, there, same], rfl, Or.inl ⟨same.symm, rfl⟩⟩
  · exact ⟨d, by simp [setState, there, same], rfl, Or.inr ⟨Ne.symm same, rfl⟩⟩

/-- No call became pending. -/
def FewerPending (t s : Bridge) : Prop := ∀ c request_id, t.Pending c request_id → s.Pending c request_id

theorem addressed_of_fewerPending (fewer : t.FewerPending s) {answers : Option Nat} {message : Json} (addressed : s.Addressed answers message) :
    t.Addressed answers message :=
  ⟨fun c request_id same pending => addressed.1 c request_id same (fewer c request_id pending),
    fun c request_id pending => addressed.2 c request_id (fewer c request_id pending)⟩

theorem fewerPending_of_calls (calls : t.calls = s.calls) : t.FewerPending s := by
  rintro c request_id ⟨call, found, pending⟩
  exact ⟨call, calls ▸ found, pending⟩

/-- A call is sent or fails. -/
theorem orderly_setState (inv : s.Orderly) {call : Nat} {state : CallState} (moved : state = .waiting ∧ call ∉ s.onTheWay ∨ state = .failed)
    (calls : t.calls = (s.setState call state).calls) (toClient : t.toClient = s.toClient) (delivered : t.delivered = s.delivered)
    (once : t.onTheWay.Nodup) (way : ∀ c ∈ t.onTheWay, c ∈ s.onTheWay ∨ c = call ∧ ∃ d, s.calls[call]? = some d)
    (fewer : t.FewerPending s) (registered : ∀ c request_id, t.Pending c request_id → t.response_futures.get? request_id = some c)
    (futures : ∀ request_id c, t.response_futures.get? request_id = some c → s.response_futures.get? request_id = some c) : t.Orderly := by
  have known {i : Nat} {d : Call} (there : t.calls[i]? = some d) :
      ∃ e, s.calls[i]? = some e ∧ d.request_id = e.request_id ∧ (i = call ∧ d.state = state ∨ i ≠ call ∧ d = e) := calls_setState (calls ▸ there)
  have unresolved (answers : Option Nat) (response : Json) : state ≠ .resolved answers response := by
    rcases moved with ⟨rfl, _⟩ | rfl <;> exact nofun
  have sent : state ≠ .sending := by
    rcases moved with ⟨rfl, _⟩ | rfl <;> exact nofun
  refine ⟨registered, ?_, ?_, ?_, once, ?_, ?_, ?_, ?_⟩
  · intro request_id i has
    obtain ⟨d, there, id⟩ := inv.owned request_id i (futures request_id i has)
    obtain ⟨e, after, same, _⟩ := setState_calls there call state
    exact ⟨e, calls ▸ after, same.trans id⟩
  · intro d member
    obtain ⟨i, there⟩ := List.getElem?_of_mem member
    obtain ⟨e, before, same, _⟩ := known there
    rw [same]
    exact inv.named e (List.mem_of_getElem? before)
  · intro entry member
    exact addressed_of_fewerPending fewer (inv.addressed entry (toClient ▸ member))
  · intro i member
    have there : ∃ d, s.calls[i]? = some d ∧ (i = call ∨ d.state ≠ .sending) := by
      rcases way i member with before | ⟨rfl, d, found⟩
      · obtain ⟨d, there, was_sent⟩ := inv.sent i before
        exact ⟨d, there, Or.inr was_sent⟩
      · exact ⟨d, found, Or.inl rfl⟩
    obtain ⟨d, there, was_sent⟩ := there
    obtain ⟨e, after, _, ⟨_, now⟩ | ⟨other, rfl⟩⟩ := setState_calls there call state
    · exact ⟨e, calls ▸ after, now ▸ sent⟩
    · exact ⟨e, calls ▸ after, was_sent.resolve_left other⟩
  · intro i d answers response there resolved
    obtain ⟨e, before, _, ⟨_, now⟩ | ⟨_, rfl⟩⟩ := known there
    · exact absurd (now.symm.trans resolved) (unresolved answers response)
    · exact delivered ▸ inv.resolved i d answers response before resolved
  · intro i response member d there
    rw [delivered] at member
    obtain ⟨e, before, _, ⟨rfl, now⟩ | ⟨_, rfl⟩⟩ := known there
    · rcases moved with ⟨_, unsent⟩ | failed
      · exact absurd (onTheWay_of_delivered member) unsent
      · exact Or.inl (now.trans failed)
    · exact inv.correlated.1 i response member d before
  · intro i j d response there resolved
    obtain ⟨e, before, _, ⟨_, now⟩ | ⟨_, rfl⟩⟩ := known there
    · exact absurd (now.symm.trans resolved) (unresolved (some j) response)
    · exact inv.correlated.2 i j d response before resolved

/-- A call that fails is no longer pending, and its future may go. -/
theorem orderly_failed (inv : s.Orderly) {call : Nat} {c : Call} (found : s.calls[call]? = some c) (pending : c.isPending = true)
    (futures : t.response_futures = s.response_futures ∨ t.response_futures = s.response_futures.erase c.request_id)
    (calls : t.calls = (s.setState call .failed).calls)
    (wire : t.toServer = s.toServer ∧ t.processing = s.processing ∧ t.toClient = s.toClient ∧ t.delivered = s.delivered) : t.Orderly := by
  obtain ⟨toServer, processing, toClient, delivered⟩ := wire
  have others {i : Nat} {request_id : String} (still : t.Pending i request_id) : i ≠ call ∧ s.Pending i request_id := by
    obtain ⟨d, there, d_pending, id⟩ := still
    obtain ⟨e, before, same, ⟨_, failed⟩ | ⟨other, rfl⟩⟩ := calls_setState (calls ▸ there)
    · simp [Call.isPending, failed] at d_pending
    · exact ⟨other, d, before, d_pending, id⟩
  have way : t.onTheWay = s.onTheWay := by rw [onTheWay, onTheWay, toServer, processing, toClient, delivered]
  refine orderly_setState inv (Or.inr rfl) calls toClient delivered (way ▸ inv.once) (fun i member => Or.inl (way ▸ member))
    (fun _ _ still => (others still).2) ?_ ?_
  · intro i request_id still
    obtain ⟨other, before⟩ := others still
    have kept := inv.registered i request_id before
    rcases futures with same | erased
    · rw [same, kept]
    · have apart : c.request_id ≠ request_id := by
        rintro rfl
        have mine := inv.registered call c.request_id ⟨c, found, pending, rfl⟩
        exact other (Option.some.inj (kept.symm.trans mine))
      rw [erased, Dict.get?_erase_ne _ apart, kept]
  · intro request_id i has
    rcases futures with same | erased
    · rw [← same, has]
    · exact Dict.get?_of_erase (erased ▸ has)

/-- What is on its way moves on or gets lost. -/
theorem orderly_of_wire (inv : s.Orderly) (calls : t.calls = s.calls) (futures : t.response_futures = s.response_futures)
    (delivered : t.delivered = s.delivered) (way : t.onTheWay.Sublist s.onTheWay)
    (addressed : ∀ entry ∈ t.toClient, s.Addressed entry.1 entry.2) : t.Orderly := by
  have fewer : t.FewerPending s := fewerPending_of_calls calls
  refine ⟨?_, ?_, calls ▸ inv.named, ?_, inv.once.sublist way, ?_, ?_, ?_⟩
  · intro c request_id pending
    rw [futures]
    exact inv.registered c request_id (fewer c request_id pending)
  · intro request_id c has
    rw [calls]
    exact inv.owned request_id c (futures ▸ has)
  · exact fun entry member => addressed_of_fewerPending fewer (addressed entry member)
  · intro c member
    rw [calls]
    exact inv.sent c (way.subset member)
  · intro c call answers response found resolved
    rw [delivered]
    exact inv.resolved c call answers response (calls ▸ found) resolved
  · refine ⟨fun c response member call found => ?_, fun c d call response found => ?_⟩
    · exact inv.correlated.1 c response (delivered ▸ member) call (calls ▸ found)
    · exact inv.correlated.2 c d call response (calls ▸ found)

theorem filterMap_cons_toList {α : Type} (entry : Option Nat × α) (rest : List (Option Nat × α)) :
    (entry :: rest).filterMap Prod.fst = [entry].filterMap Prod.fst ++ rest.filterMap Prod.fst := by
  rw [← List.filterMap_append]
  rfl

/-! ## The client's events -/

theorem calls_send_message {second address : Int} {message : Message} {i : Nat} {d : Call}
    (found : (s.send_message second address message).calls[i]? = some d) :
    s.calls[i]? = some d ∨ i = s.calls.length ∧ d.state = .sending ∧ d.request_id = s!"req_{second}_{address}" := by
  simp only [send_message, List.getElem?_append] at found
  split at found
  · exact Or.inl found
  · obtain ⟨inside, rfl⟩ := List.getElem?_eq_some_iff.mp found
    refine Or.inr ⟨?_, by simp, by simp⟩
    simp only [List.length_singleton] at inside
    omega

theorem send_message_calls {i : Nat} {d : Call} (there : s.calls[i]? = some d) (second address : Int) (message : Message) :
    (s.send_message second address message).calls[i]? = some d :=
  (List.getElem?_append_left (List.getElem?_eq_some_iff.mp there).1).trans there

theorem pending_send_message {second address : Int} {message : Message} {c : Nat} {request_id : String}
    (pending : (s.send_message second address message).Pending c request_id) :
    s.Pending c request_id ∨ c = s.calls.length ∧ request_id = s!"req_{second}_{address}" := by
  obtain ⟨d, there, is_pending, id⟩ := pending
  rcases calls_send_message there with before | ⟨here, _, fresh⟩
  · exact Or.inl ⟨d, before, is_pending, id⟩
  · exact Or.inr ⟨here, id ▸ fresh⟩

/-- Nothing that is on its way belongs to the next call. -/
theorem Orderly.length_notMem_onTheWay (inv : s.Orderly) : s.calls.length ∉ s.onTheWay := by
  intro member
  obtain ⟨d, there, _⟩ := inv.sent _ member
  exact Nat.lt_irrefl _ (List.getElem?_eq_some_iff.mp there).1

theorem orderly_send_message (inv : s.Orderly) {second address : Int} {message : Message}
    (free : s.WellAddressed (.send_message second address message)) : (s.send_message second address message).Orderly := by
  obtain ⟨unused, uncarried⟩ := free
  have not_on_the_way := inv.length_notMem_onTheWay
  refine ⟨?_, ?_, ?_, ?_, inv.once, ?_, ?_, ?_, ?_⟩
  · intro c request_id pending
    simp only [send_message]
    rcases pending_send_message pending with before | ⟨rfl, rfl⟩
    · have apart : s!"req_{second}_{address}" ≠ request_id := by
        rintro rfl
        exact unused c before
      exact (Dict.get?_set_ne _ _ apart).trans (inv.registered c request_id before)
    · exact Dict.get?_set_self ..
  · intro request_id c has
    simp only [send_message, Dict.get?_set] at has
    split at has
    · next same =>
      obtain rfl := Option.some.inj has
      exact ⟨_, List.getElem?_concat_length .., same⟩
    · obtain ⟨d, there, id⟩ := inv.owned request_id c has
      exact ⟨d, send_message_calls there .., id⟩
  · intro d member
    obtain ⟨i, there⟩ := List.getElem?_of_mem member
    rcases calls_send_message there with before | ⟨_, _, fresh⟩
    · exact inv.named d (List.mem_of_getElem? before)
    · rw [fresh]
      intro empty
      have length := congrArg String.length empty
      simp [toString] at length
  · intro entry member
    have before := inv.addressed entry member
    refine ⟨fun c request_id same pending => ?_, fun c request_id pending carried => ?_⟩
    · rcases pending_send_message pending with still | ⟨rfl, _⟩
      · exact before.1 c request_id same still
      · refine absurd (List.mem_append_right _ (List.mem_append_left _ ?_)) not_on_the_way
        exact List.mem_filterMap.mpr ⟨entry, member, same⟩
    · rcases pending_send_message pending with still | ⟨_, rfl⟩
      · exact before.2 c request_id still carried
      · exact absurd carried (uncarried entry member)
  · intro c member
    obtain ⟨d, there, sent⟩ := inv.sent c member
    exact ⟨d, send_message_calls there .., sent⟩
  · intro c call answers response there resolved
    rcases calls_send_message there with before | ⟨_, sending, _⟩
    · exact inv.resolved c call answers response before resolved
    · simp [sending] at resolved
  · intro c response member call there
    rcases calls_send_message there with before | ⟨rfl, _⟩
    · exact inv.correlated.1 c response member call before
    · exact absurd (onTheWay_of_delivered member) not_on_the_way
  · intro c d call response there resolved
    rcases calls_send_message there with before | ⟨_, sending, _⟩
    · exact inv.correlated.2 c d call response before resolved
    · simp [sending] at resolved

theorem orderly_transmit (inv : s.Orderly) (call : Nat) (succeeds : Bool) : (s.transmit call succeeds).Orderly := by
  unfold transmit
  split
  · next request_id message found =>
    cases succeeds with
    | false => exact orderly_failed inv found rfl (Or.inr rfl) rfl ⟨rfl, rfl, rfl, rfl⟩
    | true =>
      have way : ({ s.setState call .waiting with toServer := s.toServer ++ [(some call, message)] } : Bridge).onTheWay = s.onTheWay ++ [call] := by
        simp [onTheWay, setState]
      have fewer : ({ s.setState call .waiting with toServer := s.toServer ++ [(some call, message)] } : Bridge).FewerPending s := by
        rintro c id ⟨d, there, pending, same⟩
        obtain ⟨e, before, same_id, ⟨rfl, _⟩ | ⟨_, rfl⟩⟩ := calls_setState there
        · obtain rfl := Option.some.inj (found.symm.trans before)
          exact ⟨_, found, rfl, same_id.symm.trans same⟩
        · exact ⟨d, before, pending, same⟩
      have unsent : call ∉ s.onTheWay := by
        intro member
        obtain ⟨d, there, sent⟩ := inv.sent call member
        obtain rfl := Option.some.inj (found.symm.trans there)
        exact sent rfl
      refine orderly_setState inv (Or.inl ⟨rfl, unsent⟩) rfl rfl rfl ?_ ?_ fewer (fun c id pending => inv.registered c id (fewer c id pending))
        fun _ _ has => has
      · simp only [↓reduceIte]
        rw [way]
        refine List.nodup_append.mpr ⟨inv.once, List.nodup_singleton call, fun c member d single same => ?_⟩
        exact unsent (List.mem_singleton.mp single ▸ same ▸ member)
      · intro c member
        simp only [↓reduceIte] at member
        rw [way] at member
        rcases List.mem_append.mp member with before | here
        · exact Or.inl before
        · exact Or.inr ⟨List.mem_singleton.mp here, _, found⟩
  · exact inv

theorem orderly_time_out (inv : s.Orderly) (call : Nat) : (s.time_out call).Orderly := by
  unfold time_out
  split
  · next found => exact orderly_failed inv found rfl (Or.inr rfl) rfl ⟨rfl, rfl, rfl, rfl⟩
  · exact inv

theorem orderly_cancel (inv : s.Orderly) (call : Nat) : (s.cancel call).Orderly := by
  unfold cancel
  split
  · exact inv
  · next c found =>
    split
    · next pending => exact orderly_failed inv found pending (Or.inl rfl) rfl ⟨rfl, rfl, rfl, rfl⟩
    · exact inv

/-! ## The server's events -/

theorem orderly_receive (inv : s.Orderly) : s.receive.Orderly := by
  unfold receive
  split
  · next first rest idle queue =>
    have way : ({ s with processing := some first, toServer := rest } : Bridge).onTheWay = s.onTheWay := by
      simp only [onTheWay, idle, queue, Option.toList_none, Option.toList_some]
      rw [filterMap_cons_toList first rest]
      rfl
    exact orderly_of_wire inv rfl rfl rfl (way ▸ List.Sublist.refl _) inv.addressed
  · exact inv

/-- What an echoing handler lets the server answer finds its call. -/
theorem addressed_of_echoes {answers : Option Nat} {message : Message} {info : ServerInfo} {response : Json}
    (echoes : s.Echoes answers message info.message_handler) (answered : process_message message info = some response) :
    s.Addressed answers response := by
  by_cases handled : builtIn message = false ∧ ∃ r, info.message_handler = some (.returns r)
  · obtain ⟨custom, r, returned⟩ := handled
    have same : r = response := by
      simp only [builtIn, Bool.or_eq_false_iff] at custom
      simpa [process_message, custom, returned] using answered
    subst same
    constructor
    · intro c request_id mine still
      obtain ⟨_, nothing | ⟨r', returned', carried⟩⟩ := echoes.1 c request_id mine still
      · simp [returned] at nothing
      · obtain rfl := HandlerOutcome.returns.inj (Option.some.inj (returned.symm.trans returned'))
        exact carried
    · exact echoes.2 r custom returned
  · have uncarried : requestId? response = none :=
      requestId?_process_message answered fun custom r returned => handled ⟨custom, r, returned⟩
    constructor
    · intro c request_id mine still
      obtain ⟨custom, nothing | ⟨r, returned, _⟩⟩ := echoes.1 c request_id mine still
      · simp only [builtIn, Bool.or_eq_false_iff] at custom
        simp [process_message, custom, nothing] at answered
      · exact absurd ⟨custom, r, returned⟩ handled
    · intro c request_id _ carried
      simp [uncarried] at carried

theorem orderly_answer (inv : s.Orderly) {info : ServerInfo} (addressed : s.WellAddressed (.answer info)) : (s.answer info).Orderly := by
  unfold answer
  split
  · exact inv
  · next call message working =>
    split
    · refine orderly_of_wire inv rfl rfl rfl ?_ inv.addressed
      simp only [onTheWay, working, Option.toList_none, List.filterMap_nil, List.nil_append]
      exact ((List.sublist_append_right ..).append_left _).append_left _
    · next response answered =>
      have way : ({ s with processing := none, toClient := s.toClient ++ [(call, response)] } : Bridge).onTheWay = s.onTheWay := by
        simp only [onTheWay, working, Option.toList_none, Option.toList_some, List.filterMap_nil, List.nil_append, List.filterMap_append,
          List.append_assoc]
        cases call with
        | none => rfl
        | some c => rfl
      refine orderly_of_wire inv rfl rfl rfl (way ▸ List.Sublist.refl _) fun entry member => ?_
      rcases List.mem_append.mp member with before | new
      · exact inv.addressed entry before
      · obtain rfl := List.mem_singleton.mp new
        exact addressed_of_echoes (addressed call message working) answered

theorem orderly_push (inv : s.Orderly) {message : Json} (addressed : s.Addressed none message) : (s.push message).Orderly := by
  have way : (s.push message).onTheWay = s.onTheWay := by simp [onTheWay, push]
  refine orderly_of_wire inv rfl rfl rfl (way ▸ List.Sublist.refl _) fun entry member => ?_
  rcases List.mem_append.mp member with before | new
  · exact inv.addressed entry before
  · obtain rfl := List.mem_singleton.mp new
    exact addressed

/-! ## A message that is delivered -/

/-- What is on its way and was delivered. -/
def SameWire (t s : Bridge) : Prop :=
  t.toServer = s.toServer ∧ t.processing = s.processing ∧ t.toClient = s.toClient ∧ t.delivered = s.delivered

/-- What a message does to the calls. -/
inductive Processed (s : Bridge) (answers : Option Nat) (message : Json) (t : Bridge) : Prop
  /-- It belongs to no future. -/
  | unclaimed (calls : t.calls = s.calls) (futures : t.response_futures = s.response_futures)
      (unknown : ∀ request_id, requestId? message = some request_id → request_id ≠ "" → s.response_futures.get? request_id = none)
  /-- It is the result of a pending call. -/
  | claimed (request_id : String) (c : Nat) (call : Call) (carried : requestId? message = some request_id)
      (registered : s.response_futures.get? request_id = some c) (found : s.calls[c]? = some call) (pending : call.isPending = true)
      (calls : t.calls = (s.setState c (.resolved answers message)).calls)
      (futures : t.response_futures = s.response_futures.erase request_id)
  /-- Its future is done. -/
  | late (request_id : String) (c : Nat) (carried : requestId? message = some request_id)
      (registered : s.response_futures.get? request_id = some c) (ended : ∀ call, s.calls[c]? = some call → call.isPending = false)
      (calls : t.calls = s.calls) (futures : t.response_futures = s.response_futures.erase request_id)

theorem forward_same (members : List (String × Json)) :
    (s.forward members).calls = s.calls ∧ (s.forward members).response_futures = s.response_futures ∧ (s.forward members).SameWire s := by
  unfold forward
  split
  · split
    · split
      · exact ⟨rfl, rfl, rfl, rfl, rfl, rfl⟩
      · exact ⟨rfl, rfl, rfl, rfl, rfl, rfl⟩
    · exact ⟨rfl, rfl, rfl, rfl, rfl, rfl⟩
  · exact ⟨rfl, rfl, rfl, rfl, rfl, rfl⟩

theorem process_cases (s : Bridge) (answers : Option Nat) (message : Json) :
    (s.process_incoming_message answers message).SameWire s ∧ s.Processed answers message (s.process_incoming_message answers message) := by
  unfold process_incoming_message
  split
  · next members =>
    obtain ⟨calls, futures, wire⟩ := forward_same (s := s) members
    split
    · next request_id carried =>
      have carries : requestId? (.obj members) = some request_id := requestId?_obj.mpr carried
      split
      · next empty =>
        refine ⟨wire, .unclaimed calls futures fun id same named => ?_⟩
        obtain rfl := Option.some.inj (carries.symm.trans same)
        exact absurd empty named
      · split
        · next unknown =>
          refine ⟨wire, .unclaimed calls futures fun id same _ => ?_⟩
          obtain rfl := Option.some.inj (carries.symm.trans same)
          exact unknown
        · next c registered =>
          dsimp only
          split
          · next pending =>
            obtain ⟨call, found, is_pending⟩ := (Option.any_eq_true ..).mp pending
            exact ⟨⟨rfl, rfl, rfl, rfl⟩, .claimed request_id c call carries registered found is_pending rfl rfl⟩
          · next ended =>
            refine ⟨⟨rfl, rfl, rfl, rfl⟩, .late request_id c carries registered (fun call found => ?_) rfl rfl⟩
            simpa [found] using ended
    · next carried =>
      refine ⟨⟨rfl, rfl, rfl, rfl⟩, .unclaimed rfl rfl fun id same _ => ?_⟩
      cases carried.symm.trans (requestId?_obj.mp same)
    · next carried =>
      refine ⟨⟨rfl, rfl, rfl, rfl⟩, .unclaimed rfl rfl fun id same _ => ?_⟩
      cases carried.symm.trans (requestId?_obj.mp same)
    · next other _ _ =>
      exact ⟨wire, .unclaimed calls futures fun id same _ => absurd (requestId?_obj.mp same) (other id)⟩
  · next other =>
    refine ⟨⟨rfl, rfl, rfl, rfl⟩, .unclaimed rfl rfl fun id same _ => ?_⟩
    cases message with
    | obj members => exact absurd rfl (other members)
    | null | bool _ | number _ | str _ | arr _ => cases same

/-- What holds after a message was delivered to the call that it answers. -/
theorem orderly_delivered (inv : s.Orderly) {answers : Option Nat} {message : Json} {rest : List (Option Nat × Json)}
    (queue : s.toClient = (answers, message) :: rest) (delivered : t.delivered = s.delivered ++ [(answers, message)])
    (wire : t.toServer = s.toServer ∧ t.processing = s.processing ∧ t.toClient = rest)
    (pending : ∀ c request_id, t.Pending c request_id → s.Pending c request_id ∧ t.response_futures.get? request_id = some c)
    (futures : ∀ request_id c, t.response_futures.get? request_id = some c → s.response_futures.get? request_id = some c)
    (calls : ∀ (i : Nat) (d : Call), t.calls[i]? = some d → ∃ e, s.calls[i]? = some e ∧ d.request_id = e.request_id ∧
      (d = e ∨ answers = some i ∧ d.state = .resolved (some i) message))
    (kept : ∀ (i : Nat) (e : Call), s.calls[i]? = some e → ∃ d, t.calls[i]? = some d ∧ d.request_id = e.request_id ∧
      (d = e ∨ d.state = .resolved answers message))
    (answered : ∀ c, answers = some c → ∀ call, t.calls[c]? = some call → call.state = .failed ∨ call.state = .resolved (some c) message) :
    t.Orderly := by
  obtain ⟨toServer, processing, toClient⟩ := wire
  have way : t.onTheWay = s.onTheWay := by
    simp only [onTheWay, toServer, processing, toClient, delivered, queue]
    rw [filterMap_cons_toList (answers, message) rest, List.filterMap_append, List.append_assoc, List.append_assoc]
  have undelivered (c : Nat) (same : answers = some c) : c ∉ s.delivered.filterMap Prod.fst := by
    intro there
    have distinct := inv.once
    simp only [onTheWay, queue, same] at distinct
    exact (List.nodup_append.mp distinct).2.2 c there c (by simp) rfl
  refine ⟨fun c request_id still => (pending c request_id still).2, ?_, ?_, ?_, way ▸ inv.once, ?_, ?_, ?_, ?_⟩
  · intro request_id c has
    obtain ⟨e, there, id⟩ := inv.owned request_id c (futures request_id c has)
    obtain ⟨d, after, same, _⟩ := kept c e there
    exact ⟨d, after, same.trans id⟩
  · intro d member
    obtain ⟨i, there⟩ := List.getElem?_of_mem member
    obtain ⟨e, before, same, _⟩ := calls i d there
    rw [same]
    exact inv.named e (List.mem_of_getElem? before)
  · intro entry member
    refine addressed_of_fewerPending (fun c request_id still => (pending c request_id still).1) (inv.addressed entry ?_)
    rw [queue]
    exact List.mem_cons_of_mem _ (toClient ▸ member)
  · intro c member
    obtain ⟨e, there, sent⟩ := inv.sent c (way ▸ member)
    obtain ⟨d, after, _, rfl | resolved⟩ := kept c e there
    · exact ⟨d, after, sent⟩
    · exact ⟨d, after, by simp [resolved]⟩
  · intro c d other response there resolved
    rw [delivered, List.filterMap_append]
    obtain ⟨e, before, _, rfl | ⟨same, _⟩⟩ := calls c d there
    · exact List.mem_append_left _ (inv.resolved c d other response before resolved)
    · exact List.mem_append_right _ (by simp [same])
  · intro c response member d there
    rw [delivered] at member
    rcases List.mem_append.mp member with old | new
    · obtain ⟨e, before, _, rfl | ⟨same, _⟩⟩ := calls c d there
      · exact inv.correlated.1 c response old d before
      · have there : c ∈ s.delivered.filterMap Prod.fst := List.mem_filterMap.mpr ⟨(some c, response), old, rfl⟩
        exact absurd there (undelivered c same)
    · obtain ⟨same, rfl⟩ := Prod.mk.inj (List.mem_singleton.mp new)
      exact answered c same.symm d there
  · intro c j d response there resolved
    obtain ⟨e, before, _, rfl | ⟨_, result⟩⟩ := calls c d there
    · exact inv.correlated.2 c j d response before resolved
    · rw [result] at resolved
      exact (Option.some.inj (CallState.resolved.inj resolved).1).symm

/-- The response to a call that is no longer pending comes to one that was given up. -/
theorem failed_of_response (inv : s.Orderly) {c : Nat} {message : Json} {rest : List (Option Nat × Json)} (queue : s.toClient = (some c, message) :: rest)
    {call : Call} (found : s.calls[c]? = some call) (ended : call.isPending = false) : call.state = .failed := by
  cases state : call.state with
  | sending => simp [Call.isPending, state] at ended
  | waiting => simp [Call.isPending, state] at ended
  | failed => rfl
  | resolved before response =>
    have there := inv.resolved c call before response found state
    have distinct := inv.once
    simp only [onTheWay, queue] at distinct
    exact absurd rfl ((List.nodup_append.mp distinct).2.2 c there c (by simp))

section
variable {answers : Option Nat} {message : Json} {rest : List (Option Nat × Json)} (inv : s.Orderly) (queue : s.toClient = (answers, message) :: rest)
  (delivered : t.delivered = s.delivered ++ [(answers, message)]) (wire : t.toServer = s.toServer ∧ t.processing = s.processing ∧ t.toClient = rest)
include inv queue delivered wire

/-- A pending call keeps its future, and its response would have found it. -/
theorem orderly_passed (calls : t.calls = s.calls)
    (registered : ∀ c request_id, s.Pending c request_id → t.response_futures.get? request_id = some c)
    (futures : ∀ request_id c, t.response_futures.get? request_id = some c → s.response_futures.get? request_id = some c)
    (missed : ∀ c request_id, s.Pending c request_id → requestId? message ≠ some request_id) : t.Orderly := by
  have addressed : s.Addressed answers message := inv.addressed (answers, message) (queue ▸ List.mem_cons_self)
  have fewer : t.FewerPending s := fewerPending_of_calls calls
  refine orderly_delivered inv queue delivered wire ?_ futures ?_ ?_ ?_
  · exact fun c request_id still => ⟨fewer c request_id still, registered c request_id (fewer c request_id still)⟩
  · exact fun i d there => ⟨d, calls ▸ there, rfl, Or.inl rfl⟩
  · exact fun i e there => ⟨e, calls ▸ there, rfl, Or.inl rfl⟩
  · rintro c rfl call found
    rw [calls] at found
    cases ended : call.isPending with
    | false => exact Or.inl (failed_of_response inv queue found ended)
    | true =>
      have still : s.Pending c call.request_id := ⟨call, found, ended, rfl⟩
      exact absurd (addressed.1 c _ rfl still) (missed c _ still)

theorem orderly_unclaimed (calls : t.calls = s.calls) (futures : t.response_futures = s.response_futures)
    (unknown : ∀ request_id, requestId? message = some request_id → request_id ≠ "" → s.response_futures.get? request_id = none) : t.Orderly := by
  refine orderly_passed inv queue delivered wire calls ?_ (fun request_id c has => futures ▸ has) fun c request_id still carried => ?_
  · intro c request_id still
    rw [futures]
    exact inv.registered c request_id still
  · have registered := inv.registered c request_id still
    obtain ⟨call, found, _, rfl⟩ := still
    have named := inv.named call (List.mem_of_getElem? found)
    exact absurd (registered.symm.trans (unknown _ carried named)) (Option.some_ne_none c)

theorem orderly_late {request_id : String} {c : Nat} (carried : requestId? message = some request_id)
    (registered : s.response_futures.get? request_id = some c) (ended : ∀ call, s.calls[c]? = some call → call.isPending = false)
    (calls : t.calls = s.calls) (futures : t.response_futures = s.response_futures.erase request_id) : t.Orderly := by
  have apart (j : Nat) (id : String) (still : s.Pending j id) : request_id ≠ id := by
    rintro rfl
    obtain rfl := Option.some.inj (registered.symm.trans (inv.registered j request_id still))
    obtain ⟨call, found, pending, _⟩ := still
    exact absurd (ended call found) (by simp [pending])
  refine orderly_passed inv queue delivered wire calls ?_ (fun id j has => Dict.get?_of_erase (futures ▸ has)) fun j id still carries => ?_
  · intro j id still
    rw [futures, Dict.get?_erase_ne _ (apart j id still)]
    exact inv.registered j id still
  · exact apart j id still (Option.some.inj (carried.symm.trans carries))

theorem orderly_claimed {request_id : String} {c : Nat} {call : Call} (carried : requestId? message = some request_id)
    (registered : s.response_futures.get? request_id = some c) (found : s.calls[c]? = some call) (pending : call.isPending = true)
    (calls : t.calls = (s.setState c (.resolved answers message)).calls) (futures : t.response_futures = s.response_futures.erase request_id) :
    t.Orderly := by
  have addressed : s.Addressed answers message := inv.addressed (answers, message) (queue ▸ List.mem_cons_self)
  have id : call.request_id = request_id := by
    obtain ⟨owner, there, id⟩ := inv.owned request_id c registered
    obtain rfl := Option.some.inj (found.symm.trans there)
    exact id
  have mine : answers = some c := addressed.2 c request_id ⟨call, found, pending, id⟩ carried
  have known {i : Nat} {d : Call} (there : t.calls[i]? = some d) : ∃ e, s.calls[i]? = some e ∧ d.request_id = e.request_id ∧
      (i = c ∧ d.state = .resolved answers message ∨ i ≠ c ∧ d = e) := calls_setState (calls ▸ there)
  have others {j : Nat} {other : String} (still : t.Pending j other) : j ≠ c ∧ s.Pending j other := by
    obtain ⟨d, there, d_pending, same⟩ := still
    obtain ⟨e, before, _, ⟨_, resolved⟩ | ⟨apart, rfl⟩⟩ := known there
    · simp [Call.isPending, resolved] at d_pending
    · exact ⟨apart, d, before, d_pending, same⟩
  refine orderly_delivered inv queue delivered wire ?_ (fun other j has => Dict.get?_of_erase (futures ▸ has)) ?_ ?_ ?_
  · intro j other still
    obtain ⟨apart, before⟩ := others still
    have its_own := inv.registered j other before
    have other_id : request_id ≠ other := by
      rintro rfl
      exact apart (Option.some.inj (its_own.symm.trans registered))
    refine ⟨before, ?_⟩
    rw [futures, Dict.get?_erase_ne _ other_id]
    exact its_own
  · intro i d there
    obtain ⟨e, before, same, ⟨rfl, resolved⟩ | ⟨_, rfl⟩⟩ := known there
    · exact ⟨e, before, same, Or.inr ⟨mine, mine ▸ resolved⟩⟩
    · exact ⟨d, before, rfl, Or.inl rfl⟩
  · intro i e there
    obtain ⟨d, after, same, ⟨_, resolved⟩ | ⟨_, rfl⟩⟩ := setState_calls there c (.resolved answers message)
    · exact ⟨d, calls ▸ after, same, Or.inr resolved⟩
    · exact ⟨d, calls ▸ after, rfl, Or.inl rfl⟩
  · intro j same d there
    obtain rfl := Option.some.inj (mine.symm.trans same)
    obtain ⟨e, _, _, ⟨_, resolved⟩ | ⟨apart, _⟩⟩ := known there
    · exact Or.inr (mine ▸ resolved)
    · exact absurd rfl apart

end

theorem orderly_deliver (inv : s.Orderly) : s.deliver.Orderly := by
  unfold deliver
  split
  · exact inv
  · next answers message rest queue =>
    obtain ⟨⟨toServer, processing, toClient, delivered⟩, processed⟩ :=
      process_cases { s with toClient := rest, delivered := s.delivered ++ [(answers, message)] } answers message
    cases processed with
    | unclaimed calls futures unknown => exact orderly_unclaimed inv queue delivered ⟨toServer, processing, toClient⟩ calls futures unknown
    | late request_id c carried registered ended calls futures =>
      exact orderly_late inv queue delivered ⟨toServer, processing, toClient⟩ carried registered ended calls futures
    | claimed request_id c call carried registered found pending calls futures =>
      exact orderly_claimed inv queue delivered ⟨toServer, processing, toClient⟩ carried registered found pending calls futures

/-! ## Every event -/

theorem orderly_step (inv : s.Orderly) (event : Event) (addressed : s.WellAddressed event) : (s.step event).Orderly := by
  cases event with
  | send_message second address message => exact orderly_send_message inv addressed
  | transmit call succeeds => exact orderly_transmit inv call succeeds
  | send_plain message =>
    refine orderly_of_wire inv rfl rfl rfl ?_ inv.addressed
    simp [step, send_plain, onTheWay]
  | time_out call => exact orderly_time_out inv call
  | cancel call => exact orderly_cancel inv call
  | receive => exact orderly_receive inv
  | answer info => exact orderly_answer inv addressed
  | push message => exact orderly_push inv addressed
  | deliver => exact orderly_deliver inv

/-- While messages carry the identifiers of the calls that they answer and no identifier is given twice at
    a time, every response that is delivered is the result of its own call. -/
theorem correlated_of_wellAddressed (events : List Event) (addressed : Along step WellAddressed {} events) :
    Throughout step Correlated {} events := by
  have start : Orderly {} := by
    refine ⟨?_, ?_, by simp, by simp, List.nodup_nil, by simp [onTheWay], by simp, by simp [Correlated]⟩
    · rintro c request_id ⟨call, found, _⟩
      simp at found
    · intro request_id c has
      simp at has
  have keeps (s : Bridge) (event : Event) (inv : s.Orderly) (addressed : s.WellAddressed event) : (s.step event).Orderly :=
    orderly_step inv event addressed
  exact throughout_mono (fun _ inv => inv.correlated) (throughout_keeps keeps start addressed)

/-- Between two calls with the same message the server sends a heartbeat. The second call is answered
    by a handler that echoes its identifier, after the first was given up. -/
theorem correlated_echoed_calls : Throughout step Correlated {}
    [.send_message 5 7 (Dict.ofList [("type", .str "run")]), .transmit 0 true, .push (.obj [("type", .str "heartbeat")]),
      .send_message 6 7 (Dict.ofList [("type", .str "run")]), .transmit 1 true, .receive, .time_out 0,
      .answer ⟨"c", "8", .null, .null, some (.returns (.obj [("request_id", .str "req_5_7")])), "run"⟩, .deliver, .deliver, .receive,
      .answer ⟨"c", "9", .null, .null, some (.returns (.obj [("request_id", .str "req_6_7")])), "run"⟩, .deliver] := by
  refine correlated_of_wellAddressed _ ⟨?_, trivial, ?_, ?_, trivial, trivial, trivial, ?_, trivial, trivial, trivial, ?_, trivial, trivial⟩
  · refine ⟨?_, fun entry member => absurd member (by simp)⟩
    rintro c ⟨call, found, _⟩
    cases found
  · refine ⟨?_, ?_⟩
    · intro c request_id mine
      cases mine
    · intro c request_id _ carried
      cases carried
  · refine ⟨?_, ?_⟩
    · rintro c ⟨call, found, _, named⟩
      cases c with
      | zero =>
        obtain rfl := Option.some.inj found
        exact absurd named (by decide)
      | succ c => cases found
    · intro entry member
      obtain rfl := List.mem_singleton.mp member
      exact nofun
  · rintro answers message working
    obtain ⟨rfl, rfl⟩ := Prod.mk.inj (Option.some.inj working)
    constructor
    · rintro c request_id mine ⟨call, found, pending, _⟩
      obtain rfl := Option.some.inj mine
      obtain rfl := Option.some.inj found
      cases pending
    · rintro response _ returned c request_id ⟨call, found, pending, named⟩ carried
      obtain rfl := HandlerOutcome.returns.inj (Option.some.inj returned)
      obtain rfl := Option.some.inj carried
      rcases c with _ | _ | c
      · obtain rfl := Option.some.inj found
        cases pending
      · obtain rfl := Option.some.inj found
        exact absurd named (by decide)
      · cases found
  · rintro answers message working
    obtain ⟨rfl, rfl⟩ := Prod.mk.inj (Option.some.inj working)
    constructor
    · rintro c request_id mine ⟨call, found, _, named⟩
      obtain rfl := Option.some.inj mine
      obtain rfl := Option.some.inj found
      subst named
      exact ⟨by decide, Or.inr ⟨_, rfl, by decide⟩⟩
    · rintro response _ _ c request_id ⟨call, found, pending, _⟩ _
      rcases c with _ | _ | c
      · obtain rfl := Option.some.inj found
        cases pending
      · rfl
      · cases found

/-- The server's answer to a ping carries no identifier, and the call waits on. -/
theorem ping_unanswered : ¬Throughout step Correlated {}
    [.send_message 5 7 (Dict.ofList [("type", .str "ping")]), .transmit 0 true, .receive,
      .answer ⟨"c", "6", .null, .null, none, "ping"⟩, .deliver] := by
  intro throughout
  have correlated := (throughout_last throughout).1
  have ended := correlated 0 (.obj [("type", .str "pong"), ("data", .obj [("timestamp", .number "6"), ("connection_id", .str "c")])])
    (List.mem_singleton.mpr rfl) _ rfl
  rcases ended with failed | resolved
  · cases failed
  · cases resolved

end Bridge
end RevitPy.WebSocket
