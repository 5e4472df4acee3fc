import Mathlib.Data.List.Range
import RevitPy.Dict
import RevitPy.Runs

/-!
# The message queues of the development server

Each client has a queue of messages, and at most one loop that takes batches out of it
and sends them. A call of `send` runs until the loop it starts awaits, and what comes
after an await is a step of its own. A message carries here besides which of the calls
for its client it comes from.
-/

namespace RevitPy.DevServer

variable {μ : Type}

def batchSize : Nat := 100
def maxQueueSize : Nat := 1000

/-- A message and the number of the call that sent it to the client. -/
structure Posted (μ : Type) where
  call : Nat
  message : μ
  deriving DecidableEq

/-- What the loop of a client awaits. -/
inductive Awaited
  | sendMessageBatch
  | batchTimeout
  deriving DecidableEq

/-- What the service keeps under the id of a client, in `clients` and in `messageQueue`. -/
structure Client (μ : Type) where
  /-- `client.websocket.readyState === WebSocket.OPEN` -/
  isOpen : Bool := true
  messages : List (Posted μ) := []
  processing : Bool := false
  awaits : Option Awaited := none
  /-- What was handed to `websocket.send`. -/
  sent : List (Posted μ) := []
  /-- The queue at each warning that it is full. -/
  overflows : List (List (Posted μ)) := []
  /-- How often something was sent to the client. -/
  calls : Nat := 0

namespace Client

/-- `sendMessageBatch` -/
def sendMessageBatch (client : Client μ) (batch : List (Posted μ)) : Client μ :=
  if client.isOpen then { client with sent := client.sent ++ batch } else client

/-- The loop, from its condition to the next await or to its end. -/
def iterate (client : Client μ) : Client μ :=
  if client.messages.length > 0 then
    let batch := client.messages.take batchSize
    let client := { client with messages := client.messages.drop batchSize }
    { client.sendMessageBatch batch with awaits := some .sendMessageBatch }
  else { client with processing := false, awaits := none }

def processMessageQueue (client : Client μ) : Client μ :=
  if client.processing then client else { client with processing := true }.iterate

/-- The queue loses its oldest message where it is full. -/
def makeRoom (client : Client μ) : Client μ :=
  if client.messages.length ≥ maxQueueSize then
    { client with messages := client.messages.drop 1, overflows := client.overflows ++ [client.messages] }
  else client

def queueMessage (client : Client μ) (message : μ) : Client μ :=
  let client := client.makeRoom
  let client := { client with messages := client.messages ++ [⟨client.calls, message⟩], calls := client.calls + 1 }
  if client.processing then client else client.processMessageQueue

def send (client : Client μ) (message : μ) : Client μ :=
  if client.isOpen then client.queueMessage message else client

/-- What the loop awaits is done. -/
def resume (client : Client μ) : Client μ :=
  match client.awaits with
  | none => client
  | some .sendMessageBatch =>
    if client.messages.length > 0 then { client with awaits := some .batchTimeout } else client.iterate
  | some .batchTimeout => client.iterate

end Client

/-- The clients. A loop of a client that is gone goes on with a queue that nothing else holds. -/
abbrev CommunicationService (μ : Type) := Dict String (Client μ)

inductive Event (μ : Type)
  | connect (clientId : String)
  /-- The socket is no longer open. -/
  | close (clientId : String)
  | cleanupClient (clientId : String)
  | send (clientId : String) (message : μ)
  | broadcast (message : μ)
  | resume (clientId : String)

namespace CommunicationService

/-- What is done to one client, if there is one. -/
def update (service : CommunicationService μ) (clientId : String) (change : Client μ → Client μ) : CommunicationService μ :=
  match service.get? clientId with
  | none => service
  | some client => service.set clientId (change client)

def send (service : CommunicationService μ) (clientId : String) (message : μ) : CommunicationService μ :=
  update service clientId (·.send message)

def broadcast (service : CommunicationService μ) (message : μ) : CommunicationService μ :=
  service.keys.foldl (fun service clientId => service.send clientId message) service

def step (service : CommunicationService μ) : Event μ → CommunicationService μ
  | .connect clientId => if service.contains clientId then service else service.set clientId {}
  | .close clientId => update service clientId fun client => { client with isOpen := false }
  | .cleanupClient clientId => service.erase clientId
  | .send clientId message => service.send clientId message
  | .broadcast message => service.broadcast message
  | .resume clientId => update service clientId Client.resume

end CommunicationService

/-- The messages that a run sends to a client. -/
def sentTo (clientId : String) : List (Event μ) → List μ
  | [] => []
  | .send other message :: rest => if other = clientId then message :: sentTo clientId rest else sentTo clientId rest
  | .broadcast message :: rest => message :: sentTo clientId rest
  | _ :: rest => sentTo clientId rest

/-- The socket stays open. -/
def StaysOpen (clientId : String) (events : List (Event μ)) : Prop :=
  ∀ event ∈ events, event ≠ .close clientId ∧ event ≠ .cleanupClient clientId

namespace Client

/-- The messages that were dropped. -/
def dropped (client : Client μ) : List (Posted μ) := client.overflows.flatMap (·.take 1)

/-- What was sent to a client was handed to its socket in order, or is in the queue behind that, or was dropped. -/
structure Accounted (calls : List μ) (client : Client μ) : Prop where
  isOpen : client.isOpen = true
  counted : client.calls = calls.length
  posted : ∀ p ∈ client.sent ++ client.messages ++ client.dropped, calls[p.call]? = some p.message
  ordered : (client.sent ++ client.messages).Pairwise fun p q => p.call < q.call
  each : ((client.sent ++ client.messages ++ client.dropped).map (·.call)).Perm (List.range calls.length)
  bounded : client.messages.length ≤ maxQueueSize
  full : ∀ queue ∈ client.overflows, queue.length = maxQueueSize

/-- In addition, a queue is processed by a loop that awaits, or it is empty. -/
structure Fifo (calls : List μ) (client : Client μ) : Prop extends Accounted calls client where
  working : client.processing = client.awaits.isSome
  idle : client.processing = false → client.messages = []

variable {calls : List μ} {client : Client μ}

theorem connected : Fifo ([] : List μ) {} where
  isOpen := rfl
  counted := rfl
  posted := by simp [dropped]
  ordered := .nil
  each := .refl _
  bounded := Nat.zero_le _
  full := by simp
  working := rfl
  idle _ := rfl

/-- The account does not depend on where the queue is cut. -/
theorem Accounted.of_same {after : Client μ} (accounted : client.Accounted calls) (isOpen : after.isOpen = client.isOpen)
    (counted : after.calls = client.calls) (same : after.sent ++ after.messages = client.sent ++ client.messages)
    (overflows : after.overflows = client.overflows) (shorter : after.messages.length ≤ client.messages.length) :
    after.Accounted calls := by
  have dropped : after.dropped = client.dropped := by rw [Client.dropped, Client.dropped, overflows]
  constructor
  · rw [isOpen, accounted.isOpen]
  · rw [counted, accounted.counted]
  · rw [same, dropped]
    exact accounted.posted
  · rw [same]
    exact accounted.ordered
  · rw [same, dropped]
    exact accounted.each
  · exact shorter.trans accounted.bounded
  · rw [overflows]
    exact accounted.full

/-- An iteration of the loop sends a batch, or ends the loop with an empty queue. -/
theorem iterate_fifo (accounted : client.Accounted calls) (processing : client.processing = true) : client.iterate.Fifo calls := by
  have opened := accounted.isOpen
  unfold iterate
  split
  · refine ⟨accounted.of_same ?_ ?_ ?_ ?_ ?_, ?_, ?_⟩ <;> simp [sendMessageBatch, opened, processing]
  · rename_i none
    have empty : client.messages = [] := List.eq_nil_of_length_eq_zero (by omega)
    exact ⟨accounted.of_same rfl rfl rfl rfl (Nat.le_refl _), rfl, fun _ => empty⟩

theorem makeRoom_accounted (accounted : client.Accounted calls) :
    client.makeRoom.Accounted calls ∧ client.makeRoom.messages.length < maxQueueSize := by
  obtain ⟨isOpen, counted, posted, ordered, each, bounded, full⟩ := accounted
  unfold makeRoom
  split
  · rename_i held
    have length : client.messages.length = maxQueueSize := by omega
    cases queue : client.messages with
    | nil => simp [queue, maxQueueSize] at held
    | cons oldest rest =>
      rw [queue] at posted ordered each length
      -- the oldest message goes from the queue to those that were dropped
      have moved : (client.sent ++ rest ++ (client.dropped ++ [oldest])).Perm (client.sent ++ oldest :: rest ++ client.dropped) := by
        simp only [List.append_assoc, List.cons_append]
        refine List.Perm.append_left _ ?_
        rw [← List.append_assoc]
        exact List.perm_append_singleton _ _
      have dropped : (client.overflows ++ [oldest :: rest]).flatMap (·.take 1) = client.dropped ++ [oldest] := by
        simp [Client.dropped]
      refine ⟨⟨isOpen, counted, ?_, ?_, ?_, ?_, ?_⟩, ?_⟩
      · rw [Client.dropped, dropped]
        exact fun p member => posted p (moved.mem_iff.mp member)
      · exact ordered.sublist (List.Sublist.append_left (List.sublist_cons_self _ _) _)
      · rw [Client.dropped, dropped]
        exact (moved.map _).trans each
      · simp only [List.length_cons] at length
        simp only [List.drop_succ_cons, List.drop_zero]
        omega
      · simpa [or_imp, forall_and] using ⟨full, length⟩
      · simp only [List.length_cons] at length
        simp only [List.drop_succ_cons, List.drop_zero]
        omega
  · rename_i room
    exact ⟨⟨isOpen, counted, posted, ordered, each, bounded, full⟩, by omega⟩

theorem push_accounted (accounted : client.Accounted calls) (room : client.messages.length < maxQueueSize) (message : μ) :
    Accounted (calls ++ [message])
      { client with messages := client.messages ++ [⟨client.calls, message⟩], calls := client.calls + 1 } := by
  obtain ⟨isOpen, counted, posted, ordered, each, bounded, full⟩ := accounted
  have before : ∀ p ∈ client.sent ++ client.messages ++ client.dropped, p.call < calls.length := fun p member =>
    (List.getElem?_eq_some_iff.mp (posted p member)).1
  let newest : Posted μ := ⟨client.calls, message⟩
  have last : (client.sent ++ (client.messages ++ [newest]) ++ client.dropped).Perm
      (client.sent ++ client.messages ++ client.dropped ++ [newest]) := by
    simp only [List.append_assoc]
    exact List.Perm.append_left _ (List.Perm.append_left _ List.perm_append_comm)
  constructor
  · exact isOpen
  · simp [counted]
  · intro p member
    rcases List.mem_append.mp (last.mem_iff.mp member) with member | member
    · rw [List.getElem?_append_left (before p member)]
      exact posted p member
    · rw [List.mem_singleton.mp member]
      simp [newest, counted]
  · rw [← List.append_assoc, List.pairwise_append]
    refine ⟨ordered, List.pairwise_singleton _ _, fun p member q last => ?_⟩
    rw [List.mem_singleton.mp last]
    exact Nat.lt_of_lt_of_eq (before p (List.mem_append_left _ member)) counted.symm
  · refine (last.map _).trans ?_
    rw [List.map_append, List.length_append, List.length_singleton, List.range_succ, ← counted]
    rw [← counted] at each
    exact each.append_right _
  · simp only [List.length_append, List.length_singleton]
    omega
  · exact full

theorem queueMessage_fifo (fifo : client.Fifo calls) (message : μ) : (client.queueMessage message).Fifo (calls ++ [message]) := by
  have kept : client.makeRoom.processing = client.processing ∧ client.makeRoom.awaits = client.awaits := by
    unfold makeRoom
    split <;> exact ⟨rfl, rfl⟩
  obtain ⟨roomy, room⟩ := makeRoom_accounted fifo.toAccounted
  have pushed := push_accounted roomy room message
  unfold queueMessage
  cases processing : client.makeRoom.processing with
  | true =>
    rw [if_pos processing]
    refine ⟨pushed, ?_, fun stopped => ?_⟩
    · exact kept.1.trans (fifo.working.trans (by rw [kept.2]))
    · exact absurd (processing.symm.trans stopped) (by simp)
  | false =>
    rw [if_neg (by simp [processing]), processMessageQueue, if_neg (by simp [processing])]
    exact iterate_fifo (pushed.of_same rfl rfl rfl rfl (Nat.le_refl _)) rfl

theorem send_fifo (fifo : client.Fifo calls) (message : μ) : (client.send message).Fifo (calls ++ [message]) := by
  rw [send, if_pos fifo.isOpen]
  exact queueMessage_fifo fifo message

theorem resume_fifo (fifo : client.Fifo calls) : client.resume.Fifo calls := by
  have working := fifo.working
  unfold resume
  split
  · exact fifo
  · rename_i awaits
    rw [awaits] at working
    split
    · exact ⟨fifo.of_same rfl rfl rfl rfl (Nat.le_refl _), working, fifo.idle⟩
    · exact iterate_fifo fifo.toAccounted working
  · rename_i awaits
    rw [awaits] at working
    exact iterate_fifo fifo.toAccounted working

end Client

/-! ## Runs -/

namespace CommunicationService

variable {service : CommunicationService μ} {c : String} {client : Client μ} {calls : List μ}

theorem get?_update (service : CommunicationService μ) (other : String) (change : Client μ → Client μ) (c : String) :
    (update service other change).get? c = if other = c then (service.get? c).map change else service.get? c := by
  unfold update
  by_cases same : other = c
  · subst same
    cases found : service.get? other with
    | none => simp [found]
    | some client => simp
  · cases found : service.get? other with
    | none => simp [same]
    | some client => simp [same, Dict.get?_set_ne _ _ same]

/-- A broadcast is one `send` to each client. -/
theorem get?_broadcast (service : CommunicationService μ) (message : μ) (c : String) :
    (service.broadcast message).get? c = (service.get? c).map (·.send message) := by
  have each (ids : List String) (distinct : ids.Nodup) (s : CommunicationService μ) :
      (ids.foldl (fun s id => s.send id message) s).get? c = if c ∈ ids then (s.get? c).map (·.send message) else s.get? c := by
    induction ids generalizing s with
    | nil => rfl
    | cons id rest ih =>
      obtain ⟨fresh, distinct⟩ := List.nodup_cons.mp distinct
      rw [List.foldl_cons, ih distinct, send, get?_update]
      by_cases here : id = c
      · subst here
        simp [fresh]
      · simp [here, Ne.symm here]
  rw [broadcast, each service.keys service.keys_nodup]
  split
  · rfl
  · rename_i absent
    rw [(service.get?_none_iff c).mpr absent]
    rfl

/-- What a step does to a client whose socket stays open. -/
theorem step_fifo (found : service.get? c = some client) (fifo : client.Fifo calls) {event : Event μ}
    (open_ : event ≠ .close c ∧ event ≠ .cleanupClient c) :
    ∃ after : Client μ, (service.step event).get? c = some after ∧ after.Fifo (calls ++ sentTo c [event]) := by
  have silent {s : CommunicationService μ} (same : s.get? c = service.get? c) :
      ∃ after : Client μ, s.get? c = some after ∧ after.Fifo (calls ++ []) :=
    ⟨client, same.trans found, by rwa [List.append_nil]⟩
  cases event with
  | connect id =>
    refine silent ?_
    simp only [step]
    split
    · rfl
    · rename_i unknown
      refine Dict.get?_set_ne _ _ fun same => unknown ?_
      subst same
      simpa [Dict.contains] using Dict.mem_keys_of_get? found
  | close id =>
    have other : id ≠ c := fun same => open_.1 (by rw [same])
    exact silent (by rw [step, get?_update, if_neg other])
  | cleanupClient id =>
    have other : id ≠ c := fun same => open_.2 (by rw [same])
    exact silent (Dict.get?_erase_ne _ other)
  | send id message =>
    rw [step, send, get?_update]
    by_cases here : id = c
    · refine ⟨client.send message, by simp [here, found], ?_⟩
      simpa [sentTo, here] using Client.send_fifo fifo message
    · exact ⟨client, by simp [here, found], by simpa [sentTo, here] using fifo⟩
  | broadcast message =>
    refine ⟨client.send message, by rw [step, get?_broadcast, found]; rfl, ?_⟩
    simpa [sentTo] using Client.send_fifo fifo message
  | resume id =>
    rw [step, get?_update]
    by_cases here : id = c
    · refine ⟨client.resume, by simp [here, found], ?_⟩
      simpa [sentTo] using Client.resume_fifo fifo
    · exact ⟨client, by simp [here, found], by simpa [sentTo] using fifo⟩

theorem sentTo_cons (c : String) (event : Event μ) (rest : List (Event μ)) :
    sentTo c (event :: rest) = sentTo c [event] ++ sentTo c rest := by
  cases event with
  | send id message => by_cases here : id = c <;> simp [sentTo, here]
  | broadcast message => rfl
  | connect id | close id | cleanupClient id | resume id => rfl

theorem run_fifo (found : service.get? c = some client) (fifo : client.Fifo calls) {events : List (Event μ)}
    (stays : StaysOpen c events) :
    ∃ after : Client μ, (events.foldl step service).get? c = some after ∧ after.Fifo (calls ++ sentTo c events) := by
  induction events generalizing service client calls with
  | nil => exact ⟨client, found, by simpa [sentTo] using fifo⟩
  | cons event rest ih =>
    obtain ⟨next, found, fifo⟩ := step_fifo found fifo (stays event (.head _))
    rw [sentTo_cons, ← List.append_assoc]
    exact ih found fifo fun event member => stays event (.tail _ member)

/-- While the socket of a client stays open, its messages are handed to it in the order of the calls,
    and the others are in its queue or were the oldest of a full one. -/
theorem messages_in_order {service : CommunicationService μ} {c : String} (unknown : service.get? c = none)
    {events : List (Event μ)} (stays : StaysOpen c events) :
    ∃ client : Client μ, (events.foldl step (service.step (.connect c))).get? c = some client ∧
      client.Fifo (sentTo c events) := by
  have absent : service.contains c = false := by
    simpa [Dict.contains] using (service.get?_none_iff c).mp unknown
  have found : (service.step (.connect c)).get? c = some {} := by
    rw [step, if_neg (by simp [absent]), Dict.get?_set, if_pos rfl]
  simpa using run_fifo found Client.connected stays

/-- A client that is welcomed, and gets a broadcast while its loop awaits. -/
theorem welcome_in_order :
    ∃ client : Client String, ([Event.send "c1" "welcome", .connect "c2", .broadcast "reload", .resume "c1"].foldl step
        (step ∅ (.connect "c1"))).get? "c1" = some client ∧ client.Fifo ["welcome", "reload"] :=
  messages_in_order rfl (by simp [StaysOpen])

end CommunicationService

end RevitPy.DevServer
