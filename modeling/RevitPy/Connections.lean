import Mathlib.Data.Finset.Basic
import RevitPy.Dict
import RevitPy.Runs

/-!
# The connections of the development server

The service keeps its clients, their subscriptions and their message queues under the ids of
the clients, and counts the connections. A client leaves when its socket closes, or before
that when the server disconnects it; its messages go on arriving until the socket has closed.
What the queues hold is not looked at here, only whether there is one.
-/

namespace RevitPy.DevServer.Connections

/-- `WebSocket.readyState` of a socket that has not closed. -/
inductive ReadyState
  | OPEN
  | CLOSING
  deriving DecidableEq

structure Client where
  /-- In milliseconds. -/
  lastActivity : Int

structure ClientSubscription where
  channels : Finset String := ∅
  filters : Finset String := ∅

inductive Handler
  | ping
  | subscribe
  | unsubscribe
  /-- Any other handler. What it calls on the service is a step of its own. -/
  | registered

/-- What arrives from a socket. -/
structure Received where
  /-- It is JSON with a type and a timestamp. -/
  valid : Bool
  type : String
  /-- `message.data.channel`, empty where there is none. -/
  channel : String := ""
  /-- Whether a registered handler raises. -/
  raises : Bool := false

structure ConnectionStats where
  totalConnections : Nat := 0
  activeConnections : Int := 0
  messagesReceived : Nat := 0

structure CommunicationService where
  clients : Dict String Client := ∅
  subscriptions : Dict String ClientSubscription := ∅
  messageHandlers : Dict String Handler := .ofList [("ping", .ping), ("subscribe", .subscribe), ("unsubscribe", .unsubscribe)]
  /-- The ids that have a queue. -/
  messageQueue : Finset String := ∅
  connectionStats : ConnectionStats := {}
  /-- The sockets that have not closed. -/
  sockets : Dict String ReadyState := ∅

def connectionTimeout : Int := 30000

namespace CommunicationService
variable (service : CommunicationService) (clientId : String)

def isOpen : Bool := service.sockets.get? clientId = some .OPEN

/-- `queueMessage` makes the queue of an open client, and `send` raises for one that is not there. -/
def send : CommunicationService :=
  if service.clients.contains clientId && service.isOpen clientId then
    { service with messageQueue := insert clientId service.messageQueue }
  else service

def broadcast : CommunicationService := service.clients.keys.foldl send service

def touch (now : Int) : CommunicationService :=
  if service.clients.contains clientId then { service with clients := service.clients.set clientId ⟨now⟩ } else service

/-- A change of the subscription of a client, which is made where there is none. -/
def subscription (change : ClientSubscription → ClientSubscription) : CommunicationService :=
  { service with subscriptions := service.subscriptions.set clientId (change (service.subscriptions.getD clientId {})) }

def subscribe (channel : String) : CommunicationService :=
  service.subscription clientId fun s => { s with channels := insert channel s.channels }

def addFilter (filter : String) : CommunicationService :=
  service.subscription clientId fun s => { s with filters := insert filter s.filters }

/-- A change of the subscription of a client that has one. -/
def narrow (change : ClientSubscription → ClientSubscription) : CommunicationService :=
  match service.subscriptions.get? clientId with
  | none => service
  | some s => { service with subscriptions := service.subscriptions.set clientId (change s) }

def unsubscribe (channel : String) : CommunicationService :=
  service.narrow clientId fun s => { s with channels := s.channels.erase channel }

def removeFilter (filter : String) : CommunicationService :=
  service.narrow clientId fun s => { s with filters := s.filters.erase filter }

def cleanupClient : CommunicationService :=
  { service with
    clients := service.clients.erase clientId
    subscriptions := service.subscriptions.erase clientId
    messageQueue := service.messageQueue.erase clientId }

/-- The socket begins to close. -/
def closing : CommunicationService :=
  if service.sockets.contains clientId then { service with sockets := service.sockets.set clientId .CLOSING } else service

/-- `websocket.close` may raise, which is logged. -/
def disconnectClient (closes : Bool) : CommunicationService :=
  if service.clients.contains clientId then (if closes then service.closing clientId else service).cleanupClient clientId
  else service

/-- A connection, whose welcome message makes a queue. -/
def handleNewConnection (now : Int) : CommunicationService :=
  let stats := service.connectionStats
  send { service with
    clients := service.clients.set clientId ⟨now⟩
    connectionStats := { stats with
      totalConnections := stats.totalConnections + 1
      activeConnections := stats.activeConnections + 1 }
    sockets := service.sockets.set clientId .OPEN } clientId

/-- The handler of a message. -/
def handle (message : Received) : CommunicationService :=
  match service.messageHandlers.get? message.type with
  | some .ping => service.send clientId
  | some .subscribe => if message.channel ≠ "" then service.subscribe clientId message.channel else service
  | some .unsubscribe => if message.channel ≠ "" then service.unsubscribe clientId message.channel else service
  | some .registered => if message.raises then service.send clientId else service
  | none => service.send clientId

def handleClientMessage (message : Received) (now : Int) : CommunicationService :=
  if message.valid then
    let stats := service.connectionStats
    ({ service with connectionStats := { stats with messagesReceived := stats.messagesReceived + 1 } }.touch clientId now).handle clientId message
  else service.send clientId

def handleClientDisconnection : CommunicationService :=
  let cleaned := service.cleanupClient clientId
  let stats := cleaned.connectionStats
  { cleaned with
    connectionStats := { stats with activeConnections := max 0 (stats.activeConnections - 1) }
    sockets := cleaned.sockets.erase clientId }

/-- The clients that were silent for too long, or whose ping raises. -/
def deadClients (now : Int) (pings : String → Bool) : List String :=
  service.clients.keys.filter fun id =>
    match service.clients.get? id with
    | none => false
    | some client => decide (now - client.lastActivity > connectionTimeout) || (service.isOpen id && !pings id)

def performHeartbeat (now : Int) (pings closes : String → Bool) : CommunicationService :=
  (service.deadClients now pings).foldl (fun service id => service.disconnectClient id (closes id)) service

def performCleanup : CommunicationService :=
  { service with
    subscriptions := service.subscriptions.keys.foldl (fun subscriptions id =>
      match service.subscriptions.get? id with
      | none => subscriptions
      | some s => if s.channels = ∅ ∧ s.filters = ∅ then subscriptions.erase id else subscriptions) service.subscriptions
    messageQueue := service.messageQueue.filter fun id => service.clients.contains id }

def dispose (closes : String → Bool) : CommunicationService :=
  { service.clients.keys.foldl (fun service id => service.disconnectClient id (closes id)) service with
    clients := ∅
    subscriptions := ∅
    messageQueue := ∅ }

end CommunicationService

inductive Event
  | connection (now : Int)
  | message (clientId : String) (message : Received) (now : Int)
  /-- A pong has come, or a `send` has ended. -/
  | active (clientId : String) (now : Int)
  /-- The other side closes the socket. -/
  | closing (clientId : String)
  | close (clientId : String)
  | disconnectClient (clientId : String) (closes : Bool)
  | heartbeat (now : Int) (pings closes : String → Bool)
  | cleanup
  | send (clientId : String)
  | broadcast
  | subscribe (clientId channel : String)
  | unsubscribe (clientId channel : String)
  | addFilter (clientId filter : String)
  | removeFilter (clientId filter : String)
  | registerHandler (type : String) (handler : Handler)
  | unregisterHandler (type : String)
  | dispose (closes : String → Bool)

/-- A step, given the ids of the connections. Nothing comes from a socket that has closed. -/
def step (uuidv4 : Nat → String) (service : CommunicationService) : Event → CommunicationService
  | .connection now => service.handleNewConnection (uuidv4 service.connectionStats.totalConnections) now
  | .message clientId message now =>
    if service.sockets.contains clientId then service.handleClientMessage clientId message now else service
  | .active clientId now => service.touch clientId now
  | .closing clientId => service.closing clientId
  | .close clientId => if service.sockets.contains clientId then service.handleClientDisconnection clientId else service
  | .disconnectClient clientId closes => service.disconnectClient clientId closes
  | .heartbeat now pings closes => service.performHeartbeat now pings closes
  | .cleanup => service.performCleanup
  | .send clientId => service.send clientId
  | .broadcast => service.broadcast
  | .subscribe clientId channel => service.subscribe clientId channel
  | .unsubscribe clientId channel => service.unsubscribe clientId channel
  | .addFilter clientId filter => service.addFilter clientId filter
  | .removeFilter clientId filter => service.removeFilter clientId filter
  | .registerHandler type handler => { service with messageHandlers := service.messageHandlers.set type handler }
  | .unregisterHandler type => { service with messageHandlers := service.messageHandlers.erase type }
  | .dispose closes => service.dispose closes

/-- The sockets that the server closes do close. -/
def Event.Closes : Event → Prop
  | .disconnectClient _ closes => closes = true
  | .heartbeat _ _ closes | .dispose closes => ∀ id, closes id = true
  | _ => True

/-- Only clients that are still there get a subscription. -/
def Timely (service : CommunicationService) : Event → Prop
  | .message clientId _ _ | .subscribe clientId _ | .addFilter clientId _ => clientId ∈ service.clients.keys
  | _ => True

/-! ## What a step keeps -/

/-- The connections are counted by their sockets, a client has a socket and a queue a client. Where the server closes what it
    disconnects, an open socket has a client, and where nobody subscribes too late, a subscription has one. -/
structure Kept (uuidv4 : Nat → String) (closes timely : Prop) (n : Nat) (service : CommunicationService) : Prop where
  total : service.connectionStats.totalConnections = n
  active : service.connectionStats.activeConnections = service.sockets.length
  known : ∀ id ∈ service.sockets.keys, ∃ i < n, uuidv4 i = id
  clients : ∀ id ∈ service.clients.keys, id ∈ service.sockets.keys
  queues : ∀ id ∈ service.messageQueue, id ∈ service.clients.keys
  opened : closes → ∀ id, service.sockets.get? id = some .OPEN → id ∈ service.clients.keys
  subscribed : timely → ∀ id ∈ service.subscriptions.keys, id ∈ service.clients.keys

variable {uuidv4 : Nat → String} {closes timely : Prop} {n : Nat} {service : CommunicationService} {clientId : String}

theorem kept_start : Kept uuidv4 closes timely 0 {} where
  total := rfl
  active := rfl
  known := nofun
  clients := nofun
  queues := by simp
  opened _ := nofun
  subscribed _ := nofun

namespace Kept
variable (kept : Kept uuidv4 closes timely n service)
include kept

theorem send (clientId : String) : Kept uuidv4 closes timely n (service.send clientId) := by
  unfold CommunicationService.send
  split
  · next there =>
    obtain ⟨client, -⟩ := Bool.and_eq_true_iff.mp there
    refine ⟨kept.total, kept.active, kept.known, kept.clients, fun id member => ?_, kept.opened, kept.subscribed⟩
    rcases Finset.mem_insert.mp member with rfl | old
    · exact of_decide_eq_true client
    · exact kept.queues id old
  · exact kept

theorem touch (clientId : String) (now : Int) : Kept uuidv4 closes timely n (service.touch clientId now) := by
  unfold CommunicationService.touch
  split
  · next there =>
    have same : (service.clients.set clientId ⟨now⟩).keys = service.clients.keys := Dict.keys_set_of_mem (of_decide_eq_true there) _
    constructor
    · exact kept.total
    · exact kept.active
    · exact kept.known
    · rw [same]
      exact kept.clients
    · rw [same]
      exact kept.queues
    · rw [same]
      exact kept.opened
    · rw [same]
      exact kept.subscribed
  · exact kept

/-- A subscription is made for a client. -/
theorem subscription (change : ClientSubscription → ClientSubscription) (client : timely → clientId ∈ service.clients.keys) :
    Kept uuidv4 closes timely n (service.subscription clientId change) where
  total := kept.total
  active := kept.active
  known := kept.known
  clients := kept.clients
  queues := kept.queues
  opened := kept.opened
  subscribed in_time id member := by
    rcases (Dict.mem_keys_set ..).mp member with rfl | old
    · exact client in_time
    · exact kept.subscribed in_time id old

theorem narrow (clientId : String) (change : ClientSubscription → ClientSubscription) :
    Kept uuidv4 closes timely n (service.narrow clientId change) := by
  unfold CommunicationService.narrow
  split
  · exact kept
  · next found =>
    refine ⟨kept.total, kept.active, kept.known, kept.clients, kept.queues, kept.opened, fun in_time id member => ?_⟩
    rw [Dict.keys_set_of_mem (Dict.mem_keys_of_get? found)] at member
    exact kept.subscribed in_time id member

theorem closing (clientId : String) : Kept uuidv4 closes timely n (service.closing clientId) := by
  unfold CommunicationService.closing
  split
  · next there =>
    have member : clientId ∈ service.sockets.keys := of_decide_eq_true there
    have same : (service.sockets.set clientId .CLOSING).keys = service.sockets.keys := Dict.keys_set_of_mem member _
    constructor
    · exact kept.total
    · rw [kept.active, Dict.length_set_of_mem member]
    · rw [same]
      exact kept.known
    · rw [same]
      exact kept.clients
    · exact kept.queues
    · intro does id is_open
      rw [Dict.get?_set] at is_open
      split at is_open
      · cases is_open
      · exact kept.opened does id is_open
    · exact kept.subscribed
  · exact kept

/-- A client that leaves has no open socket. -/
theorem cleanupClient (clientId : String) (shut : closes → service.sockets.get? clientId ≠ some .OPEN) :
    Kept uuidv4 closes timely n (service.cleanupClient clientId) where
  total := kept.total
  active := kept.active
  known := kept.known
  clients id member := kept.clients id ((Dict.mem_keys_erase ..).mp member).1
  queues id member := by
    obtain ⟨other, old⟩ := Finset.mem_erase.mp member
    exact (Dict.mem_keys_erase ..).mpr ⟨kept.queues id old, other⟩
  opened does id is_open := by
    refine (Dict.mem_keys_erase ..).mpr ⟨kept.opened does id is_open, ?_⟩
    rintro rfl
    exact shut does is_open
  subscribed in_time id member := by
    obtain ⟨old, other⟩ := (Dict.mem_keys_erase ..).mp member
    exact (Dict.mem_keys_erase ..).mpr ⟨kept.subscribed in_time id old, other⟩

theorem disconnectClient (clientId : String) {shuts : Bool} (does : closes → shuts = true) :
    Kept uuidv4 closes timely n (service.disconnectClient clientId shuts) := by
  unfold CommunicationService.disconnectClient
  split
  · cases shuts with
    | true =>
      refine (kept.closing clientId).cleanupClient clientId fun _ is_open => ?_
      unfold CommunicationService.closing at is_open
      split at is_open
      · simp at is_open
      · next gone => exact gone (decide_eq_true (Dict.mem_keys_of_get? is_open))
    | false => exact kept.cleanupClient clientId fun all => nomatch does all
  · exact kept

theorem disconnect_all (ids : List String) {shuts : String → Bool} (does : closes → ∀ id, shuts id = true) :
    Kept uuidv4 closes timely n (ids.foldl (fun service id => service.disconnectClient id (shuts id)) service) := by
  induction ids generalizing service with
  | nil => exact kept
  | cons id rest ih => exact ih (kept.disconnectClient id fun all => does all id)

theorem broadcast : Kept uuidv4 closes timely n service.broadcast := by
  unfold CommunicationService.broadcast
  generalize service.clients.keys = ids
  induction ids generalizing service with
  | nil => exact kept
  | cons id rest ih => exact ih (kept.send id)

theorem handle (message : Received) (client : timely → clientId ∈ service.clients.keys) :
    Kept uuidv4 closes timely n (service.handle clientId message) := by
  unfold CommunicationService.handle
  split
  · exact kept.send clientId
  · split
    · exact kept.subscription _ client
    · exact kept
  · split
    · exact kept.narrow clientId _
    · exact kept
  · split
    · exact kept.send clientId
    · exact kept
  · exact kept.send clientId

theorem handleClientMessage (message : Received) (now : Int) (client : timely → clientId ∈ service.clients.keys) :
    Kept uuidv4 closes timely n (service.handleClientMessage clientId message now) := by
  unfold CommunicationService.handleClientMessage
  split
  · have counted : Kept uuidv4 closes timely n { service with connectionStats := { service.connectionStats with
        messagesReceived := service.connectionStats.messagesReceived + 1 } } :=
      ⟨kept.total, kept.active, kept.known, kept.clients, kept.queues, kept.opened, kept.subscribed⟩
    refine (counted.touch clientId now).handle message fun in_time => ?_
    unfold CommunicationService.touch
    split
    · exact (Dict.mem_keys_set ..).mpr (.inr (client in_time))
    · exact client in_time
  · exact kept.send clientId

/-- A new connection has an id that no socket has. -/
theorem handleNewConnection (distinct : Function.Injective uuidv4) (now : Int) :
    Kept uuidv4 closes timely (n + 1) (service.handleNewConnection (uuidv4 service.connectionStats.totalConnections) now) := by
  rw [kept.total]
  have fresh : uuidv4 n ∉ service.sockets.keys := by
    intro used
    obtain ⟨i, before, same⟩ := kept.known _ used
    exact Nat.ne_of_lt before (distinct same)
  refine Kept.send ?_ _
  constructor
  · show service.connectionStats.totalConnections + 1 = n + 1
    rw [kept.total]
  · show service.connectionStats.activeConnections + 1 = _
    rw [kept.active, Dict.length_set_of_not_mem fresh]
    rfl
  · intro id member
    rcases (Dict.mem_keys_set ..).mp member with rfl | old
    · exact ⟨_, Nat.lt_succ_self _, rfl⟩
    · obtain ⟨i, before, same⟩ := kept.known id old
      exact ⟨i, Nat.lt_succ_of_lt before, same⟩
  · intro id member
    rcases (Dict.mem_keys_set ..).mp member with rfl | old
    · exact (Dict.mem_keys_set ..).mpr (.inl rfl)
    · exact (Dict.mem_keys_set ..).mpr (.inr (kept.clients id old))
  · exact fun id member => (Dict.mem_keys_set ..).mpr (.inr (kept.queues id member))
  · intro does id is_open
    rw [Dict.get?_set] at is_open
    split at is_open
    · next same => exact (Dict.mem_keys_set ..).mpr (.inl same.symm)
    · exact (Dict.mem_keys_set ..).mpr (.inr (kept.opened does id is_open))
  · exact fun in_time id member => (Dict.mem_keys_set ..).mpr (.inr (kept.subscribed in_time id member))

/-- The count never goes below zero, so the greater of the two is the difference. -/
theorem handleClientDisconnection (there : clientId ∈ service.sockets.keys) :
    Kept uuidv4 closes timely n (service.handleClientDisconnection clientId) where
  total := kept.total
  active := by
    have shorter := Dict.length_erase_of_mem there
    show max 0 (service.connectionStats.activeConnections - 1) = ((service.sockets.erase clientId).length : Int)
    rw [kept.active]
    omega
  known id member := kept.known id ((Dict.mem_keys_erase ..).mp member).1
  clients id member := by
    obtain ⟨old, other⟩ := (Dict.mem_keys_erase ..).mp member
    exact (Dict.mem_keys_erase ..).mpr ⟨kept.clients id old, other⟩
  queues id member := by
    obtain ⟨other, old⟩ := Finset.mem_erase.mp member
    exact (Dict.mem_keys_erase ..).mpr ⟨kept.queues id old, other⟩
  opened does id is_open := by
    have was : (service.sockets.erase clientId).get? id = some .OPEN := is_open
    rw [Dict.get?_erase] at was
    split at was
    · cases was
    · next other => exact (Dict.mem_keys_erase ..).mpr ⟨kept.opened does id was, Ne.symm other⟩
  subscribed in_time id member := by
    obtain ⟨old, other⟩ := (Dict.mem_keys_erase ..).mp member
    exact (Dict.mem_keys_erase ..).mpr ⟨kept.subscribed in_time id old, other⟩

/-- The queues that a cleanup looks for are not there. -/
theorem queues_kept : service.performCleanup.messageQueue = service.messageQueue :=
  Finset.filter_true_of_mem fun id member => decide_eq_true (kept.queues id member)

theorem performCleanup : Kept uuidv4 closes timely n service.performCleanup where
  total := kept.total
  active := kept.active
  known := kept.known
  clients := kept.clients
  queues id member := kept.queues id (kept.queues_kept ▸ member)
  opened := kept.opened
  subscribed in_time id member := by
    have fewer (ids : List String) (d : Dict String ClientSubscription) (member : id ∈ (ids.foldl (fun subscriptions id =>
        match service.subscriptions.get? id with
        | none => subscriptions
        | some s => if s.channels = ∅ ∧ s.filters = ∅ then subscriptions.erase id else subscriptions) d).keys) : id ∈ d.keys := by
      induction ids generalizing d with
      | nil => exact member
      | cons first rest ih =>
        have before := ih _ member
        dsimp only at before
        split at before
        · exact before
        · split at before
          · exact ((Dict.mem_keys_erase ..).mp before).1
          · exact before
    exact kept.subscribed in_time id (fewer _ _ member)

end Kept

theorem mem_clients_disconnectClient {id : String} {shuts : Bool} (member : id ∈ (service.disconnectClient clientId shuts).clients.keys) :
    id ∈ service.clients.keys ∧ id ≠ clientId := by
  unfold CommunicationService.disconnectClient at member
  split at member
  · have same : (if shuts then service.closing clientId else service).clients = service.clients := by
      unfold CommunicationService.closing
      split
      · split <;> rfl
      · rfl
    have left : id ∈ ((if shuts then service.closing clientId else service).clients.erase clientId).keys := member
    rw [same] at left
    exact (Dict.mem_keys_erase ..).mp left
  · next gone => exact ⟨member, fun same => gone (decide_eq_true (same ▸ member))⟩

theorem mem_clients_disconnect_all {id : String} {shuts : String → Bool} {ids : List String}
    (member : id ∈ (ids.foldl (fun service id => service.disconnectClient id (shuts id)) service).clients.keys) :
    id ∈ service.clients.keys ∧ id ∉ ids := by
  induction ids generalizing service with
  | nil => exact ⟨member, List.not_mem_nil⟩
  | cons first rest ih =>
    obtain ⟨left, later⟩ := ih member
    obtain ⟨was, other⟩ := mem_clients_disconnectClient left
    exact ⟨was, fun among => (List.mem_cons.mp among).elim other later⟩

theorem Kept.dispose (kept : Kept uuidv4 closes timely n service) {shuts : String → Bool} (does : closes → ∀ id, shuts id = true) :
    Kept uuidv4 closes timely n (service.dispose shuts) := by
  have disconnected := kept.disconnect_all service.clients.keys does
  refine ⟨disconnected.total, disconnected.active, disconnected.known, nofun, ?_, fun all id is_open => ?_, fun _ => nofun⟩
  · exact fun id member => absurd member (Finset.notMem_empty id)
  · obtain ⟨was, left⟩ := mem_clients_disconnect_all (disconnected.opened all id is_open)
    exact absurd was left

/-! ## Whole runs -/

def Event.isConnection : Event → Bool
  | .connection _ => true
  | _ => false

theorem Kept.step (kept : Kept uuidv4 closes timely n service) (distinct : Function.Injective uuidv4) {event : Event}
    (does : closes → event.Closes) (in_time : timely → Timely service event) :
    Kept uuidv4 closes timely (n + if event.isConnection then 1 else 0) (step uuidv4 service event) := by
  cases event with
  | connection now => exact kept.handleNewConnection distinct now
  | message clientId message now =>
    show Kept uuidv4 closes timely n (if service.sockets.contains clientId then service.handleClientMessage clientId message now else service)
    split
    · exact kept.handleClientMessage message now in_time
    · exact kept
  | active clientId now => exact kept.touch clientId now
  | closing clientId => exact kept.closing clientId
  | close clientId =>
    show Kept uuidv4 closes timely n (if service.sockets.contains clientId then service.handleClientDisconnection clientId else service)
    split
    · next there => exact kept.handleClientDisconnection (of_decide_eq_true there)
    · exact kept
  | disconnectClient clientId shuts => exact kept.disconnectClient clientId does
  | heartbeat now pings shuts => exact kept.disconnect_all _ does
  | cleanup => exact kept.performCleanup
  | send clientId => exact kept.send clientId
  | broadcast => exact kept.broadcast
  | subscribe clientId channel => exact kept.subscription (fun s => { s with channels := insert channel s.channels }) in_time
  | unsubscribe clientId channel => exact kept.narrow clientId _
  | addFilter clientId filter => exact kept.subscription (fun s => { s with filters := insert filter s.filters }) in_time
  | removeFilter clientId filter => exact kept.narrow clientId _
  | registerHandler | unregisterHandler =>
    exact ⟨kept.total, kept.active, kept.known, kept.clients, kept.queues, kept.opened, kept.subscribed⟩
  | dispose shuts => exact kept.dispose does

theorem kept_run (distinct : Function.Injective uuidv4) {events : List Event} (does : closes → ∀ event ∈ events, event.Closes)
    (kept : Kept uuidv4 closes timely n service) (in_time : timely → Runs.Along (Connections.step uuidv4) Timely service events) :
    Kept uuidv4 closes timely (n + events.countP Event.isConnection) (events.foldl (Connections.step uuidv4) service) := by
  induction events generalizing n service with
  | nil => exact kept
  | cons event rest ih =>
    have first := kept.step distinct (fun all => does all event List.mem_cons_self) fun all => (in_time all).1
    have later := ih (fun all other member => does all other (List.mem_cons_of_mem _ member)) first fun all => (in_time all).2
    rw [List.countP_cons, Nat.add_comm (rest.countP _), ← Nat.add_assoc]
    exact later

/-- Two connections, of which one is disconnected and closes and the other subscribes. -/
def two_connections : List Event := [
  .connection 0, .connection 5, .message "00000000-0000-4000-8000-1" ⟨true, "subscribe", "reload", false⟩ 9,
  .disconnectClient "00000000-0000-4000-8000-0" true, .close "00000000-0000-4000-8000-0"]

end RevitPy.DevServer.Connections
