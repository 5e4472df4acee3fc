import RevitPy.Dict
import RevitPy.Json

/-!
# Requests over a WebSocket

The client keeps a future for each request under an identifier that it writes into the
message. The server handles the messages of a connection one after the other. What goes
over the connection carries here besides which call it belongs to.
-/

namespace RevitPy.WebSocket

abbrev Message := Dict String Json

/-- What the message handler does: it returns a false value, a dictionary, something that
    `json.dumps` refuses, or it raises. -/
inductive HandlerOutcome
  | nothing
  | returns (response : Json)
  | unserializable (error : String)
  | raises (error : String)

/-- What the server knows when it answers. -/
structure ServerInfo where
  connection_id : String
  /-- `time.time()` as `json` writes it. -/
  timestamp : String
  server_status : Json
  connection_info : Json
  /-- Whether a message handler is set, and what it does. -/
  message_handler : Option HandlerOutcome
  /-- `str(message_type)` -/
  message_type : String

def errorMessage (error error_type : String) : Json :=
  .obj [("type", .str "error"), ("data", .obj [("error", .str error), ("error_type", .str error_type)])]

def typeIs (message : Message) (name : String) : Bool := message.get? "type" |>.any (Json.isStr name)

/-- `_process_message` and the sending of its response, if there is one. -/
def process_message (message : Message) (info : ServerInfo) : Option Json :=
  if typeIs message "ping" then some (.obj [("type", .str "pong"),
    ("data", .obj [("timestamp", .number info.timestamp), ("connection_id", .str info.connection_id)])])
  else if typeIs message "get_status" then some (.obj [("type", .str "status"), ("data", info.server_status)])
  else if typeIs message "get_connections" then some (.obj [("type", .str "connections"), ("data", info.connection_info)])
  else match info.message_handler with
    | none => some (errorMessage s!"Unknown message type: {info.message_type}" "unknown_message_type")
    | some .nothing => none
    | some (.returns response) => some response
    | some (.unserializable error) => some (errorMessage error "message_processing_error")
    | some (.raises error) => some (errorMessage error "processing_error")

/-- What the bridge manager reads besides the message: the result of an analysis or its error,
    the time and the metrics. -/
structure ManagerInfo where
  analysis : Except String Json
  timestamp : String
  metrics : Json
  message_type : String

/-- `BridgeManager._handle_websocket_message` -/
def handle_websocket_message (message : Message) (info : ManagerInfo) : Json :=
  if typeIs message "analysis_request" then match info.analysis with
    | .ok result => .obj [("type", .str "analysis_result"), ("data", result)]
    | .error error => .obj [("type", .str "error"), ("data", .obj [("error", .str error)])]
  else if typeIs message "ping" then .obj [("type", .str "pong"), ("data", .obj [("timestamp", .number info.timestamp)])]
  else if typeIs message "get_metrics" then .obj [("type", .str "metrics"), ("data", info.metrics)]
  else .obj [("type", .str "error"), ("data", .obj [("error", .str s!"Unknown message type: {info.message_type}")])]

/-- Where a call of `send_message` stands that expects a response. -/
inductive CallState
  | sending
  | waiting
  /-- Its future holds a message, which the server sent as its answer to some call or to none. -/
  | resolved (answers : Option Nat) (response : Json)
  | failed

structure Call where
  request_id : String
  message : Message
  state : CallState := .sending

/-- A call whose future is not done. -/
def Call.isPending (c : Call) : Bool := match c.state with
  | .sending | .waiting => true
  | _ => false

structure Bridge where
  calls : List Call := []
  response_futures : Dict String Nat := ∅
  connection_id : Option Json := none
  message_queue : List Json := []
  /-- On the way to the server. -/
  toServer : List (Option Nat × Message) := []
  /-- The message that the server works on. -/
  processing : Option (Option Nat × Message) := none
  /-- On the way to the client. -/
  toClient : List (Option Nat × Json) := []
  delivered : List (Option Nat × Json) := []

namespace Bridge
variable (s : Bridge)

def setState (call : Nat) (state : CallState) : Bridge := { s with calls := s.calls.modify call fun c => { c with state } }

/-- `send_message(message, expect_response=True)` up to its first await. -/
def send_message (second address : Int) (message : Message) : Bridge :=
  let request_id := s!"req_{second}_{address}"
  { s with
    calls := s.calls ++ [({ request_id, message := message.set "request_id" (.str request_id) } : Call)]
    response_futures := s.response_futures.set request_id s.calls.length }

/-- The message of a call is sent, or sending it raises. -/
def transmit (call : Nat) (succeeds : Bool) : Bridge := match s.calls[call]? with
  | some { request_id, message, state := .sending } =>
    if succeeds then { s.setState call .waiting with toServer := s.toServer ++ [(some call, message)] }
    else { s.setState call .failed with response_futures := s.response_futures.erase request_id }
  | _ => s

/-- `send_message(message)` -/
def send_plain (message : Message) : Bridge := { s with toServer := s.toServer ++ [(none, message)] }

/-- The wait for the response is over. -/
def time_out (call : Nat) : Bridge := match s.calls[call]? with
  | some { request_id, message := _, state := .waiting } =>
    { s.setState call .failed with response_futures := s.response_futures.erase request_id }
  | _ => s

/-- The task of the call is cancelled, which leaves its future where it is. -/
def cancel (call : Nat) : Bridge := match s.calls[call]? with
  | none => s
  | some c => if c.isPending then s.setState call .failed else s

/-- The server takes the next message of the connection. -/
def receive : Bridge := match s.processing, s.toServer with
  | none, first :: rest => { s with processing := some first, toServer := rest }
  | _, _ => s

def answer (info : ServerInfo) : Bridge := match s.processing with
  | none => s
  | some (call, message) => match process_message message info with
    | none => { s with processing := none }
    | some response => { s with processing := none, toClient := s.toClient ++ [(call, response)] }

/-- The server sends a message by itself: a welcome, a heartbeat or another broadcast. -/
def push (message : Json) : Bridge := { s with toClient := s.toClient ++ [(none, message)] }

/-- A message that is no response. -/
def forward (members : List (String × Json)) : Bridge :=
  if (Json.getD members "type" .null).hashable then
    if (Json.getD members "type" .null).isStr "connection_established" then match Json.getD members "data" (.obj []) with
      | .obj data => { s with connection_id := some (Json.getD data "connection_id" .null), message_queue := s.message_queue ++ [.obj members] }
      | _ => s
    else { s with message_queue := s.message_queue ++ [.obj members] }
  else s

/-- `_process_incoming_message`, whose exceptions are only logged. -/
def process_incoming_message (answers : Option Nat) (message : Json) : Bridge := match message with
  | .obj members => match Json.get? members "request_id" with
    | some (.str request_id) =>
      if request_id = "" then s.forward members
      else match s.response_futures.get? request_id with
        | none => s.forward members
        | some call =>
          let s := { s with response_futures := s.response_futures.erase request_id }
          if (s.calls[call]?).any Call.isPending then s.setState call (.resolved answers message) else s
    | some (.arr (_ :: _)) | some (.obj (_ :: _)) => s
    | _ => s.forward members
  | _ => s

def deliver : Bridge := match s.toClient with
  | [] => s
  | (answers, message) :: rest =>
    { s with toClient := rest, delivered := s.delivered ++ [(answers, message)] }.process_incoming_message answers message

inductive Event
  | send_message (second address : Int) (message : Message)
  | transmit (call : Nat) (succeeds : Bool)
  | send_plain (message : Message)
  | time_out (call : Nat)
  | cancel (call : Nat)
  | receive
  | answer (info : ServerInfo)
  | push (message : Json)
  | deliver

def step : Event → Bridge
  | .send_message second address message => s.send_message second address message
  | .transmit call succeeds => s.transmit call succeeds
  | .send_plain message => s.send_plain message
  | .time_out call => s.time_out call
  | .cancel call => s.cancel call
  | .receive => s.receive
  | .answer info => s.answer info
  | .push message => s.push message
  | .deliver => s.deliver

end Bridge
end RevitPy.WebSocket
