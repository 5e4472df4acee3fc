import RevitPy.Dict
import RevitPy.Json

/-!
# Named pipes

A server and the clients of its pipe name. The path of a FIFO names a queue of lines here, and a
line carries besides its message who wrote it.
-/

namespace RevitPy.NamedPipe

abbrev Message := List (String × Json)

inductive Writer
  /-- A message that a client sent, by its number among those. -/
  | client (number message : Nat)
  /-- What the server wrote as its response to that message. -/
  | response (number message : Nat)
  | other
deriving DecidableEq

structure Line where
  writer : Writer
  message : Message

/-- An open connection, by the paths that it opened. -/
structure NamedPipeConnection where
  read_pipe : String
  write_pipe : String

structure NamedPipeClient where
  connection_id : String
  connecting : Bool := false
  is_connected : Bool := false
  written : List Message := []
  /-- The messages whose `send_message` waits for its response. -/
  awaiting : List Nat := []
  /-- What `send_message` returned for which message. -/
  returned : List (Nat × Line) := []

/-- What the message handler does: it returns a false value, a response, it raises, or it waits for something. -/
inductive HandlerOutcome
  | nothing
  | returns (response : Message)
  | raises (error : String)
  | suspends

/-- How `NamedPipeConnection.open` ends; where it raises it may have made some of the FIFOs. -/
inductive Opening
  | succeeds
  | fails (made : Nat)

structure Pipes where
  base_pipe_path : String
  queues : Dict String (List Line)
  connections : Dict String NamedPipeConnection := ∅
  /-- The connection whose handler waits for a line. -/
  handling : Option String := none
  /-- What was passed to the message handler. -/
  handled : List Line := []
  clients : List NamedPipeClient

def readPath (base id : String) : String := s!"{base}_read_{id}"
def writePath (base id : String) : String := s!"{base}_write_{id}"
def controlPath (base : String) : String := s!"{base}_control"

def controlMessage (command connection_id : String) : Message := [("command", .str command), ("connection_id", .str connection_id)]

namespace Pipes
variable (s : Pipes)

/-- The server listens on its control pipe; other FIFOs may be left over. -/
def start (base : String) (leftover connection_ids : List String) : Pipes where
  base_pipe_path := base
  queues := Dict.ofList ((controlPath base :: leftover).map fun path => (path, []))
  clients := connection_ids.map fun connection_id => { connection_id }

def mkfifo (path : String) : Pipes := if path ∈ s.queues.keys then s else { s with queues := s.queues.set path [] }
def write (path : String) (line : Line) : Pipes := { s with queues := s.queues.set path (s.queues.getD path [] ++ [line]) }
def modifyClient (number : Nat) (f : NamedPipeClient → NamedPipeClient) : Pipes := { s with clients := s.clients.modify number f }

/-! ## The client -/

/-- `connect` up to its wait. -/
def connect (number : Nat) : Pipes := match s.clients[number]? with
  | none => s
  | some client =>
    if controlPath s.base_pipe_path ∈ s.queues.keys then
      (s.write (controlPath s.base_pipe_path) ⟨.other, controlMessage "connect" client.connection_id⟩).modifyClient number
        fun c => { c with connecting := true }
    else s

/-- `connect` looks whether both pipes are there. -/
def connect_polls (number : Nat) : Pipes := match s.clients[number]? with
  | none => s
  | some client =>
    if client.connecting = true ∧ readPath s.base_pipe_path client.connection_id ∈ s.queues.keys ∧
        writePath s.base_pipe_path client.connection_id ∈ s.queues.keys then
      s.modifyClient number fun c => { c with connecting := false, is_connected := true }
    else s

/-- `send_message` up to its wait for the response. -/
def send_message (number : Nat) (message : Message) : Pipes := match s.clients[number]? with
  | none => s
  | some client =>
    if client.is_connected then
      (s.write (writePath s.base_pipe_path client.connection_id) ⟨.client number client.written.length, message⟩).modifyClient number
        fun c => { c with written := c.written ++ [message], awaiting := c.awaiting ++ [client.written.length] }
    else s

/-- `send_message` reads the response, or raises where the pipe is gone. -/
def read_response (number message : Nat) : Pipes := match s.clients[number]? with
  | none => s
  | some client =>
    if message ∈ client.awaiting then match s.queues.get? (readPath s.base_pipe_path client.connection_id) with
      | none => s.modifyClient number fun c => { c with awaiting := c.awaiting.erase message }
      | some [] => s
      | some (line :: rest) =>
        { s with queues := s.queues.set (readPath s.base_pipe_path client.connection_id) rest }.modifyClient number
          fun c => { c with awaiting := c.awaiting.erase message, returned := c.returned ++ [(message, line)] }
    else s

def disconnect (number : Nat) : Pipes := match s.clients[number]? with
  | none => s
  | some client =>
    if client.is_connected then
      (s.write (controlPath s.base_pipe_path) ⟨.other, controlMessage "disconnect" client.connection_id⟩).modifyClient number
        fun c => { c with is_connected := false }
    else s

/-! ## The server -/

/-- `asyncio.run` gives the handler task, which `_create_connection` starts, one step before it cancels it. -/
def create_connection (id : String) (opening : Opening) : Pipes :=
  let read_pipe := readPath s.base_pipe_path id
  let write_pipe := writePath s.base_pipe_path id
  match opening with
  | .succeeds =>
    let s := (s.mkfifo read_pipe).mkfifo write_pipe
    { s with connections := s.connections.set id { read_pipe, write_pipe }, handling := some id }
  | .fails made => ([read_pipe, write_pipe].take made).foldl mkfifo s

/-- `NamedPipeConnection.close` and the removal of the connection. -/
def close (id : String) : Pipes :=
  if id ∈ s.connections.keys then
    { s with
      connections := s.connections.erase id
      queues := (s.queues.erase (readPath s.base_pipe_path id)).erase (writePath s.base_pipe_path id) }
  else s

def handle_control_message (message : Message) (opening : Opening) : Pipes :=
  let command := Json.getD message "command" .null
  match Json.get? message "connection_id" with
  | some (.str id) =>
    if command.isStr "connect" then
      if id ≠ "" then s.create_connection id opening else s
    else if command.isStr "disconnect" then
      if id ≠ "" then s.close id else s
    else s
  | _ => s

/-- The server's loop takes the next line of the control pipe. -/
def read_control (opening : Opening) : Pipes := match s.handling, s.queues.get? (controlPath s.base_pipe_path) with
  | none, some (line :: rest) =>
    { s with queues := s.queues.set (controlPath s.base_pipe_path) rest }.handle_control_message line.message opening
  | _, _ => s

def cleanup_inactive_connections (inactive : List String) : Pipes := match s.handling with
  | none => inactive.foldl close s
  | some _ => s

/-- What is written as the response to a line. -/
def respond (connection : NamedPipeConnection) (line : Line) (response : Message) : Pipes :=
  let writer := match line.writer with
    | .client number message => .response number message
    | _ => .other
  s.write connection.write_pipe ⟨writer, response⟩

/-- `_handle_connection_messages` up to its sleep, in which it is cancelled. -/
def handle_connection_messages (outcome : HandlerOutcome) : Pipes := match s.handling with
  | none => s
  | some id => match s.connections.get? id with
    | none => { s with handling := none }
    | some connection => match s.queues.get? connection.read_pipe with
      | none => { s with handling := none }
      | some [] => s
      | some (line :: rest) =>
        let s := { s with queues := s.queues.set connection.read_pipe rest, handling := none }
        if line.message = [] then s
        else
          let s := { s with handled := s.handled ++ [line] }
          match outcome with
          | .nothing | .suspends => s
          | .returns response => s.respond connection line response
          | .raises error => s.respond connection line
              [("error", .str error), ("request_id", Json.getD line.message "request_id" .null)]

/-- `send_to_connection`, of which `broadcast_message` makes one a connection. -/
def send_to_connection (id : String) (message : Message) : Pipes := match s.connections.get? id with
  | none => s
  | some connection => s.write connection.write_pipe ⟨.other, message⟩

inductive Event
  | connect (number : Nat)
  | connect_polls (number : Nat)
  | send_message (number : Nat) (message : Message)
  | read_response (number message : Nat)
  | disconnect (number : Nat)
  | read_control (opening : Opening)
  | cleanup_inactive_connections (inactive : List String)
  | handle_connection_messages (outcome : HandlerOutcome)
  | send_to_connection (id : String) (message : Message)

/-- The event is a step of a reader. -/
def Event.reads : Event → Bool
  | .read_response _ _ | .read_control _ | .handle_connection_messages _ => true
  | _ => false

def step : Event → Pipes
  | .connect number => s.connect number
  | .connect_polls number => s.connect_polls number
  | .send_message number message => s.send_message number message
  | .read_response number message => s.read_response number message
  | .disconnect number => s.disconnect number
  | .read_control opening => s.read_control opening
  | .cleanup_inactive_connections inactive => s.cleanup_inactive_connections inactive
  | .handle_connection_messages outcome => s.handle_connection_messages outcome
  | .send_to_connection id message => s.send_to_connection id message

end Pipes
end RevitPy.NamedPipe
