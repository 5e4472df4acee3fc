import RevitPy.JsonText
import RevitPy.JsonValues
import RevitPy.McpServer

/-!
# Messages that are written and read

The classes of messages are told apart by the keys that are present, and what is empty is not written.
The fields of a message hold whatever values it was made with, as no class checks them.
-/

namespace RevitPy.McpRoundTrip

/-- JSON-RPC request (expects a response). -/
@[ext] structure McpRequest where
  jsonrpc : Json := .str "2.0"
  id : Json := .null
  method : Json := .str ""
  params : Json := .obj []

/-- JSON-RPC response. -/
@[ext] structure McpResponse where
  jsonrpc : Json := .str "2.0"
  id : Json := .null
  result : Json := .null
  error : Json := .null

/-- JSON-RPC notification (no id, no response expected): the field is inherited. -/
@[ext] structure McpNotification where
  jsonrpc : Json := .str "2.0"
  id : Json := .null
  method : Json := .str ""
  params : Json := .obj []

inductive McpMessage
  | request (message : McpRequest)
  | response (message : McpResponse)
  | notification (message : McpNotification)

/-- The `json` module. -/
structure JsonModule where
  dumps : Json → String
  loads : String → Except String Json

/-- A JSON string or already-parsed data. -/
inductive Data
  | text (data : String)
  | parsed (data : Json)

/-- `bool(value)` -/
def truthy : Json → Bool
  | .null => false
  | .bool value => value
  | .number literal => !(Json.numeral literal.toList && (Json.decimal literal).1 = 0)
  | .str value => value ≠ ""
  | .arr items => !items.isEmpty
  | .obj members => !members.isEmpty

/-! ## Writing -/

def params_entry (params : Json) : List (String × Json) := if truthy params then [("params", params)] else []

def McpRequest.payload (self : McpRequest) : List (String × Json) :=
  [("jsonrpc", self.jsonrpc), ("id", self.id), ("method", self.method)] ++ params_entry self.params

def McpResponse.payload (self : McpResponse) : List (String × Json) :=
  [("jsonrpc", self.jsonrpc), ("id", self.id)] ++
    match self.error with
    | .null => [("result", self.result)]
    | error => [("error", error)]

def McpNotification.payload (self : McpNotification) : List (String × Json) :=
  [("jsonrpc", self.jsonrpc), ("method", self.method)] ++ params_entry self.params

def McpMessage.payload : McpMessage → List (String × Json)
  | .request message => message.payload
  | .response message => message.payload
  | .notification message => message.payload

/-- Serialize the message to a JSON string. -/
def McpMessage.to_json (json : JsonModule) (self : McpMessage) : String := json.dumps (.obj self.payload)

/-! ## Reading -/

/-- A request that is made without an id gets one. -/
def McpRequest.post_init (uuid4 : String) (self : McpRequest) : McpRequest :=
  match self.id with
  | .null => { self with id := .str uuid4 }
  | _ => self

/-- The class of a message, by the keys that are present. -/
def classify (uuid4 : String) : Json → Except String McpMessage
  | .obj parsed =>
    let msg_id := Json.getD parsed "id" .null
    let jsonrpc := Json.getD parsed "jsonrpc" (.str "2.0")
    if Json.has parsed "result" || Json.has parsed "error" then
      .ok (.response ⟨jsonrpc, msg_id, Json.getD parsed "result" .null, Json.getD parsed "error" .null⟩)
    else match Json.getD parsed "method" .null with
      | .null => .error "Cannot determine message type: missing 'method', 'result', and 'error'"
      | method => match msg_id with
        | .null => .ok (.notification { jsonrpc, method, params := Json.getD parsed "params" (.obj []) })
        | msg_id => .ok (.request (McpRequest.post_init uuid4 ⟨jsonrpc, msg_id, method, Json.getD parsed "params" (.obj [])⟩))
  | _ => .error "Expected a JSON object"

/-- Deserialize a JSON string or dict into the appropriate message. -/
def McpMessage.from_json (json : JsonModule) (uuid4 : String) : Data → Except String McpMessage
  | .text data => match json.loads data with
    | .error e => .error e
    | .ok parsed => classify uuid4 parsed
  | .parsed data => classify uuid4 data

/-! ## Round trips -/

/-- Parameters that are written, or are what is read for none. -/
def Kept (params : Json) : Prop := truthy params = true ∨ params = .obj []

/-- A request with an id and a method, a notification with a method and without an id, and a response
    in which not both a result and an error are set. -/
def McpMessage.Returning : McpMessage → Prop
  | .request message => message.id ≠ .null ∧ message.method ≠ .null ∧ Kept message.params
  | .response message => message.result = .null ∨ message.error = .null
  | .notification message => message.id = .null ∧ message.method ≠ .null ∧ Kept message.params

/-- A dictionary of parameters is kept, also the empty one. -/
theorem kept_obj (members : List (String × Json)) : Kept (.obj members) := by
  cases members with
  | nil => exact .inr rfl
  | cons member rest => exact .inl rfl

theorem McpRequest.post_init_of_id {uuid4 : String} {message : McpRequest} (given : message.id ≠ .null) :
    message.post_init uuid4 = message := by
  unfold McpRequest.post_init
  split
  · next none => exact absurd none given
  · rfl

/-- Every request has an id once it is made. -/
theorem McpRequest.post_init_id (uuid4 : String) (message : McpRequest) : (message.post_init uuid4).id ≠ .null := by
  unfold McpRequest.post_init
  split
  · simp
  · next given => exact given

/-- What is read for the parameters that were written. -/
theorem params_read (params : Json) : (if truthy params then some params else none).getD (.obj []) = params ↔ Kept params := by
  unfold Kept
  by_cases written : truthy params = true
  · simp [written]
  · rw [if_neg written]
    constructor
    · intro same
      exact .inr same.symm
    · rintro (wrong | same)
      · exact absurd wrong written
      · exact same.symm

/-- What a reader finds in a dictionary. -/
structure Reads (parsed : List (String × Json)) (jsonrpc id method params : Option Json) : Prop where
  jsonrpc : Json.get? parsed "jsonrpc" = jsonrpc
  id : Json.get? parsed "id" = id
  result : Json.get? parsed "result" = none
  error : Json.get? parsed "error" = none
  method : Json.get? parsed "method" = method
  params : Json.get? parsed "params" = params

theorem McpRequest.reads (message : McpRequest) :
    Reads message.payload (some message.jsonrpc) (some message.id) (some message.method)
      (if truthy message.params then some message.params else none) := by
  by_cases written : truthy message.params = true
  · rw [if_pos written]
    constructor <;> simp [McpRequest.payload, params_entry, written, Json.get?, List.lookup_cons]
  · rw [if_neg written]
    constructor <;> simp [McpRequest.payload, params_entry, written, Json.get?, List.lookup_cons]

theorem McpNotification.reads (message : McpNotification) :
    Reads message.payload (some message.jsonrpc) none (some message.method)
      (if truthy message.params then some message.params else none) := by
  by_cases written : truthy message.params = true
  · rw [if_pos written]
    constructor <;> simp [McpNotification.payload, params_entry, written, Json.get?, List.lookup_cons]
  · rw [if_neg written]
    constructor <;> simp [McpNotification.payload, params_entry, written, Json.get?, List.lookup_cons]

theorem request_returns (uuid4 : String) (message : McpRequest) :
    classify uuid4 (.obj message.payload) = .ok (.request message) ↔ (McpMessage.request message).Returning := by
  have reads := message.reads
  simp only [classify, Json.getD, Json.has, reads.jsonrpc, reads.id, reads.result, reads.error, reads.method, reads.params,
    Option.isSome_none, Bool.or_false, Bool.false_eq_true, if_false, Option.getD_some, McpMessage.Returning]
  split
  · next none_given => simp [none_given]
  · next given =>
    have named : message.method ≠ .null := given
    split
    · next without => simp [without]
    · next with_id =>
      have numbered : message.id ≠ .null := with_id
      rw [McpRequest.post_init_of_id, ← params_read message.params]
      · simp [numbered, named, McpRequest.ext_iff]
      · exact numbered

theorem notification_returns (uuid4 : String) (message : McpNotification) :
    classify uuid4 (.obj message.payload) = .ok (.notification message) ↔ (McpMessage.notification message).Returning := by
  have reads := message.reads
  simp only [classify, Json.getD, Json.has, reads.jsonrpc, reads.id, reads.result, reads.error, reads.method, reads.params,
    Option.isSome_none, Bool.or_false, Bool.false_eq_true, if_false, Option.getD_some, Option.getD_none, McpMessage.Returning]
  split
  · next none_given => simp [none_given]
  · next given =>
    have named : message.method ≠ .null := given
    have unnumbered : message.id = .null ↔ .null = message.id := eq_comm
    rw [← params_read message.params, unnumbered]
    simp [named, McpNotification.ext_iff]

/-- A response loses a result that is set beside an error. -/
theorem response_returns (uuid4 : String) (message : McpResponse) :
    classify uuid4 (.obj message.payload) = .ok (.response message) ↔ (McpMessage.response message).Returning := by
  obtain ⟨jsonrpc, id, result, error⟩ := message
  simp only [McpMessage.Returning]
  by_cases failed : error = .null
  · subst failed
    simp [classify, McpResponse.payload, Json.getD, Json.has, Json.get?, List.lookup_cons]
  · have payload : McpResponse.payload ⟨jsonrpc, id, result, error⟩ = [("jsonrpc", jsonrpc), ("id", id), ("error", error)] := by
      unfold McpResponse.payload
      split
      · next none_given => exact absurd none_given failed
      · rfl
    have unset : result = .null ↔ .null = result := eq_comm
    rw [payload, unset]
    simp [classify, Json.getD, Json.has, Json.get?, List.lookup_cons, failed]

/-- Where the reader inverts the writer, a message comes back from its text in its class and with its
    fields when it is a returning one, and only then. -/
theorem round_trip (json : JsonModule) (uuid4 : String) (message : McpMessage)
    (inverted : json.loads (json.dumps (.obj message.payload)) = .ok (.obj message.payload)) :
    McpMessage.from_json json uuid4 (.text (message.to_json json)) = .ok message ↔ message.Returning := by
  unfold McpMessage.from_json McpMessage.to_json
  simp only [inverted]
  cases message with
  | request message => exact request_returns uuid4 message
  | response message => exact response_returns uuid4 message
  | notification message => exact notification_returns uuid4 message

/-- The texts of JSON itself, read and written. -/
def jsonTexts : JsonModule where
  dumps value := String.ofList (Json.dumps value)
  loads text := match Json.loads text.toList with
    | some value => .ok value
    | none => .error "Expecting value"

theorem jsonTexts_inverted {members : List (String × Json)} (values : Json.plain (.obj members) = true) :
    jsonTexts.loads (jsonTexts.dumps (.obj members)) = .ok (.obj members) := by
  have read : Json.loads (Json.dumps (.obj members)) = some (.obj members) :=
    Json.load_write Json.json_lawful none (Json.proper_of_plain _ values)
  simp only [jsonTexts, String.toList_ofList, read]

/-- A request without parameters whose id is zero comes back. -/
theorem empty_request_returns :
    McpMessage.from_json jsonTexts "uuid" (.text (McpMessage.to_json jsonTexts (.request { id := .number "0", method := .str "ping" }))) =
      .ok (.request { id := .number "0", method := .str "ping" }) :=
  (round_trip jsonTexts "uuid" (.request { id := .number "0", method := .str "ping" }) (jsonTexts_inverted (by decide))).mpr
    ⟨by simp, by simp, kept_obj []⟩

/-- The inherited id of a notification is not written, and an empty list of parameters is read as an
    empty dictionary. -/
theorem id_of_notification_lost :
    (McpMessage.from_json jsonTexts "uuid"
        (.text (McpMessage.to_json jsonTexts (.notification { id := .number "5", method := .str "ping" }))) =
      .ok (.notification { method := .str "ping" }) ∧
    McpMessage.notification { method := .str "ping" } ≠ .notification { id := .number "5", method := .str "ping" }) ∧
    McpMessage.from_json jsonTexts "uuid"
        (.text (McpMessage.to_json jsonTexts (.request { id := .number "1", method := .str "ping", params := .arr [] }))) =
      .ok (.request { id := .number "1", method := .str "ping" }) ∧
    McpMessage.request { id := .number "1", method := .str "ping" } ≠
      .request { id := .number "1", method := .str "ping", params := .arr [] } := by
  refine ⟨⟨rfl, by simp⟩, rfl, by simp⟩

/-! ## What the server reads -/

/-- A message as the server gets it. -/
def McpMessage.received : McpMessage → RevitPy.McpMessage
  | .request message => .request ⟨message.jsonrpc, message.id, message.method, message.params⟩
  | .response message => .response message.jsonrpc message.id message.result message.error
  | .notification message => .notification message.jsonrpc message.method message.params

/-- The server reads a text as the classes of messages do. -/
theorem server_reads {η ω : Type} (py : Surroundings η ω) (dumps : Json → String) (uuid4 text : String) :
    RevitPy.McpMessage.from_json py (.text text) =
      (McpMessage.from_json ⟨dumps, py.loads⟩ uuid4 (.text text)).map McpMessage.received := by
  simp only [RevitPy.McpMessage.from_json, McpMessage.from_json]
  rcases py.loads text with e | (_ | _ | _ | _ | _ | parsed)
  case ok.obj =>
    simp only [classify]
    by_cases answers : (Json.has parsed "result" || Json.has parsed "error") = true
    · rw [if_pos answers, if_pos answers]
      rfl
    · rw [if_neg answers, if_neg answers]
      generalize Json.getD parsed "method" .null = method
      generalize Json.getD parsed "id" .null = msg_id
      cases method <;> cases msg_id <;> rfl
  all_goals rfl

end RevitPy.McpRoundTrip
