import Mathlib.Data.List.Sort
import RevitPy.Dict
import RevitPy.Json

/-!
# The MCP server

JSON-RPC messages are read from a connection. A request is dispatched by its method;
what its handling raises is answered by the connection itself.
-/

namespace RevitPy

/-! ## Messages -/

/-- JSON-RPC request. -/
structure McpRequest where
  jsonrpc : Json
  id : Json
  method : Json
  params : Json

/-- The classes of messages that a client can send. -/
inductive McpMessage
  | request (message : McpRequest)
  | response (jsonrpc id result error : Json)
  | notification (jsonrpc method params : Json)

/-- A text or a binary frame. -/
inductive RawMessage
  | text (data : String)
  | bytes

/-- An operation of Python on a value that may be of the wrong type. -/
inductive PyOperation
  | get | hash | contains | unpack

/-- How a tool handler ends: it raises an exception with its text, or it returns data, of
    which `str` may raise in its turn. -/
inductive HandlerEnd
  | raised (error : String)
  | returned (text : Except String String)

/-- The code around the server: the interpreter, the tool handlers `η` with the state `ω`
    that they share, and the template engine. -/
structure Surroundings (η ω : Type) where
  loads : String → Except String Json
  /-- `str(value)`, for a value that is no string. -/
  str : Json → String
  /-- The text of the error that an operation raises on a value. -/
  type_error : PyOperation → Json → String
  call : η → ω → List (String × Json) → ω × HandlerEnd
  render : String → List (String × Json) → Except String String

variable {η ω : Type}

/-- Deserialize a JSON string into the appropriate message. -/
def McpMessage.from_json (py : Surroundings η ω) : RawMessage → Except String McpMessage
  | .bytes => .error "Expected a JSON object"
  | .text data => match py.loads data with
    | .error e => .error e
    | .ok (.obj parsed) =>
      let msg_id := Json.getD parsed "id" .null
      if Json.has parsed "result" || Json.has parsed "error" then
        .ok (.response (Json.getD parsed "jsonrpc" (.str "2.0")) msg_id (Json.getD parsed "result" .null)
          (Json.getD parsed "error" .null))
      else match Json.getD parsed "method" .null with
        | .null => .error "Cannot determine message type: missing 'method', 'result', and 'error'"
        | method => match msg_id with
          | .null => .ok (.notification (Json.getD parsed "jsonrpc" (.str "2.0")) method (Json.getD parsed "params" (.obj [])))
          | msg_id => .ok (.request ⟨Json.getD parsed "jsonrpc" (.str "2.0"), msg_id, method, Json.getD parsed "params" (.obj [])⟩)
    | .ok _ => .error "Expected a JSON object"

/-- What a response carries. A result is given by what `json.dumps` makes of it. -/
inductive McpPayload
  | result (value : Except String Json)
  | error (code : String) (message : String)

/-- JSON-RPC response. -/
structure McpResponse where
  id : Json
  payload : McpPayload

def McpResponse.to_json (response : McpResponse) : Except String Json := match response.payload with
  | .error code message => .ok (.obj [("jsonrpc", .str "2.0"), ("id", response.id),
      ("error", .obj [("code", .number code), ("message", .str message)])])
  | .result (.ok value) => .ok (.obj [("jsonrpc", .str "2.0"), ("id", response.id), ("result", value)])
  | .result (.error e) => .error e

/-! ## Tools -/

/-- Categories of available tools. -/
inductive ToolCategory
  | QUERY | MODIFY | ANALYZE | EXPORT
  deriving DecidableEq

/-- JSON Schema parameter types for tool definitions. -/
inductive ParameterType
  | STRING | INTEGER | NUMBER | BOOLEAN | ARRAY | OBJECT

def ParameterType.value : ParameterType → String
  | .STRING => "string"
  | .INTEGER => "integer"
  | .NUMBER => "number"
  | .BOOLEAN => "boolean"
  | .ARRAY => "array"
  | .OBJECT => "object"

/-- Definition of a single tool parameter. A default that is not `None` is given by what
    `json.dumps` makes of it. -/
structure ToolParameter where
  name : String
  type : ParameterType
  description : String
  required : Bool := true
  default : Option (Except String Json) := none

/-- Full definition of a tool exposed via MCP. -/
structure ToolDefinition where
  name : String
  description : String
  category : ToolCategory
  parameters : List ToolParameter := []

def ToolParameter.schema (param : ToolParameter) : Except String Json := match param.default with
  | none => .ok (.obj [("type", .str param.type.value), ("description", .str param.description)])
  | some (.ok default) =>
    .ok (.obj [("type", .str param.type.value), ("description", .str param.description), ("default", default)])
  | some (.error e) => .error e

def ToolDefinition.properties (definition : ToolDefinition) : Dict String (Except String Json) :=
  definition.parameters.foldl (fun properties param => properties.set param.name param.schema) ∅

def ToolDefinition.required (definition : ToolDefinition) : List String :=
  (definition.parameters.filter ToolParameter.required).map ToolParameter.name

/-- The parts of a value are written one after the other. -/
def dumpAll {α β : Type} (dump : α → Except String β) : List α → Except String (List β)
  | [] => .ok []
  | part :: rest => match dump part with
    | .error e => .error e
    | .ok written => match dumpAll dump rest with
      | .error e => .error e
      | .ok others => .ok (written :: others)

def dump_member (member : String × Except String Json) : Except String (String × Json) := match member.2 with
  | .error e => .error e
  | .ok value => .ok (member.1, value)

/-- A tool in MCP format. -/
def ToolDefinition.tool_entry (definition : ToolDefinition) : Except String Json :=
  match dumpAll dump_member definition.properties.entries with
  | .error e => .error e
  | .ok properties => .ok (.obj [("name", .str definition.name), ("description", .str definition.description),
      ("inputSchema", .obj ([("type", .str "object"), ("properties", .obj properties)] ++
        if definition.required = [] then [] else [("required", .arr (definition.required.map .str))]))])

/-! ## Safety -/

/-- Safety enforcement levels for tool execution. -/
inductive SafetyMode
  | READ_ONLY | CAUTIOUS | FULL_ACCESS
  deriving DecidableEq

/-- Safety policy configuration. -/
structure SafetyConfig where
  mode : SafetyMode
  blocked_tools : List String

/-- Check whether a tool call is allowed under the current policy. -/
def SafetyConfig.validate_tool_call (config : SafetyConfig) (tool : ToolDefinition) : Except String Unit :=
  if tool.name ∈ config.blocked_tools then .error s!"Tool '{tool.name}' is blocked by safety policy"
  else if config.mode = .READ_ONLY ∧ tool.category = .MODIFY then .error s!"Modify tool '{tool.name}' denied in READ_ONLY mode"
  else .ok ()

/-! ## The server -/

structure McpServerConfig where
  name : String := "revitpy-mcp"
  version : String := "1.0.0"

/-- The server with its registry of tools, its policy and its templates. The calls of tool
    handlers are recorded, each with the name under which the tool was asked for. -/
structure McpServer (η ω : Type) where
  _config : McpServerConfig
  _tools : Dict String (ToolDefinition × η)
  _safety : SafetyConfig
  _prompts : Dict String String
  world : ω
  invoked : List (String × ToolDefinition)

/-- Result returned from tool execution: its data, unless they are `None`, and its error. -/
structure ToolResult where
  data : Option (Except String String)
  error : Option String

/-- `dictionary.get(key)`, with the key that was found. -/
def lookup {β : Type} (py : Surroundings η ω) (dictionary : Dict String β) (key : Json) : Except String (Option (String × β)) :=
  if key.hashable then match key with
    | .str name => .ok ((dictionary.get? name).map fun entry => (name, entry))
    | _ => .ok none
  else .error (py.type_error .hash key)

section
variable {β : Type} {py : Surroundings η ω} {dictionary : Dict String β} {key : Json}

theorem lookup_error {e : String} (failed : lookup py dictionary key = .error e) : key.hashable = false := by
  cases key with
  | arr items | obj members => rfl
  | null | bool value | number value | str value => simp [lookup, Json.hashable] at failed

theorem lookup_none (found : lookup py dictionary key = .ok none) :
    key.hashable = true ∧ ∀ name, key = .str name → dictionary.get? name = none := by
  cases key with
  | arr items | obj members => simp [lookup, Json.hashable] at found
  | null | bool value | number value => simp [Json.hashable]
  | str value => simpa [lookup, Json.hashable] using found

theorem lookup_some {name : String} {entry : β} (found : lookup py dictionary key = .ok (some (name, entry))) :
    key = .str name ∧ dictionary.get? name = some entry := by
  cases key with
  | arr items | obj members => simp [lookup, Json.hashable] at found
  | null | bool value | number value => simp [lookup, Json.hashable] at found
  | str value =>
    simp only [lookup, Json.hashable, ↓reduceIte, Except.ok.injEq, Option.map_eq_some_iff, Prod.mk.injEq] at found
    obtain ⟨entry', found, rfl, rfl⟩ := found
    exact ⟨rfl, found⟩

end

/-- `f"{value}"` -/
def format (py : Surroundings η ω) : Json → String
  | .str value => value
  | value => py.str value

namespace McpServer
variable (py : Surroundings η ω) (self : McpServer η ω)

/-- Register a tool with its handler. -/
def register_tool (definition : ToolDefinition) (handler : η) : McpServer η ω :=
  { self with _tools := self._tools.set definition.name (definition, handler) }

/-- A server with the tools of a registry. -/
def new (config : McpServerConfig) (tools : List (ToolDefinition × η)) (safety : SafetyConfig) (prompts : Dict String String)
    (world : ω) : McpServer η ω :=
  tools.foldl (fun self entry => self.register_tool entry.1 entry.2) ⟨config, ∅, safety, prompts, world, []⟩

def register_template (name template : String) : McpServer η ω := { self with _prompts := self._prompts.set name template }

/-- The names of the required parameters that `arguments` does not contain. -/
def missing (definition : ToolDefinition) (arguments : Json) : Except String (List String) :=
  if definition.required = [] then .ok []
  else if arguments.container then .ok (definition.required.filter fun name => !arguments.contains name)
  else .error (py.type_error .contains arguments)

/-- Execute a tool by name. -/
def execute_tool (name : String) (arguments : Json) : McpServer η ω × Except String ToolResult :=
  match self._tools.get? name with
  | none => (self, .ok ⟨none, some s!"Unknown tool: {name}"⟩)
  | some (definition, handler) => match missing py definition arguments with
    | .error e => (self, .error e)
    | .ok [] => match arguments with
      | .obj members =>
        let (world, ended) := py.call handler self.world members
        let self := { self with world := world, invoked := self.invoked ++ [(name, definition)] }
        match ended with
        | .returned text => (self, .ok ⟨some text, none⟩)
        | .raised e => (self, .error s!"Tool '{name}' failed: {e}")
      | _ => (self, .error s!"Tool '{name}' failed: {py.type_error .unpack arguments}")
    | .ok missing => (self, .ok ⟨none, some ("Missing required parameters: " ++ ", ".intercalate missing)⟩)

def _handle_initialize (message : McpRequest) : McpResponse where
  id := message.id
  payload := .result (.ok (.obj [("protocolVersion", .str "2024-11-05"),
    ("capabilities", .obj [("tools", .obj [("listChanged", .bool true)]), ("prompts", .obj [("listChanged", .bool true)])]),
    ("serverInfo", .obj [("name", .str self._config.name), ("version", .str self._config.version)])]))

/-- Convert all tools to MCP-format JSON Schema definitions. -/
def to_mcp_tool_list : Except String Json :=
  match dumpAll (fun entry => entry.1.tool_entry) self._tools.values with
  | .ok tools => .ok (.obj [("tools", .arr tools)])
  | .error e => .error e

def _handle_tools_list (message : McpRequest) : McpResponse where
  id := message.id
  payload := .result self.to_mcp_tool_list

/-- The content of the answer to a tool call. -/
def content (text : String) (isError : Bool) : Json :=
  .obj [("content", .arr [.obj [("type", .str "text"), ("text", .str text)]]), ("isError", .bool isError)]

def _handle_tools_call (message : McpRequest) (params : Json) : McpServer η ω × Except String McpResponse := match params with
  | .obj params =>
    let tool_name := Json.getD params "name" (.str "")
    let arguments := Json.getD params "arguments" (.obj [])
    match lookup py self._tools tool_name with
    | .error e => (self, .error e)
    | .ok none => (self, .ok ⟨message.id, .error "-32602" s!"Unknown tool: {format py tool_name}"⟩)
    | .ok (some (name, definition, _)) => match self._safety.validate_tool_call definition with
      | .error e => (self, .ok ⟨message.id, .result (.ok (content s!"Safety violation: {e}" true))⟩)
      | .ok () => match self.execute_tool py name arguments with
        | (self, .error e) => (self, .error e)
        | (self, .ok result) => match result.data.getD (.ok "None") with
          | .error e => (self, .error e)
          | .ok text => (self, .ok ⟨message.id, .result (.ok (content text result.error.isSome))⟩)
  | _ => (self, .error (py.type_error .get params))

/-- Convert templates to MCP-format prompt definitions. -/
def _handle_prompts_list (message : McpRequest) : McpResponse where
  id := message.id
  payload := .result (.ok (.obj [("prompts", .arr ((self._prompts.keys.insertionSort (· ≤ ·)).map fun name =>
    .obj [("name", .str name), ("description", .str s!"Prompt template: {name}"), ("arguments", .arr [])]))]))

def _handle_prompts_get (message : McpRequest) (params : Json) : Except String McpResponse := match params with
  | .obj params =>
    let name := Json.getD params "name" (.str "")
    let arguments := Json.getD params "arguments" (.obj [])
    match lookup py self._prompts name with
    | .error e => .error e
    | .ok none => .ok ⟨message.id, .error "-32602" s!"Unknown prompt: {format py name}"⟩
    | .ok (some (name, source)) =>
      let rendered := match arguments with
        | .obj members => py.render source members
        | _ => .error (py.type_error .unpack arguments)
      match rendered with
      | .error e => .ok ⟨message.id, .error "-32603" s!"Prompt render error: {e}"⟩
      | .ok rendered => .ok ⟨message.id, .result (.ok (.obj [("description", .str s!"Prompt: {name}"),
          ("messages", .arr [.obj [("role", .str "user"),
            ("content", .obj [("type", .str "text"), ("text", .str rendered)])]])]))⟩
  | _ => .error (py.type_error .get params)

/-- Dispatch an MCP request to the appropriate handler. -/
def _handle_message (message : McpRequest) : McpServer η ω × Except String McpResponse := match message.method with
  | .str "initialize" => (self, .ok (self._handle_initialize message))
  | .str "tools/list" => (self, .ok (self._handle_tools_list message))
  | .str "tools/call" => self._handle_tools_call py message message.params
  | .str "prompts/list" => (self, .ok (self._handle_prompts_list message))
  | .str "prompts/get" => (self, self._handle_prompts_get py message message.params)
  | method => (self, .ok ⟨message.id, .error "-32601" s!"Method not found: {format py method}"⟩)

/-- The answer to an exception that reaches the connection. -/
def error_response (e : String) : Json :=
  .obj [("jsonrpc", .str "2.0"), ("id", .null), ("error", .obj [("code", .number "-32603"), ("message", .str e)])]

/-- One turn of the loop over the messages of a connection: what is sent in answer. -/
def _handle_connection (raw_message : RawMessage) : McpServer η ω × List Json := match McpMessage.from_json py raw_message with
  | .error e => (self, [error_response e])
  | .ok (.request message) => match self._handle_message py message with
    | (self, .error e) => (self, [error_response e])
    | (self, .ok response) => match response.to_json with
      | .ok sent => (self, [sent])
      | .error e => (self, [error_response e])
  | .ok _ => (self, [])

/-- What reaches the server. -/
inductive Input (η : Type)
  | message (raw_message : RawMessage)
  | register_tool (definition : ToolDefinition) (handler : η)
  | register_template (name template : String)

def step : Input η → McpServer η ω
  | .message raw_message => (self._handle_connection py raw_message).1
  | .register_tool definition handler => self.register_tool definition handler
  | .register_template name template => self.register_template name template

end McpServer
end RevitPy
