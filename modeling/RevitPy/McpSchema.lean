import RevitPy.McpRequests
import RevitPy.McpSafety

/-!
# Listed schemas and executed calls

A client learns from `tools/list` which arguments a tool requires. The server checks a
call against the definition of the tool and not against what it has listed; the two are
shown to agree, for as long as no tool is registered in between.
-/

namespace RevitPy
open Runs
variable {η ω : Type}

/-! ## What a client reads -/

namespace McpSchema

def members : Json → List (String × Json)
  | .obj members => members
  | _ => []

def strings : Json → List String
  | .arr items => items.filterMap fun
    | .str value => some value
    | _ => none
  | _ => []

def listed_name (entry : Json) : Option String := match Json.get? (members entry) "name" with
  | some (.str name) => some name
  | _ => none

def inputSchema (entry : Json) : List (String × Json) := members (Json.getD (members entry) "inputSchema" .null)

/-- The names under `required`, if it is there. -/
def listed_required (entry : Json) : List String := strings (Json.getD (inputSchema entry) "required" .null)

def listed_properties (entry : Json) : List String := (members (Json.getD (inputSchema entry) "properties" .null)).map Prod.fst

theorem dumpAll_ok {α β : Type} {dump : α → Except String β} {parts : List α} {written : List β} (dumped : dumpAll dump parts = .ok written) :
    List.Forall₂ (fun part w => dump part = .ok w) parts written := by
  induction parts generalizing written with
  | nil =>
    obtain rfl := Except.ok.inj dumped
    exact .nil
  | cons part rest ih =>
    unfold dumpAll at dumped
    split at dumped
    · cases dumped
    · rename_i first head
      split at dumped
      · cases dumped
      · rename_i others tail
        obtain rfl := Except.ok.inj dumped
        exact .cons head (ih tail)

theorem dumped_keys {entries : List (String × Except String Json)} {written : List (String × Json)}
    (each : List.Forall₂ (fun member w => dump_member member = .ok w) entries written) : written.map Prod.fst = entries.map Prod.fst := by
  induction each with
  | nil => rfl
  | @cons member w rest others head _ ih =>
    have same : w.1 = member.1 := by
      unfold dump_member at head
      split at head
      · cases head
      · rw [← Except.ok.inj head]
    rw [List.map_cons, List.map_cons, same, ih]

theorem strings_str (names : List String) : strings (.arr (names.map Json.str)) = names := by
  simp [strings, List.filterMap_map]

/-- A listed tool shows its name, its parameters and which of them are required. -/
theorem tool_entry_read {definition : ToolDefinition} {entry : Json} (written : definition.tool_entry = .ok entry) :
    listed_name entry = some definition.name ∧ listed_required entry = definition.required ∧
      listed_properties entry = definition.properties.keys := by
  unfold ToolDefinition.tool_entry at written
  split at written
  · cases written
  · rename_i properties dumped
    obtain rfl := Except.ok.inj written
    have keys := dumped_keys (dumpAll_ok dumped)
    refine ⟨rfl, ?_, ?_⟩
    · by_cases none : definition.required = []
      · rw [if_pos none, none]
        rfl
      · rw [if_neg none]
        exact strings_str definition.required
    · by_cases none : definition.required = []
      · rw [if_pos none]
        exact keys
      · rw [if_neg none]
        exact keys

/-- Every parameter of a tool is among its properties. -/
theorem required_is_property (definition : ToolDefinition) : ∀ name ∈ definition.required, name ∈ definition.properties.keys := by
  have listed (params : List ToolParameter) (properties : Dict String (Except String Json)) (name : String) :
      name ∈ (params.foldl (fun properties param => properties.set param.name param.schema) properties).keys ↔
        name ∈ properties.keys ∨ ∃ param ∈ params, param.name = name := by
    induction params generalizing properties with
    | nil => simp
    | cons param rest ih =>
      rw [List.foldl_cons, ih, Dict.mem_keys_set]
      simp only [List.mem_cons, exists_eq_or_imp, eq_comm (a := name)]
      tauto
  intro name member
  obtain ⟨param, inside, rfl⟩ := List.mem_map.mp member
  exact (listed definition.parameters ∅ _).mpr (.inr ⟨param, (List.mem_filter.mp inside).1, rfl⟩)

end McpSchema

namespace McpServer
variable {py : Surroundings η ω} {self : McpServer η ω}
open McpSchema

/-! ## What the server does -/

/-- A call of a tool, by a name and with an object of arguments. -/
structure Calling (params : List (String × Json)) (name : String) (arguments : List (String × Json)) : Prop where
  name : Json.getD params "name" (.str "") = .str name
  arguments : Json.getD params "arguments" (.obj []) = .obj arguments

/-- With all that is required, the handler is called with the arguments as they are. Without it,
    the answer is an error, which does not say what is missing, and nothing happened. -/
def Checked (py : Surroundings η ω) (self : McpServer η ω) (message : McpRequest) (name : String) (definition : ToolDefinition) (handler : η)
    (required : List String) (arguments : List (String × Json)) (ending : McpServer η ω × Except String McpResponse) : Prop :=
  if ∀ p ∈ required, Json.has arguments p = true then
    ending.1.invoked = self.invoked ++ [(name, definition)] ∧ ending.1.world = (py.call handler self.world arguments).1
  else ending = (self, .ok ⟨message.id, .result (.ok (content "None" true))⟩)

theorem missing_obj (py : Surroundings η ω) (definition : ToolDefinition) (arguments : List (String × Json)) :
    missing py definition (.obj arguments) = .ok (definition.required.filter fun p => !Json.has arguments p) := by
  unfold missing
  by_cases none : definition.required = []
  · rw [if_pos none, none]
    rfl
  · rw [if_neg none]
    rfl

theorem call_checked {params : List (String × Json)} {name : String} {arguments : List (String × Json)} (calling : Calling params name arguments)
    {definition : ToolDefinition} {handler : η} (found : self._tools.get? name = some (definition, handler))
    (permitted : self._safety.validate_tool_call definition = .ok ()) (message : McpRequest) :
    Checked py self message name definition handler definition.required arguments (self._handle_tools_call py message (.obj params)) := by
  have looked : lookup py self._tools (.str name) = .ok (some (name, definition, handler)) := by simp [lookup, Json.hashable, found]
  unfold Checked _handle_tools_call
  simp only [calling.name, calling.arguments, looked, permitted]
  by_cases complete : ∀ p ∈ definition.required, Json.has arguments p = true
  · rw [if_pos complete]
    have nothing : missing py definition (.obj arguments) = .ok [] := by
      rw [missing_obj]
      exact congrArg Except.ok (List.filter_eq_nil_iff.mpr fun p member => by simp [complete p member])
    have executed : (self.execute_tool py name (.obj arguments)).1.invoked = self.invoked ++ [(name, definition)] ∧
        (self.execute_tool py name (.obj arguments)).1.world = (py.call handler self.world arguments).1 := by
      unfold execute_tool
      simp only [found, nothing]
      split <;> exact ⟨rfl, rfl⟩
    split
    · rename_i answer
      rw [answer] at executed
      exact executed
    · rename_i answer
      rw [answer] at executed
      split <;> exact executed
  · rw [if_neg complete]
    have lacking : (definition.required.filter fun p => !Json.has arguments p) ≠ [] := fun none =>
      complete fun p member => by simpa using List.filter_eq_nil_iff.mp none p member
    have executed : self.execute_tool py name (.obj arguments) =
        (self, .ok ⟨none, some ("Missing required parameters: " ++ ", ".intercalate (definition.required.filter fun p => !Json.has arguments p))⟩) := by
      unfold execute_tool
      simp only [found, missing_obj]
    simp only [executed]
    rfl

/-- Messages leave the registry and the policy alone. -/
theorem messages_keep (py : Surroundings η ω) {self : McpServer η ω} (safe : self.Safe) (messages : List RawMessage) :
    ((messages.map Input.message).foldl (step py) self)._tools = self._tools ∧
      ((messages.map Input.message).foldl (step py) self)._safety = self._safety := by
  induction messages generalizing self with
  | nil => exact ⟨rfl, rfl⟩
  | cons raw_message rest ih =>
    have calls : ∃ called, self.Calls (self._handle_connection py raw_message).1 called ∧ _ := handle_connection_calls safe.registered raw_message
    obtain ⟨_, calls, _⟩ := calls
    have stepped : (self.step py (.message raw_message)).Safe := safe.step _
    have later := ih stepped
    exact ⟨later.1.trans calls.tools, later.2.trans calls.safety⟩

/-- What is known of a listed tool: it is registered, its required parameters are among its
    properties, and after any messages a permitted call is checked as the listing says. -/
structure Listed (py : Surroundings η ω) (self : McpServer η ω) (entry : Json) (name : String) (definition : ToolDefinition) (handler : η) : Prop where
  named : listed_name entry = some name
  registered : self._tools.get? name = some (definition, handler)
  properties : ∀ p ∈ listed_required entry, p ∈ listed_properties entry
  checked : self._safety.validate_tool_call definition = .ok () → ∀ (messages : List RawMessage) message params arguments,
    Calling params name arguments →
      Checked py ((messages.map Input.message).foldl (step py) self) message name definition handler (listed_required entry) arguments
        (_handle_tools_call py ((messages.map Input.message).foldl (step py) self) message (.obj params))

/-- After every run, a listing shows exactly the registered tools, each with the schema to
    which its calls are held from then on until a tool is registered. -/
theorem calls_follow_listing (py : Surroundings η ω) (config : McpServerConfig) (tools : List (ToolDefinition × η)) (safety : SafetyConfig)
    (prompts : Dict String String) (world : ω) (inputs : List (Input η)) (entries : List Json)
    (listed : (inputs.foldl (step py) (new config tools safety prompts world)).to_mcp_tool_list = .ok (.obj [("tools", .arr entries)])) :
    let self := inputs.foldl (step py) (new config tools safety prompts world)
    List.Forall₂ (fun tool entry => ∃ definition handler, tool = (definition.name, definition, handler) ∧ Listed py self entry definition.name definition handler)
      self._tools.entries entries := by
  have safe : (inputs.foldl (step py) (new config tools safety prompts world)).Safe :=
    List.foldlRecOn inputs _ (safe_new config tools safety prompts world).1 fun _ kept input _ => kept.step input
  generalize inputs.foldl (step py) (new config tools safety prompts world) = self at safe listed
  have written : dumpAll (fun entry : ToolDefinition × η => entry.1.tool_entry) self._tools.values = .ok entries := by
    unfold to_mcp_tool_list at listed
    split at listed
    · rename_i shown dumped
      cases listed
      exact dumped
    · cases listed
  have each := dumpAll_ok written
  rw [Dict.values, List.forall₂_map_left_iff] at each
  have each := (List.forall₂_and_left (p := fun tool => tool ∈ self._tools.entries) _ _).mpr ⟨fun _ member => member, each⟩
  refine each.imp ?_
  rintro ⟨name, definition, handler⟩ entry ⟨member, shown⟩
  have found : self._tools.get? name = some (definition, handler) := (Dict.get?_some_iff ..).mpr member
  obtain rfl := safe.registered name definition handler found
  obtain ⟨named, required, properties⟩ := tool_entry_read shown
  refine ⟨definition, handler, rfl, named, found, ?_, ?_⟩
  · rw [required, properties]
    exact required_is_property definition
  · intro permitted messages message params arguments calling
    obtain ⟨same_tools, same_safety⟩ := messages_keep py safe messages
    rw [required]
    exact call_checked calling (same_tools ▸ found) (same_safety ▸ permitted) message

/-- A client that sends nothing readable. -/
def unreadable : Surroundings Unit Unit where
  loads _ := .error "Expecting value"
  str _ := ""
  type_error _ _ := "TypeError"
  call _ world _ := (world, .returned (.ok "{}"))
  render _ _ := .ok ""

def get_element : ToolDefinition := ⟨"get_element", "Get a single Revit element by ID", .QUERY, [⟨"element_id", .INTEGER, "Revit element ID", true, none⟩]⟩

def get_element_entry : Json :=
  .obj [("name", .str "get_element"), ("description", .str "Get a single Revit element by ID"),
    ("inputSchema", .obj [("type", .str "object"),
      ("properties", .obj [("element_id", .obj [("type", .str "integer"), ("description", .str "Revit element ID")])]),
      ("required", .arr [.str "element_id"])])]

theorem get_element_listed :
    List.Forall₂ (fun tool entry => ∃ definition handler, tool = (definition.name, definition, handler) ∧
        Listed unreadable (step unreadable (new {} [(get_element, ())] ⟨.CAUTIOUS, []⟩ ∅ ()) (.message .bytes)) entry definition.name definition handler)
      (step unreadable (new {} [(get_element, ())] ⟨.CAUTIOUS, []⟩ ∅ ()) (.message .bytes))._tools.entries [get_element_entry] :=
  calls_follow_listing unreadable {} [(get_element, ())] ⟨.CAUTIOUS, []⟩ ∅ () [.message .bytes] [get_element_entry] rfl

end McpServer
end RevitPy
