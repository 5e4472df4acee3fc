import RevitPy.McpServer
import RevitPy.Runs

/-!
# Requests and responses

Every request gets one answer. It carries the id of the request unless an exception
reaches the connection, which knows no id.
-/

namespace RevitPy
open Runs
variable {η ω : Type}

namespace McpServer
variable (py : Surroundings η ω) (self : McpServer η ω)

/-- Everything that a listing of the tools writes can be written. -/
def Listable : Prop := ∀ entry ∈ self._tools.values, ∀ property ∈ entry.1.properties.entries, ∃ schema, property.2 = .ok schema

/-- A call that gets past the checks: its arguments can be searched for the required
    parameters, and unless one is missing they are an object and the handler returns. -/
def Completes (definition : ToolDefinition) (handler : η) (arguments : Json) : Prop :=
  (definition.required ≠ [] → arguments.container = true) ∧
  ((∀ name ∈ definition.required, arguments.contains name = true) →
    ∃ members text, arguments = .obj members ∧ (py.call handler self.world members).2 = .returned (.ok text))

/-- The parameters are an object and the name in them can be looked up. -/
def Named : Json → Prop
  | .obj params => (Json.getD params "name" (.str "")).hashable = true
  | _ => False

/-- A call of a tool that is unknown, or not permitted, or completes. -/
def CallServed : Json → Prop
  | .obj params => ∀ name definition handler, Json.getD params "name" (.str "") = .str name →
      self._tools.get? name = some (definition, handler) → self._safety.validate_tool_call definition = .ok () →
        self.Completes py definition handler (Json.getD params "arguments" (.obj []))
  | _ => False

/-- A request whose handling raises nothing. -/
def Served (message : McpRequest) : Prop := match message.method with
  | .str "tools/list" => self.Listable
  | .str "tools/call" => Named message.params ∧ self.CallServed py message.params
  | .str "prompts/get" => Named message.params
  | _ => True

/-- A request gets one response, with its id; what is no request gets none. -/
def Answers (raw_message : RawMessage) : Prop := match McpMessage.from_json py raw_message with
  | .ok (.request message) =>
    ∃ members, (self._handle_connection py raw_message).2 = [.obj members] ∧ Json.get? members "id" = some message.id
  | .ok _ => (self._handle_connection py raw_message).2 = []
  | .error _ => True

variable {py} {self}

theorem from_json_id {raw_message : RawMessage} {message : McpRequest}
    (parsed : McpMessage.from_json py raw_message = .ok (.request message)) : message.id ≠ .null := by
  cases raw_message with
  | bytes => simp [McpMessage.from_json] at parsed
  | text data =>
    simp only [McpMessage.from_json] at parsed
    split at parsed
    · simp at parsed
    · split at parsed
      · simp at parsed
      · split at parsed
        · simp at parsed
        · split at parsed
          · simp at parsed
          · next given =>
            simp only [Except.ok.injEq, McpMessage.request.injEq] at parsed
            exact parsed ▸ given
    · simp at parsed

/-- What is sent for a response that can be written carries the id of the response. -/
theorem to_json_id {response : McpResponse} {sent : Json} (written : response.to_json = .ok sent) :
    ∃ members, sent = .obj members ∧ Json.get? members "id" = some response.id := by
  rcases response with ⟨id, (⟨value⟩ | ⟨code, message⟩)⟩
  · cases value with
    | error e => simp [McpResponse.to_json] at written
    | ok value =>
      obtain rfl := Except.ok.inj written
      exact ⟨_, rfl, rfl⟩
  · obtain rfl := Except.ok.inj written
    exact ⟨_, rfl, rfl⟩

theorem dumpAll_ok_iff {α β : Type} (dump : α → Except String β) (parts : List α) :
    (∃ written, dumpAll dump parts = .ok written) ↔ ∀ part ∈ parts, ∃ written, dump part = .ok written := by
  induction parts with
  | nil => simp [dumpAll]
  | cons part rest ih =>
    rw [List.forall_mem_cons, ← ih]
    rcases first : dump part with e | written
    · simp [dumpAll, first]
    · rcases others : dumpAll dump rest with e | later
      · simp [dumpAll, first, others]
      · simp [dumpAll, first, others]

theorem dump_member_ok_iff (member : String × Except String Json) :
    (∃ written, dump_member member = .ok written) ↔ ∃ value, member.2 = .ok value := by
  rcases member with ⟨key, e | value⟩
  · simp [dump_member]
  · simp [dump_member]

theorem tool_entry_ok_iff (definition : ToolDefinition) :
    (∃ value, definition.tool_entry = .ok value) ↔ ∀ property ∈ definition.properties.entries, ∃ schema, property.2 = .ok schema := by
  simp only [← dump_member_ok_iff, ← dumpAll_ok_iff, ToolDefinition.tool_entry]
  rcases dumpAll dump_member definition.properties.entries with e | members
  · simp
  · simp

theorem to_mcp_tool_list_ok_iff : (∃ value, self.to_mcp_tool_list = .ok value) ↔ self.Listable := by
  simp only [Listable, ← tool_entry_ok_iff, to_mcp_tool_list]
  rw [← dumpAll_ok_iff fun entry : ToolDefinition × η => entry.1.tool_entry]
  rcases dumpAll (fun entry : ToolDefinition × η => entry.1.tool_entry) self._tools.values with e | tools
  · simp
  · simp

/-! ## One request -/

/-- What the handling of a request yields: a response with its id that can be written. -/
def Written (message : McpRequest) (answer : Except String McpResponse) : Prop :=
  ∃ response sent, answer = .ok response ∧ response.id = message.id ∧ response.to_json = .ok sent

variable {message : McpRequest}

@[simp] theorem written_error (e : String) : ¬Written message (.error e) := by
  rintro ⟨response, sent, impossible, _⟩
  simp at impossible

theorem written_of_value (value : Json) : Written message (.ok ⟨message.id, .result (.ok value)⟩) := ⟨_, _, rfl, rfl, rfl⟩

variable (message) in
theorem written_of_error (code text : String) : Written message (.ok ⟨message.id, .error code text⟩) := ⟨_, _, rfl, rfl, rfl⟩

variable (py) in
theorem missing_ok {definition : ToolDefinition} {arguments : Json} (contained : definition.required ≠ [] → arguments.container = true) :
    missing py definition arguments = .ok (definition.required.filter fun name => !arguments.contains name) := by
  unfold missing
  split
  · next none => simp [none]
  · next some => simp [contained some]

/-- What `execute_tool` answers, as far as the server reads it. -/
def Executed (answer : Except String ToolResult) : Prop := ∃ result text, answer = .ok result ∧ result.data.getD (.ok "None") = .ok text

@[simp] theorem executed_error (e : String) : ¬Executed (.error e) := by
  rintro ⟨result, text, impossible, _⟩
  simp at impossible

theorem executed_iff {definition : ToolDefinition} {handler : η} {name : String}
    (found : self._tools.get? name = some (definition, handler)) (arguments : Json) :
    Executed (self.execute_tool py name arguments).2 ↔ self.Completes py definition handler arguments := by
  by_cases contained : definition.required ≠ [] → arguments.container = true
  · have checked := missing_ok py contained
    rcases left : definition.required.filter fun name => !arguments.contains name with _ | ⟨absent, others⟩
    · -- no parameter is missing, and the handler is called
      have all : ∀ name ∈ definition.required, arguments.contains name = true := by
        simpa [List.filter_eq_nil_iff] using left
      have completes : self.Completes py definition handler arguments ↔
          ∃ members text, arguments = .obj members ∧ (py.call handler self.world members).2 = .returned (.ok text) :=
        ⟨fun completes => completes.2 all, fun returns => ⟨contained, fun _ => returns⟩⟩
      rw [left] at checked
      rw [completes]
      cases arguments with
      | obj members =>
        rcases called : py.call handler self.world members with ⟨world, e | e | text⟩
        · simp [execute_tool, found, checked, called]
        · simp [execute_tool, found, checked, called, Executed]
        · simp [execute_tool, found, checked, called, Executed]
      | null | bool value | number value | str value | arr items => simp [execute_tool, found, checked]
    · -- a parameter is missing, and the answer says so
      rw [left] at checked
      have absent_required : absent ∈ definition.required ∧ arguments.contains absent = false := by
        have member : absent ∈ definition.required.filter fun name => !arguments.contains name := left ▸ List.mem_cons_self
        simpa only [Bool.not_eq_true'] using List.mem_filter.mp member
      have answered : Executed (self.execute_tool py name arguments).2 := by
        simp [execute_tool, found, checked, Executed]
      refine ⟨fun _ => ⟨contained, fun all => ?_⟩, fun _ => answered⟩
      simp [all absent absent_required.1] at absent_required
  · have unchecked : ∃ e, missing py definition arguments = .error e := by
      simp only [Classical.not_imp] at contained
      exact ⟨_, by rw [missing, if_neg contained.1, if_neg contained.2]⟩
    obtain ⟨e, unchecked⟩ := unchecked
    have raised : ¬Executed (self.execute_tool py name arguments).2 := by simp [execute_tool, found, unchecked]
    exact ⟨fun answered => absurd answered raised, fun completes => absurd completes.1 contained⟩

theorem written_tools_call (params : Json) :
    Written message (self._handle_tools_call py message params).2 ↔ Named params ∧ self.CallServed py params := by
  cases params with
  | obj params =>
    rcases found : lookup py self._tools (Json.getD params "name" (.str "")) with e | _ | ⟨name, definition, handler⟩
    · simp [_handle_tools_call, found, Named, lookup_error found]
    · obtain ⟨hashable, unknown⟩ := lookup_none found
      have answered : Written message (self._handle_tools_call py message (.obj params)).2 := by
        simp only [_handle_tools_call, found]
        exact written_of_error _ _ _
      refine ⟨fun _ => ⟨hashable, fun name definition handler asked entry => ?_⟩, fun _ => answered⟩
      simp [unknown name asked] at entry
    · obtain ⟨asked, entry⟩ := lookup_some found
      have named : Named (.obj params) := by simp [Named, asked, Json.hashable]
      have same {name' : String} {definition' : ToolDefinition} {handler' : η}
          (asked' : Json.getD params "name" (.str "") = .str name') (entry' : self._tools.get? name' = some (definition', handler')) :
          definition' = definition ∧ handler' = handler := by
        obtain rfl := Json.str.inj (asked'.symm.trans asked)
        simpa using entry'.symm.trans entry
      rcases allowed : self._safety.validate_tool_call definition with e | _
      · have answered : Written message (self._handle_tools_call py message (.obj params)).2 := by
          simp only [_handle_tools_call, found, allowed]
          exact written_of_value _
        refine ⟨fun _ => ⟨named, fun name' definition' handler' asked' entry' permitted => ?_⟩, fun _ => answered⟩
        obtain ⟨rfl, -⟩ := same asked' entry'
        simp [allowed] at permitted
      · have served : self.CallServed py (.obj params) ↔
            self.Completes py definition handler (Json.getD params "arguments" (.obj [])) := by
          refine ⟨fun served => served name definition handler asked entry allowed, ?_⟩
          intro completes name' definition' handler' asked' entry' permitted
          obtain ⟨rfl, rfl⟩ := same asked' entry'
          exact completes
        rw [served, ← executed_iff entry]
        rcases executed : self.execute_tool py name (Json.getD params "arguments" (.obj [])) with ⟨after, e | ⟨data, error⟩⟩
        · simp [_handle_tools_call, found, allowed, executed]
        · rcases written : data.getD (.ok "None") with e | text
          · simp [_handle_tools_call, found, allowed, executed, written, Executed]
          · have answered : Written message (self._handle_tools_call py message (.obj params)).2 := by
              simp only [_handle_tools_call, found, allowed, executed, written]
              exact written_of_value _
            exact ⟨fun _ => ⟨named, _, _, rfl, written⟩, fun _ => answered⟩
  | null | bool value | number value | str value | arr items => simp [_handle_tools_call, Named]

theorem written_prompts_get (params : Json) : Written message (self._handle_prompts_get py message params) ↔ Named params := by
  cases params with
  | obj params =>
    rcases found : lookup py self._prompts (Json.getD params "name" (.str "")) with e | _ | ⟨name, source⟩
    · simp [_handle_prompts_get, found, Named, lookup_error found]
    · simp only [_handle_prompts_get, found]
      exact ⟨fun _ => (lookup_none found).1, fun _ => written_of_error _ _ _⟩
    · have named : Named (.obj params) := by simp [Named, (lookup_some found).1, Json.hashable]
      simp only [_handle_prompts_get, found]
      refine ⟨fun _ => named, fun _ => ?_⟩
      split
      · exact written_of_error _ _ _
      · exact written_of_value _
  | null | bool value | number value | str value | arr items => simp [_handle_prompts_get, Named]

theorem written_tools_list : Written message (.ok (self._handle_tools_list message)) ↔ self.Listable := by
  rw [← to_mcp_tool_list_ok_iff]
  rcases listed : self.to_mcp_tool_list with e | value
  · simp [Written, _handle_tools_list, listed, McpResponse.to_json]
  · have answered : Written message (.ok (self._handle_tools_list message)) := by
      rw [_handle_tools_list, listed]
      exact written_of_value value
    exact ⟨fun _ => ⟨value, rfl⟩, fun _ => answered⟩

/-- A request is served exactly where its response can be written. -/
theorem written_iff : Written message (self._handle_message py message).2 ↔ self.Served py message := by
  unfold _handle_message Served
  split
  · next asked =>
    have answered : Written message (.ok (self._handle_initialize message)) := written_of_value _
    simpa [asked] using answered
  · next asked => simpa [asked] using written_tools_list
  · next asked => simpa [asked] using written_tools_call message.params
  · next asked =>
    have answered : Written message (.ok (self._handle_prompts_list message)) := written_of_value _
    simpa [asked] using answered
  · next asked => simpa [asked] using written_prompts_get message.params
  · next _ other_list other_call _ other_get =>
    have answered := written_of_error message "-32601" s!"Method not found: {format py message.method}"
    refine ⟨fun _ => ?_, fun _ => answered⟩
    split
    · next asked => exact absurd asked other_list
    · next asked => exact absurd asked other_call
    · next asked => exact absurd asked other_get
    · trivial

/-- The connection answers a request with its id exactly where the request is served. -/
theorem answers_iff {raw_message : RawMessage} (parsed : McpMessage.from_json py raw_message = .ok (.request message)) :
    self.Answers py raw_message ↔ self.Served py message := by
  rw [← written_iff, Answers, parsed]
  show (∃ members, (self._handle_connection py raw_message).2 = [.obj members] ∧ Json.get? members "id" = some message.id) ↔ _
  have nameless (e : String) : ¬∃ members, [error_response e] = [.obj members] ∧ Json.get? members "id" = some message.id := by
    rintro ⟨members, sent, id⟩
    obtain rfl := Json.obj.inj (List.singleton_inj.mp sent)
    exact from_json_id parsed (Option.some.inj id).symm
  rcases handled : self._handle_message py message with ⟨after, e | response⟩
  · have sent : (self._handle_connection py raw_message).2 = [error_response e] := by simp [_handle_connection, parsed, handled]
    rw [sent]
    exact ⟨fun answered => absurd answered (nameless e), fun written => absurd written (written_error e)⟩
  · rcases written : response.to_json with e | json
    · have sent : (self._handle_connection py raw_message).2 = [error_response e] := by
        simp [_handle_connection, parsed, handled, written]
      rw [sent]
      refine ⟨fun answered => absurd answered (nameless e), ?_⟩
      rintro ⟨_, _, same, _, written'⟩
      obtain rfl := Except.ok.inj same
      simp [written] at written'
    · have sent : (self._handle_connection py raw_message).2 = [json] := by
        simp [_handle_connection, parsed, handled, written]
      obtain ⟨members, rfl, id⟩ := to_json_id written
      rw [sent]
      constructor
      · rintro ⟨members', same, id'⟩
        obtain rfl := Json.obj.inj (List.singleton_inj.mp same)
        exact ⟨response, _, rfl, Option.some.inj (id.symm.trans id'), written⟩
      · rintro ⟨_, _, given, same, _⟩
        obtain rfl := Except.ok.inj given
        exact ⟨members, rfl, same ▸ id⟩

/-! ## Runs -/

variable (py) in
/-- Every request that arrives is served. -/
def Allowed (self : McpServer η ω) : Input η → Prop
  | .message raw_message => ∀ message, McpMessage.from_json py raw_message = .ok (.request message) → self.Served py message
  | _ => True

variable (py) in
/-- What a message asks for is answered. -/
def Answered (self : McpServer η ω) : Input η → Prop
  | .message raw_message => self.Answers py raw_message
  | _ => True

theorem answered_iff (self : McpServer η ω) (input : Input η) : self.Answered py input ↔ self.Allowed py input := by
  cases input with
  | message raw_message =>
    rcases parsed : McpMessage.from_json py raw_message with e | message | response | notification
    · simp [Answered, Answers, Allowed, parsed]
    · have answers : self.Answers py raw_message ↔ _ := answers_iff parsed
      simpa [Answered, Allowed, parsed] using answers
    · simp [Answered, Answers, Allowed, parsed, _handle_connection]
    · simp [Answered, Answers, Allowed, parsed, _handle_connection]
  | register_tool definition handler => rfl
  | register_template name template => rfl

/-- In any run of messages and registrations, every request is answered with its id exactly
    where every request is served. -/
theorem requests_answered_iff (py : Surroundings η ω) (self : McpServer η ω) (inputs : List (Input η)) :
    Along (step py) (Answered py) self inputs ↔ Along (step py) (Allowed py) self inputs := by
  have same : Answered (ω := ω) py = Allowed py := by
    funext self input
    exact propext (answered_iff self input)
  rw [same]

/-- A client that calls one tool again and again, and a handler that raises. -/
def raising : Surroundings Unit Unit where
  loads _ := .ok (.obj [("id", .number "1"), ("method", .str "tools/call"), ("params", .obj [("name", .str "measure")])])
  str _ := ""
  type_error _ _ := "TypeError"
  call _ world _ := (world, .raised "no document is open")
  render _ _ := .ok ""

def measuring : McpServer Unit Unit := .new {} [(⟨"measure", "Measure an element", .QUERY, []⟩, ())] ⟨.CAUTIOUS, []⟩ ∅ ()

/-- The answer to a call whose handler raises carries no id. -/
theorem request_not_answered : ¬measuring.Answers raising (.text "") := by
  rintro ⟨members, sent, id⟩
  obtain rfl := Json.obj.inj (List.singleton_inj.mp (sent.symm.trans rfl))
  exact absurd (show Json.null = .number "1" from Option.some.inj id) (by simp)

end McpServer
end RevitPy
