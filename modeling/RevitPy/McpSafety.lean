import RevitPy.McpServer
import RevitPy.Runs

/-!
# Safety policies

A tool is looked up twice, once for the policy check and once for its execution, and
nothing comes between. So every handler that is called belongs to a tool that the policy
permits, under the name that was asked for as under its own.
-/

namespace RevitPy
open Runs
variable {η ω : Type}

/-- The policy permits the call of a tool under a name. -/
structure SafetyConfig.Permits (config : SafetyConfig) (name : String) (tool : ToolDefinition) : Prop where
  asked : name ∉ config.blocked_tools
  own : tool.name ∉ config.blocked_tools
  read_only : config.mode = .READ_ONLY → tool.category ≠ .MODIFY

theorem SafetyConfig.validate_tool_call_ok_iff (config : SafetyConfig) (tool : ToolDefinition) :
    config.validate_tool_call tool = .ok () ↔
      tool.name ∉ config.blocked_tools ∧ (config.mode = .READ_ONLY → tool.category ≠ .MODIFY) := by
  unfold validate_tool_call
  split
  · next blocked => simp [blocked]
  · next allowed =>
    split
    · next modifies => simp [allowed, modifies]
    · next harmless => simpa [allowed] using harmless

namespace McpServer
variable (py : Surroundings η ω)

/-- Every call of a handler was permitted. -/
def Enforced (self : McpServer η ω) : Prop := ∀ call ∈ self.invoked, self._safety.Permits call.1 call.2

/-- Tools stand in the registry under their names. -/
def Registered (self : McpServer η ω) : Prop :=
  ∀ name definition handler, self._tools.get? name = some (definition, handler) → definition.name = name

/-- A step leaves registry and policy alone, and calls at most one handler. -/
structure Calls (before after : McpServer η ω) (called : List (String × ToolDefinition)) : Prop where
  tools : after._tools = before._tools
  safety : after._safety = before._safety
  invoked : after.invoked = before.invoked ++ called

theorem Calls.none (self : McpServer η ω) : self.Calls self [] := ⟨rfl, rfl, (List.append_nil _).symm⟩

variable {py} {self : McpServer η ω}

/-- The executed tool is the one that is registered under the name. -/
theorem execute_tool_calls (name : String) (arguments : Json) :
    ∃ called, self.Calls (self.execute_tool py name arguments).1 called ∧
      ∀ call ∈ called, call.1 = name ∧ ∃ handler, self._tools.get? name = some (call.2, handler) := by
  unfold execute_tool
  split
  · exact ⟨[], .none self, by simp⟩
  · next definition handler found =>
    split
    · exact ⟨[], .none self, by simp⟩
    · split
      · refine ⟨[(name, definition)], ?_, by simpa using ⟨handler, found⟩⟩
        simp only
        split
        · exact ⟨rfl, rfl, rfl⟩
        · exact ⟨rfl, rfl, rfl⟩
      · exact ⟨[], .none self, by simp⟩
    · exact ⟨[], .none self, by simp⟩

variable (registered : self.Registered)
include registered

theorem handle_tools_call_calls (message : McpRequest) (params : Json) :
    ∃ called, self.Calls (self._handle_tools_call py message params).1 called ∧
      ∀ call ∈ called, self._safety.Permits call.1 call.2 := by
  have none : ∃ called, self.Calls self called ∧ ∀ call ∈ called, self._safety.Permits call.1 call.2 := ⟨[], .none self, by simp⟩
  unfold _handle_tools_call
  split
  · simp only
    split
    · exact none
    · exact none
    · next name definition handler found =>
      split
      · exact none
      · next allowed =>
        -- the checked tool is the executed one
        obtain ⟨own, read_only⟩ := (self._safety.validate_tool_call_ok_iff definition).mp allowed
        obtain ⟨called, calls, looked_up⟩ := execute_tool_calls name (Json.getD _ "arguments" (.obj []))
        refine ⟨called, ?_, fun call member => ?_⟩
        · split
          · next answer => rwa [answer] at calls
          · next answer =>
            rw [answer] at calls
            split
            · exact calls
            · exact calls
        · obtain ⟨asked, handler', found'⟩ := looked_up call member
          rw [(lookup_some found).2] at found'
          obtain ⟨rfl, rfl⟩ := Prod.mk.inj (Option.some.inj found')
          exact ⟨asked ▸ registered _ _ _ (lookup_some found).2 ▸ own, own, read_only⟩
  · exact none

theorem handle_message_calls (message : McpRequest) :
    ∃ called, self.Calls (self._handle_message py message).1 called ∧ ∀ call ∈ called, self._safety.Permits call.1 call.2 := by
  have none : ∃ called, self.Calls self called ∧ ∀ call ∈ called, self._safety.Permits call.1 call.2 := ⟨[], .none self, by simp⟩
  unfold _handle_message
  split
  · exact none
  · exact none
  · exact handle_tools_call_calls registered message message.params
  · exact none
  · exact none
  · exact none

/-- Whatever a message is, the handlers called for it are permitted. -/
theorem handle_connection_calls (raw_message : RawMessage) :
    ∃ called, self.Calls (self._handle_connection py raw_message).1 called ∧
      ∀ call ∈ called, self._safety.Permits call.1 call.2 := by
  have none : ∃ called, self.Calls self called ∧ ∀ call ∈ called, self._safety.Permits call.1 call.2 := ⟨[], .none self, by simp⟩
  unfold _handle_connection
  split
  · exact none
  · next message parsed =>
    obtain ⟨called, calls, permitted⟩ := handle_message_calls registered message
    refine ⟨called, ?_, permitted⟩
    split
    · next answer => rwa [answer] at calls
    · next answer =>
      rw [answer] at calls
      split
      · exact calls
      · exact calls
  · exact none

omit registered

/-! ## Runs -/

theorem Registered.register_tool (registered : self.Registered) (definition : ToolDefinition) (handler : η) :
    (self.register_tool definition handler).Registered := by
  intro name definition' handler' found
  by_cases same : definition.name = name
  · subst same
    simp only [McpServer.register_tool, Dict.get?_set_self, Option.some.injEq, Prod.mk.injEq] at found
    rw [found.1]
  · rw [McpServer.register_tool, Dict.get?_set_ne _ _ same] at found
    exact registered name definition' handler' found

/-- What holds between the inputs. -/
structure Safe (server : McpServer η ω) : Prop where
  registered : server.Registered
  enforced : server.Enforced

theorem step_safety (registered : self.Registered) (input : Input η) : (self.step py input)._safety = self._safety := by
  cases input with
  | message raw_message =>
    obtain ⟨_, calls, _⟩ := handle_connection_calls registered raw_message
    exact calls.safety
  | register_tool definition handler => rfl
  | register_template name template => rfl

theorem Safe.step (safe : self.Safe) (input : Input η) : (self.step py input).Safe := by
  cases input with
  | message raw_message =>
    obtain ⟨called, calls, permitted⟩ := handle_connection_calls safe.registered raw_message
    constructor
    · intro name definition handler found
      exact safe.registered name definition handler (calls.tools ▸ found)
    · intro call member
      have earlier_or_now : call ∈ self.invoked ++ called := calls.invoked ▸ member
      rw [step_safety safe.registered]
      rcases List.mem_append.mp earlier_or_now with earlier | now
      · exact safe.enforced call earlier
      · exact permitted call now
  | register_tool definition handler => exact ⟨safe.registered.register_tool definition handler, safe.enforced⟩
  | register_template name template => exact ⟨safe.registered, safe.enforced⟩

theorem safe_new (config : McpServerConfig) (tools : List (ToolDefinition × η)) (safety : SafetyConfig) (prompts : Dict String String)
    (world : ω) : (new config tools safety prompts world).Safe ∧ (new config tools safety prompts world)._safety = safety := by
  have start : (⟨config, ∅, safety, prompts, world, []⟩ : McpServer η ω).Safe :=
    ⟨fun name definition handler found => by simp at found, fun call member => absurd member List.not_mem_nil⟩
  refine List.foldlRecOn tools _ (motive := fun server : McpServer η ω => server.Safe ∧ server._safety = safety) ⟨start, rfl⟩ ?_
  intro self kept entry _
  exact ⟨⟨kept.1.registered.register_tool entry.1 entry.2, kept.1.enforced⟩, kept.2⟩

/-- Through every run of messages and registrations, no handler is called that the policy
    does not permit. -/
theorem policy_enforced (py : Surroundings η ω) (config : McpServerConfig) (tools : List (ToolDefinition × η)) (safety : SafetyConfig)
    (prompts : Dict String String) (world : ω) (inputs : List (Input η)) :
    Throughout (step py) (fun self => ∀ call ∈ self.invoked, safety.Permits call.1 call.2) (new config tools safety prompts world)
      inputs := by
  have keeps (self : McpServer η ω) (input : Input η) (holds : self.Safe ∧ self._safety = safety) (_ : True) :
      (self.step py input).Safe ∧ (self.step py input)._safety = safety :=
    ⟨holds.1.step input, (step_safety holds.1.registered input).trans holds.2⟩
  have start := safe_new config tools safety prompts world
  refine throughout_mono ?_ (throughout_keeps keeps start (along_of_mem fun _ _ _ => trivial))
  exact fun self ⟨safe, policy⟩ => policy ▸ safe.enforced

end McpServer
end RevitPy
