import RevitPy.PipeServer
import RevitPy.Runs

/-!
# Messages in the pipes

The server reads the pipes from which the clients read, and writes the ones to which they write.
-/

namespace RevitPy.NamedPipe
open Runs

def Line.isFrom (number : Nat) (line : Line) : Bool := match line.writer with
  | .client sender _ => sender == number
  | _ => false

theorem readPath_ne_writePath (base id other : String) : readPath base id ≠ writePath base other := by
  intro same
  have texts := congrArg String.toList same
  simp [readPath, writePath] at texts
  exact absurd (List.cons.inj (List.cons.inj texts).2).1 (by decide)

theorem readPath_ne_controlPath (base id : String) : readPath base id ≠ controlPath base := by
  intro same
  have texts := congrArg String.toList same
  simp [readPath, controlPath] at texts
  exact absurd (List.cons.inj (List.cons.inj texts).2).1 (by decide)

namespace Pipes

/-- The messages of each client came to the handler once and in order, and `send_message` returned only the
    responses to its messages. -/
def Delivered (s : Pipes) : Prop :=
  ∀ (number : Nat) (client : NamedPipeClient), s.clients[number]? = some client →
    (s.handled.filter (Line.isFrom number)).map Line.message = client.written ∧
    ∀ message line, (message, line) ∈ client.returned → line.writer = .response number message

/-- No reader can take a step. -/
def Quiescent (s : Pipes) : Prop := ∀ event : Event, event.reads = true → s.step event = s

/-- What clients and the server read from is empty, so that nothing was read. -/
structure Astray (s : Pipes) : Prop where
  quiet : ∀ id lines, s.queues.get? (readPath s.base_pipe_path id) = some lines → lines = []
  opened : ∀ id connection, s.connections.get? id = some connection →
    connection.read_pipe = readPath s.base_pipe_path id ∧ connection.write_pipe = writePath s.base_pipe_path id
  unhandled : s.handled = []
  unanswered : ∀ client ∈ s.clients, client.returned = []

variable {s : Pipes}

/-! ## Changes of the queues and of a client -/

theorem astray_set (inv : s.Astray) {path : String} {lines : List Line} (apart : ∀ id, readPath s.base_pipe_path id = path → lines = []) :
    ({ s with queues := s.queues.set path lines } : Pipes).Astray := by
  refine { inv with quiet := fun id held found => ?_ }
  by_cases same : path = readPath s.base_pipe_path id
  · have now : some lines = some held := by simpa [same] using found
    obtain rfl := Option.some.inj now
    exact apart id same.symm
  · exact inv.quiet id held ((Dict.get?_set_ne s.queues lines same).symm.trans found)

theorem base_mkfifo (s : Pipes) (path : String) : (s.mkfifo path).base_pipe_path = s.base_pipe_path := by
  unfold mkfifo
  split
  · rfl
  · rfl

theorem astray_mkfifo (inv : s.Astray) (path : String) : (s.mkfifo path).Astray := by
  unfold mkfifo
  split
  · exact inv
  · exact astray_set inv fun _ _ => rfl

theorem astray_write (inv : s.Astray) {path : String} (apart : ∀ id, readPath s.base_pipe_path id ≠ path) (line : Line) :
    (s.write path line).Astray :=
  astray_set inv fun id same => absurd same (apart id)

theorem astray_modifyClient (inv : s.Astray) (number : Nat) {f : NamedPipeClient → NamedPipeClient}
    (same : ∀ client, (f client).returned = client.returned) : (s.modifyClient number f).Astray := by
  refine { inv with unanswered := fun client member => ?_ }
  obtain ⟨i, there⟩ := List.getElem?_of_mem member
  simp only [modifyClient, List.getElem?_modify] at there
  obtain ⟨before, found, rfl⟩ := Option.map_eq_some_iff.mp there
  have returned := inv.unanswered before (List.mem_of_getElem? found)
  split
  · exact (same before).trans returned
  · exact returned

/-! ## The client -/

theorem astray_control_write (inv : s.Astray) (number : Nat) (line : Line) {f : NamedPipeClient → NamedPipeClient}
    (same : ∀ client, (f client).returned = client.returned) :
    ((s.write (controlPath s.base_pipe_path) line).modifyClient number f).Astray :=
  astray_modifyClient (astray_write inv (readPath_ne_controlPath s.base_pipe_path) line) number same

theorem astray_connect (inv : s.Astray) (number : Nat) : (s.connect number).Astray := by
  unfold connect
  split
  · exact inv
  · split
    · exact astray_control_write inv number _ fun _ => rfl
    · exact inv

theorem astray_connect_polls (inv : s.Astray) (number : Nat) : (s.connect_polls number).Astray := by
  unfold connect_polls
  split
  · exact inv
  · split
    · exact astray_modifyClient inv number fun _ => rfl
    · exact inv

theorem astray_send_message (inv : s.Astray) (number : Nat) (message : Message) : (s.send_message number message).Astray := by
  unfold send_message
  split
  · exact inv
  · next client _ =>
    split
    · have written := astray_write inv (fun id => readPath_ne_writePath s.base_pipe_path id client.connection_id)
        ⟨.client number client.written.length, message⟩
      exact astray_modifyClient written number fun _ => rfl
    · exact inv

/-- A client reads no line. -/
theorem astray_read_response (inv : s.Astray) (number message : Nat) : (s.read_response number message).Astray := by
  unfold read_response
  split
  · exact inv
  · split
    · split
      · exact astray_modifyClient inv number fun _ => rfl
      · exact inv
      · next line rest found => exact absurd (inv.quiet _ _ found) (List.cons_ne_nil line rest)
    · exact inv

theorem astray_disconnect (inv : s.Astray) (number : Nat) : (s.disconnect number).Astray := by
  unfold disconnect
  split
  · exact inv
  · split
    · exact astray_control_write inv number _ fun _ => rfl
    · exact inv

/-! ## The server -/

theorem astray_create_connection (inv : s.Astray) (id : String) (opening : Opening) : (s.create_connection id opening).Astray := by
  cases opening with
  | succeeds =>
    have made := astray_mkfifo (astray_mkfifo inv (readPath s.base_pipe_path id)) (writePath s.base_pipe_path id)
    have base := (base_mkfifo (s.mkfifo (readPath s.base_pipe_path id)) (writePath s.base_pipe_path id)).trans
      (base_mkfifo s (readPath s.base_pipe_path id))
    refine { made with opened := fun other connection found => ?_ }
    by_cases same : id = other
    · subst same
      have now := (Dict.get?_set_self _ _ _).symm.trans found
      obtain rfl := Option.some.inj now
      exact ⟨congrArg (readPath · id) base.symm, congrArg (writePath · id) base.symm⟩
    · exact made.opened other connection ((Dict.get?_set_ne _ _ same).symm.trans found)
  | fails made =>
    have keeps (s : Pipes) (path : String) (inv : s.Astray) (_ : True) : (s.mkfifo path).Astray := astray_mkfifo inv path
    exact foldl_keeps keeps inv (along_of_mem fun _ _ _ => trivial)

theorem astray_close (inv : s.Astray) (id : String) : (s.close id).Astray := by
  unfold close
  split
  · exact {
      inv with
      quiet := fun other lines found => inv.quiet other lines (Dict.get?_of_erase (Dict.get?_of_erase found))
      opened := fun other connection found => inv.opened other connection (Dict.get?_of_erase found) }
  · exact inv

theorem astray_handle_control_message (inv : s.Astray) (message : Message) (opening : Opening) :
    (s.handle_control_message message opening).Astray := by
  unfold handle_control_message
  dsimp only
  split
  · next id _ =>
    split
    · split
      · exact astray_create_connection inv id opening
      · exact inv
    · split
      · split
        · exact astray_close inv id
        · exact inv
      · exact inv
  · exact inv

theorem astray_read_control (inv : s.Astray) (opening : Opening) : (s.read_control opening).Astray := by
  unfold read_control
  split
  · next line rest _ _ =>
    have taken : ({ s with queues := s.queues.set (controlPath s.base_pipe_path) rest } : Pipes).Astray :=
      astray_set inv fun id same => absurd same (readPath_ne_controlPath s.base_pipe_path id)
    exact astray_handle_control_message taken line.message opening
  · exact inv

theorem astray_cleanup (inv : s.Astray) (inactive : List String) : (s.cleanup_inactive_connections inactive).Astray := by
  unfold cleanup_inactive_connections
  split
  · have keeps (s : Pipes) (id : String) (inv : s.Astray) (_ : True) : (s.close id).Astray := astray_close inv id
    exact foldl_keeps keeps inv (along_of_mem fun _ _ _ => trivial)
  · exact inv

/-- The server reads no line of a client. -/
theorem astray_handle_messages (inv : s.Astray) (outcome : HandlerOutcome) : (s.handle_connection_messages outcome).Astray := by
  unfold handle_connection_messages
  split
  · exact inv
  · split
    · exact { inv with }
    · next connection open_connection =>
      split
      · exact { inv with }
      · exact inv
      · next line rest found =>
        rw [(inv.opened _ connection open_connection).1] at found
        exact absurd (inv.quiet _ _ found) (List.cons_ne_nil line rest)

theorem astray_send_to_connection (inv : s.Astray) (id : String) (message : Message) : (s.send_to_connection id message).Astray := by
  unfold send_to_connection
  split
  · exact inv
  · next connection open_connection =>
    refine astray_write inv (fun other => ?_) ⟨.other, message⟩
    rw [(inv.opened id connection open_connection).2]
    exact readPath_ne_writePath s.base_pipe_path other id

/-! ## Every run -/

theorem astray_step (inv : s.Astray) (event : Event) : (s.step event).Astray := by
  cases event with
  | connect number => exact astray_connect inv number
  | connect_polls number => exact astray_connect_polls inv number
  | send_message number message => exact astray_send_message inv number message
  | read_response number message => exact astray_read_response inv number message
  | disconnect number => exact astray_disconnect inv number
  | read_control opening => exact astray_read_control inv opening
  | cleanup_inactive_connections inactive => exact astray_cleanup inv inactive
  | handle_connection_messages outcome => exact astray_handle_messages inv outcome
  | send_to_connection id message => exact astray_send_to_connection inv id message

theorem astray_start (base : String) (leftover connection_ids : List String) : (start base leftover connection_ids).Astray := by
  refine ⟨fun id lines found => ?_, fun id connection found => ?_, rfl, fun client member => ?_⟩
  · have there : (readPath base id, lines) ∈ (controlPath base :: leftover).map fun path => (path, []) :=
      (Dict.mem_of_get?_update found).resolve_right (by simp)
    obtain ⟨path, _, same⟩ := List.mem_map.mp there
    exact (Prod.mk.inj same).2.symm
  · simp [start] at found
  · obtain ⟨connection_id, _, rfl⟩ := List.mem_map.mp member
    rfl

theorem astray_run (base : String) (leftover connection_ids : List String) (events : List Event) :
    (events.foldl step (start base leftover connection_ids)).Astray := by
  have keeps (s : Pipes) (event : Event) (inv : s.Astray) (_ : True) : (s.step event).Astray := astray_step inv event
  exact foldl_keeps keeps (astray_start base leftover connection_ids) (along_of_mem fun _ _ _ => trivial)

theorem delivered_iff (inv : s.Astray) : s.Delivered ↔ ∀ client ∈ s.clients, client.written = [] := by
  constructor
  · intro delivered client member
    obtain ⟨number, there⟩ := List.getElem?_of_mem member
    have handled := (delivered number client there).1
    rw [inv.unhandled] at handled
    exact handled.symm
  · intro unwritten number client there
    have member := List.mem_of_getElem? there
    constructor
    · rw [inv.unhandled, unwritten client member]
      rfl
    · intro message line returned
      rw [inv.unanswered client member] at returned
      cases returned

/-- In whatever order the clients and the server take their steps, once no reader can take another the
    messages are delivered only if there are none. -/
theorem delivered_iff_unwritten (base : String) (leftover connection_ids : List String) (events : List Event) :
    let s := events.foldl step (start base leftover connection_ids)
    (s.Quiescent → s.Delivered) ↔ s.Quiescent → ∀ client ∈ s.clients, client.written = [] :=
  imp_congr_right fun _ => delivered_iff (astray_run base leftover connection_ids events)

/-- One client connects and sends a message. It waits for a response, and the server for a message. -/
theorem message_undelivered :
    let s := [Event.connect 0, .read_control .succeeds, .connect_polls 0, .send_message 0 [("type", .str "ping")]].foldl step
      (start "revitpy" [] ["client"])
    s.Quiescent ∧ ¬s.Delivered := by
  constructor
  · intro event reads
    cases event with
    | read_response number message =>
      cases number with
      | zero =>
        by_cases first : message = 0
        · subst first
          rfl
        · exact if_neg fun member => first (List.mem_singleton.mp member)
      | succ number => rfl
    | read_control opening => rfl
    | handle_connection_messages outcome => rfl
    | _ => cases reads
  · intro delivered
    have handled := (delivered 0 _ rfl).1
    cases handled

end Pipes
end RevitPy.NamedPipe
