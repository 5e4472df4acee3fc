import Mathlib.Data.List.Basic
import RevitPy.Json

/-!
# Pushing elements to Speckle

The elements that can be mapped are sent in one commit. The result of a push counts the
mapped ones, whether the commit was accepted or not.
-/

namespace RevitPy.SpeckleSync

/-- What calls raise. A `SpeckleSyncError` is an `Exception` too. -/
inductive Raised
  | SpeckleSyncError (message : String)
  | Exception (message : String)
  | BaseException (message : String)
  deriving DecidableEq

def Raised.message : Raised → String
  | .SpeckleSyncError message => message
  | .Exception message => message
  | .BaseException message => message

/-! ## The client -/

/-- Represents a single Speckle commit. -/
structure SpeckleCommit where
  id : Json
  message : String
  author : String
  created_at : String
  source_application : String := "revitpy"
  total_objects : Nat := 0

/-- The input of the mutation `commitCreate`. -/
structure CommitCreateInput where
  streamId : String
  branchName : String
  message : String
  sourceApplication : String
  totalChildrenCount : Nat
  objectId : String

/-- The server's answer to a mutation: its data, or what `_graphql` raises. -/
abbrev Graphql := CommitCreateInput → Except Raised Json

variable {ε ο : Type}

/-- Send objects to a Speckle stream and create a commit. -/
def send_objects (_graphql : Graphql) (stream_id : String) (objects : List ο) (branch : String := "main") (message : String := "") :
    Except Raised SpeckleCommit :=
  let commit_message := if message = "" then "revitpy push (" ++ toString objects.length ++ " objects)" else message
  let failed := "Failed to send objects to stream " ++ stream_id
  match _graphql {
    streamId := stream_id
    branchName := branch
    message := commit_message
    sourceApplication := "revitpy"
    totalChildrenCount := objects.length
    objectId := "revitpy-" ++ stream_id ++ "-" ++ toString objects.length } with
  | .ok (.obj data) => .ok {
    id := Json.getD data "commitCreate" (.str "")
    message := commit_message
    author := "revitpy"
    created_at := ""
    total_objects := objects.length }
  | .ok _ => .error (.SpeckleSyncError failed)
  | .error (.SpeckleSyncError message) => .error (.SpeckleSyncError message)
  | .error (.Exception _) => .error (.SpeckleSyncError failed)
  | .error (.BaseException message) => .error (.BaseException message)

/-! ## The synchronisation engine -/

inductive SyncDirection
  | PUSH
  | PULL
  | BIDIRECTIONAL
  deriving DecidableEq

inductive SyncMode
  | FULL
  | INCREMENTAL
  | SELECTIVE
  deriving DecidableEq

/-- Result of a synchronisation operation. -/
structure SyncResult where
  direction : SyncDirection
  objects_sent : Nat := 0
  objects_received : Nat := 0
  errors : List String := []
  commit_id : Option Json := none

/-- What the engine works with: the client, the mapper and the change tracker. -/
structure Engine (ε ο : Type) where
  _graphql : Graphql
  receive_objects : String → Except Raised (List ο)
  to_speckle : ε → Except Raised ο
  from_speckle : ο → Except Raised ο
  type_name : ε → String
  is_changed : Option (ε → Bool) := none

variable (self : Engine ε ο)

/-- The loop over the elements: an `Exception` of the mapper is noted. -/
def map_elements : List ε → Except Raised (List ο × List String)
  | [] => .ok ([], [])
  | element :: rest => match self.to_speckle element with
    | .error (.BaseException message) => .error (.BaseException message)
    | .error raised => do
      let (mapped_objects, errors) ← map_elements rest
      return (mapped_objects, ("Failed to map " ++ self.type_name element ++ ": " ++ raised.message) :: errors)
    | .ok obj => do
      let (mapped_objects, errors) ← map_elements rest
      return (obj :: mapped_objects, errors)

/-- Push local elements to a Speckle stream. -/
def push (elements : List ε) (stream_id : String) (branch : String := "main") (message : String := "") : Except Raised SyncResult := do
  let (mapped_objects, errors) ← map_elements self elements
  let result : SyncResult := { direction := .PUSH, objects_sent := mapped_objects.length, errors }
  if mapped_objects.isEmpty then return result
  match send_objects self._graphql stream_id mapped_objects branch message with
  | .ok commit => return { result with commit_id := some commit.id }
  | .error (.SpeckleSyncError message) => return { result with errors := errors ++ [message] }
  | .error raised => .error raised

/-- The loop over the received objects: an `Exception` of the mapper skips the object. -/
def map_objects : List ο → Except Raised (List ο)
  | [] => .ok []
  | obj :: rest => match self.from_speckle obj with
    | .error (.BaseException message) => .error (.BaseException message)
    | .error _ => map_objects rest
    | .ok element => do
      let mapped ← map_objects rest
      return element :: mapped

/-- Pull objects from a Speckle stream and map them back. -/
def pull (stream_id : String) : Except Raised (List ο) := do
  let raw_objects ← self.receive_objects stream_id
  map_objects self raw_objects

def SyncDirection.pushes : SyncDirection → Bool
  | .PUSH | .BIDIRECTIONAL => true
  | .PULL => false

def SyncDirection.pulls : SyncDirection → Bool
  | .PULL | .BIDIRECTIONAL => true
  | .PUSH => false

/-- The elements of an incremental synchronisation are those that the tracker holds for changed. -/
def sync_elements (elements : List ε) : SyncMode → List ε
  | .INCREMENTAL => match self.is_changed with
    | some is_changed => elements.filter is_changed
    | none => elements
  | _ => elements

/-- Run a synchronisation operation. -/
def sync (elements : List ε) (stream_id : String) (mode : SyncMode := .INCREMENTAL) (direction : SyncDirection := .BIDIRECTIONAL) :
    Except Raised SyncResult := do
  let pushed ← if direction.pushes then push self (sync_elements self elements mode) stream_id else .ok { direction }
  let objects_received ← if direction.pulls then (pull self stream_id).map List.length else .ok 0
  return { pushed with direction, objects_received }

/-! ## What a push reports -/

/-- The objects that the mapper makes of the elements. -/
def mapped (elements : List ε) : List ο := elements.filterMap fun element => (self.to_speckle element).toOption

/-- How many elements the mapper raises for. -/
def mapping_failures (elements : List ε) : Nat := elements.countP fun element => !(self.to_speckle element).isOk

/-- The send of a push, if anything could be mapped. -/
def sent (elements : List ε) (stream_id branch message : String) : Option (Except Raised SpeckleCommit) :=
  if (mapped self elements).isEmpty then none else some (send_objects self._graphql stream_id (mapped self elements) branch message)

/-- The objects in the commit that was accepted. -/
def accepted : Option (Except Raised SpeckleCommit) → Nat
  | some (.ok commit) => commit.total_objects
  | _ => 0

def send_failures : Option (Except Raised SpeckleCommit) → Nat
  | some (.error _) => 1
  | _ => 0

/-- The numbers of a result are those of what happened. -/
structure Accounted (engine : Engine ε ο) (elements : List ε) (stream_id branch message : String) (result : SyncResult) : Prop where
  objects_sent : result.objects_sent = accepted (sent engine elements stream_id branch message)
  errors : result.errors.length = mapping_failures engine elements + send_failures (sent engine elements stream_id branch message)

/-- Nothing could be mapped, or the commit was accepted. -/
def Delivered (elements : List ε) (stream_id branch message : String) : Prop :=
  ∀ raised, sent self elements stream_id branch message ≠ some (.error raised)

variable {self} {elements : List ε} {stream_id branch message : String} {result : SyncResult}

theorem map_elements_ok {mapped_objects : List ο} {errors : List String} (ended : map_elements self elements = .ok (mapped_objects, errors)) :
    mapped_objects = mapped self elements ∧ errors.length = mapping_failures self elements := by
  induction elements generalizing mapped_objects errors with
  | nil =>
    cases ended
    exact ⟨rfl, rfl⟩
  | cons element rest ih =>
    rw [map_elements] at ended
    cases outcome : self.to_speckle element with
    | ok obj =>
      cases later : map_elements self rest with
      | error raised => simp [outcome, later, bind, Except.bind] at ended
      | ok pair =>
        simp only [outcome, later, bind, Except.bind, pure, Except.pure, Except.ok.injEq, Prod.mk.injEq] at ended
        obtain ⟨rfl, rfl⟩ := ended
        obtain ⟨same, counted⟩ := ih later
        constructor
        · simp [mapped, outcome, same, Except.toOption]
        · simp [mapping_failures, outcome, counted, Except.isOk, Except.toBool]
    | error raised =>
      have goes_on : ∃ message, (do
          let (mapped_objects, errors) ← map_elements self rest
          return (mapped_objects, message :: errors)) = Except.ok (ε := Raised) (mapped_objects, errors) := by
        cases raised with
        | BaseException message => simp [outcome] at ended
        | _ => exact ⟨_, by simpa only [outcome] using ended⟩
      obtain ⟨message, ended⟩ := goes_on
      cases later : map_elements self rest with
      | error raised => simp [later, bind, Except.bind] at ended
      | ok pair =>
        simp only [later, bind, Except.bind, pure, Except.pure, Except.ok.injEq, Prod.mk.injEq] at ended
        obtain ⟨rfl, rfl⟩ := ended
        obtain ⟨same, counted⟩ := ih later
        constructor
        · simp [mapped, outcome, same, Except.toOption]
        · simp [mapping_failures, outcome, counted, Except.isOk, Except.toBool]

theorem total_objects_sent {commit : SpeckleCommit} {_graphql : Graphql} {objects : List ο}
    (accepted : send_objects _graphql stream_id objects branch message = .ok commit) : commit.total_objects = objects.length := by
  dsimp only [send_objects] at accepted
  generalize (if message = "" then _ else message) = commit_message at accepted
  split at accepted
  · rw [← Except.ok.inj accepted]
  all_goals cases accepted

/-- A push that returns counts what was mapped, and each error. -/
theorem push_ok (returned : push self elements stream_id branch message = .ok result) :
    result.objects_sent = (mapped self elements).length ∧
      result.errors.length = mapping_failures self elements + send_failures (sent self elements stream_id branch message) := by
  unfold push at returned
  cases looped : map_elements self elements with
  | error raised => simp [looped, bind, Except.bind] at returned
  | ok pair =>
    obtain ⟨mapped_objects, errors⟩ := pair
    obtain ⟨rfl, counted⟩ := map_elements_ok looped
    simp only [looped, bind, Except.bind] at returned
    unfold sent
    by_cases nothing : (mapped self elements).isEmpty = true
    · simp only [nothing, if_true, pure, Except.pure, Except.ok.injEq] at returned ⊢
      subst returned
      exact ⟨rfl, counted⟩
    · simp only [nothing, Bool.false_eq_true, if_false] at returned ⊢
      cases outcome : send_objects self._graphql stream_id (mapped self elements) branch message with
      | ok commit =>
        simp only [outcome, pure, Except.pure, Except.ok.injEq] at returned
        subst returned
        exact ⟨rfl, counted⟩
      | error raised =>
        cases raised with
        | SpeckleSyncError message =>
          simp only [outcome, pure, Except.pure, Except.ok.injEq] at returned
          subst returned
          exact ⟨rfl, by simp [counted, send_failures]⟩
        | Exception message => simp [outcome] at returned
        | BaseException message => simp [outcome] at returned

/-- What was mapped is what was accepted, exactly if the send has not failed. -/
theorem length_mapped_iff :
    (mapped self elements).length = accepted (sent self elements stream_id branch message) ↔ Delivered self elements stream_id branch message := by
  unfold Delivered sent
  by_cases nothing : (mapped self elements).isEmpty = true
  · simp only [nothing, if_true]
    exact iff_of_true (by simpa [accepted] using nothing) fun raised => nofun
  · simp only [nothing, Bool.false_eq_true, if_false]
    cases outcome : send_objects self._graphql stream_id (mapped self elements) branch message with
    | ok commit => exact iff_of_true (total_objects_sent outcome).symm fun raised => nofun
    | error raised => exact iff_of_false (by simpa [accepted] using nothing) fun delivered => delivered raised rfl

theorem push_accounted (returned : push self elements stream_id branch message = .ok result) :
    Accounted self elements stream_id branch message result ↔ Delivered self elements stream_id branch message := by
  obtain ⟨objects_sent, errors⟩ := push_ok returned
  rw [← length_mapped_iff, ← objects_sent]
  exact ⟨fun accounted => accounted.objects_sent, fun same => ⟨same, errors⟩⟩

/-- A synchronisation that pushes reports the numbers of its push. -/
theorem sync_push {mode : SyncMode} {direction : SyncDirection} (pushes : direction.pushes = true)
    (returned : sync self elements stream_id mode direction = .ok result) :
    ∃ pushed, push self (sync_elements self elements mode) stream_id = .ok pushed ∧
      result.objects_sent = pushed.objects_sent ∧ result.errors = pushed.errors := by
  simp only [sync, pushes, if_true] at returned
  cases first : push self (sync_elements self elements mode) stream_id with
  | error raised => simp [first, bind, Except.bind] at returned
  | ok pushed =>
    simp only [first, bind, Except.bind] at returned
    split at returned
    · cases pulled : (pull self stream_id).map List.length with
      | error raised => simp [pulled] at returned
      | ok objects_received =>
        simp only [pulled, pure, Except.pure, Except.ok.injEq] at returned
        subst returned
        exact ⟨pushed, rfl, rfl, rfl⟩
    · cases returned
      exact ⟨pushed, rfl, rfl, rfl⟩

/-- A push that returns reports what happened exactly if the send, where there is one, is accepted;
    so does a synchronisation that pushes. -/
theorem push_accounted_iff (self : Engine ε ο) (elements : List ε) (stream_id : String) :
    (∀ branch message result, push self elements stream_id branch message = .ok result →
      (Accounted self elements stream_id branch message result ↔ Delivered self elements stream_id branch message)) ∧
    ∀ mode direction result, direction.pushes = true → sync self elements stream_id mode direction = .ok result →
      (Accounted self (sync_elements self elements mode) stream_id "main" "" result ↔
        Delivered self (sync_elements self elements mode) stream_id "main" "") := by
  refine ⟨fun branch message result returned => push_accounted returned, fun mode direction result pushes returned => ?_⟩
  obtain ⟨pushed, ended, objects_sent, errors⟩ := sync_push pushes returned
  rw [← push_accounted ended]
  constructor
  · exact fun accounted => ⟨objects_sent ▸ accounted.objects_sent, errors ▸ accounted.errors⟩
  · exact fun accounted => ⟨objects_sent.trans accounted.objects_sent, (congrArg List.length errors).trans accounted.errors⟩

/-- An engine whose mapper returns every element, and whose server gives one answer. -/
def answering (answer : Except Raised Json) : Engine String String where
  _graphql _ := answer
  receive_objects _ := .ok []
  to_speckle := .ok
  from_speckle := .ok
  type_name _ := "WallElement"

/-- The server accepts the commit of a wall. -/
theorem wall_accounted : ∃ result, push (answering (.ok (.obj [("commitCreate", .str "commit-1")]))) ["wall"] "stream-1" = .ok result ∧
    Accounted (answering (.ok (.obj [("commitCreate", .str "commit-1")]))) ["wall"] "stream-1" "main" "" result :=
  ⟨_, rfl, ((push_accounted_iff _ ["wall"] "stream-1").1 "main" "" _ rfl).mpr fun _ => nofun⟩

/-- The server refuses it: one object is reported as sent. -/
theorem refused_wall : ∃ result, push (answering (.error (.SpeckleSyncError "GraphQL errors: forbidden"))) ["wall"] "stream-1" = .ok result ∧
    result.objects_sent = 1 ∧
    ¬ Accounted (answering (.error (.SpeckleSyncError "GraphQL errors: forbidden"))) ["wall"] "stream-1" "main" "" result :=
  ⟨_, rfl, rfl, fun accounted => absurd accounted.objects_sent (by decide)⟩

end RevitPy.SpeckleSync
