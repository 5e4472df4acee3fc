import RevitPy.Relationships

/-!
# The context

A context joins a cache, a change tracker and a relationship manager. What lies
outside (provider, relationship loader, unit of work) answers as it likes.
-/

namespace RevitPy

inductive ContextException
  | ORMException (message : String)
  | RelationshipError (message : String)
  deriving DecidableEq

/-- A call of the unit of work. -/
inductive UnitOfWorkCall (ν : Type)
  | register_new (change : ChangeSet ν)
  | register_dirty (change : ChangeSet ν)
  | register_removed (change : ChangeSet ν)
  | commit
  | rollback

/-- A unit of work raises at its last call, or does not, after all the calls made. -/
abbrev UnitOfWork (ν : Type) := List (UnitOfWorkCall ν) → Option String

/-- What a context is given and cannot change. -/
structure Environment (α κ ν : Type) where
  provider : Provider α
  loader : RelationshipLoader α
  unit_of_work : Option (UnitOfWork ν)
  /-- The digest of a query plan. -/
  query_hash : List (String × String) → String
  /-- A cached or answered value as an object, at a time. -/
  view : Nat → Value α → Entity ν
  /-- The class `ChangeSet`, and where a change set is at a time. -/
  change_set_type : ElementType
  address : Nat → ChangeSet ν → Int

/-- A context, with the objects it reaches. -/
structure RevitContext (α κ ν : Type) where
  heap : Heap α κ
  cache_manager : Nat
  change_tracker : ChangeTracker ν := {}
  relationship_manager : Option (RelationshipManager α) := none
  unit_of_work_calls : List (UnitOfWorkCall ν) := []
  auto_track_changes : Bool := true
  cache_policy : CachePolicy := .MEMORY
  is_disposed : Bool := false

variable {α κ ν : Type}

namespace RevitContext

def has_changes (c : RevitContext α κ ν) : Bool := c.change_tracker.has_changes

def cache (c : RevitContext α κ ν) : CacheManager (Data α) := c.heap.caches.read c.cache_manager

def write_cache (c : RevitContext α κ ν) (cache : CacheManager (Data α)) : RevitContext α κ ν :=
  { c with heap := c.heap.write_cache c.cache_manager cache }

/-- Ensure context is not disposed. -/
def ensure_not_disposed {β : Type} (c : RevitContext α κ ν) (go : Except ContextException β × RevitContext α κ ν) :
    Except ContextException β × RevitContext α κ ν :=
  if c.is_disposed then (.error (.ORMException "RevitContext has been disposed"), c) else go

/-! ## Queries -/

/-- Create a new query builder. -/
def query (c : RevitContext α κ ν) (element_type : Option ElementType) : Except ContextException Nat × RevitContext α κ ν :=
  c.ensure_not_disposed
    (let (builder, heap) := c.heap.new_builder element_type (some c.cache_manager)
     (.ok builder, { c with heap := heap }))

/-- An element is attached where changes are tracked. -/
def auto_attach (env : Environment α κ ν) (c : RevitContext α κ ν) (element : Value α) (element_id : ElementId) :
    RevitContext α κ ν :=
  if c.auto_track_changes then
    { c with change_tracker := c.change_tracker.attach (env.view c.heap.clock element) (some element_id) }
  else c

/-- The cached element, if there is one that is not `None`. -/
def cached_element (c : RevitContext α κ ν) (element_type : ElementType) (element_id : ElementId) :
    Option (Data α) × RevitContext α κ ν :=
  if c.cache_policy = .NONE then (none, c)
  else
    let (cached, cache) := c.cache.get c.heap.clock (create_entity_cache_key element_type.name (some element_id))
    (cached.filter fun element => !element.value.is_none, c.write_cache cache)

/-- Query an element from the provider. -/
def provide_element (env : Environment α κ ν) (c : RevitContext α κ ν) (element_type : ElementType) (element_id : ElementId) :
    Except ContextException (Data α) × RevitContext α κ ν :=
  let asked := { c with heap := { c.heap with reads := c.heap.reads + 1 } }
  match env.provider.get_element_by_id c.heap.reads element_id with
  | .error _ => (.error (.ORMException ("Failed to get element by ID " ++ element_id.text)), asked)
  | .ok none => (.ok ⟨.none, c.heap.reads⟩, asked)
  | .ok (some reference) =>
    let element : Data α := ⟨.object reference, c.heap.reads⟩
    if env.loader.truthy reference ∧ c.auto_track_changes then
      let attached := asked.auto_attach env element.value element_id
      if c.cache_policy = .NONE then (.ok element, attached)
      else
        (.ok element, attached.write_cache
          (c.cache.set c.heap.clock (create_entity_cache_key element_type.name (some element_id)) element none []))
    else (.ok element, asked)

/-- Get element by ID. -/
def get_by_id (env : Environment α κ ν) (c : RevitContext α κ ν) (element_type : ElementType) (element_id : ElementId) :
    Except ContextException (Data α) × RevitContext α κ ν :=
  c.ensure_not_disposed
    (match c.cached_element element_type element_id with
    | (some element, c) => (.ok element, c.auto_attach env element.value element_id)
    | (none, c) => c.provide_element env element_type element_id)

/-! ## Change tracking and persistence -/

/-- A method of the context that only hands on to the change tracker. -/
def tracking (c : RevitContext α κ ν) (change : ChangeTracker ν → ChangeTracker ν) :
    Except ContextException Unit × RevitContext α κ ν :=
  c.ensure_not_disposed (.ok (), { c with change_tracker := change c.change_tracker })

/-- Attach an entity to the context for change tracking. -/
def attach (c : RevitContext α κ ν) (entity : Entity ν) (entity_id : Option ElementId) :
    Except ContextException Unit × RevitContext α κ ν :=
  c.tracking fun tracker => tracker.attach entity (if entity_id = none then entity.entity_id else entity_id)

/-- Detach an entity from change tracking. -/
def detach (c : RevitContext α κ ν) (entity : Subject) : Except ContextException Unit × RevitContext α κ ν :=
  c.tracking fun tracker => tracker.detach entity.entity_id

/-- Mark entity as added (for new entities). -/
def add (c : RevitContext α κ ν) (entity : Entity ν) : Except ContextException Unit × RevitContext α κ ν :=
  c.tracking fun tracker => tracker.mark_as_added entity

/-- Mark entity as deleted. -/
def remove (c : RevitContext α κ ν) (entity : Entity ν) : Except ContextException Unit × RevitContext α κ ν :=
  c.tracking fun tracker => tracker.mark_as_deleted entity

/-- Accept changes for specific entity or all entities. -/
def accept_changes (c : RevitContext α κ ν) (entity : Option Subject) : Except ContextException Unit × RevitContext α κ ν :=
  c.tracking fun tracker => tracker.accept_changes (entity.bind Subject.entity_id)

/-- Reject changes for specific entity or all entities. -/
def reject_changes (c : RevitContext α κ ν) (entity : Option Subject) : Except ContextException Unit × RevitContext α κ ν :=
  c.tracking fun tracker => tracker.reject_changes (entity.bind Subject.entity_id)

/-- What is registered for a change, by its state. -/
def registration (change : ChangeSet ν) : Option (UnitOfWorkCall ν) := match change.state with
  | .ADDED => some (.register_new change)
  | .MODIFIED => some (.register_dirty change)
  | .DELETED => some (.register_removed change)
  | .UNCHANGED | .DETACHED => none

/-- Calls of the unit of work one after the other, up to the first that raises. -/
def perform (unit_of_work : UnitOfWork ν) : List (UnitOfWorkCall ν) → List (UnitOfWorkCall ν) →
    Option String × List (UnitOfWorkCall ν)
  | made, [] => (none, made)
  | made, call :: calls => match unit_of_work (made ++ [call]) with
    | some e => (some e, made ++ [call])
    | none => perform unit_of_work (made ++ [call]) calls

/-- The change set as the relationship manager sees it: an object of its own
    class, without an id. -/
def change_subject (env : Environment α κ ν) (now : Nat) (change : ChangeSet ν) : Subject :=
  { address := env.address now change, type := env.change_set_type }

/-- A round of the loop over the changes. -/
def invalidate_change (env : Environment α κ ν) (c : RevitContext α κ ν) (change : ChangeSet ν) : RevitContext α κ ν :=
  let c := c.write_cache (c.cache.invalidate (create_entity_cache_key change.entity_type change.entity_id)).2
  match c.relationship_manager with
  | none => c
  | some manager =>
    let (manager, heap) := manager.invalidate_entity c.heap (change_subject env c.heap.clock change)
    { c with
      heap := heap
      relationship_manager := some manager }

/-- Invalidate cache entries affected by changes. -/
def invalidate_cache_for_changes (env : Environment α κ ν) (c : RevitContext α κ ν) (changes : List (ChangeSet ν)) :
    RevitContext α κ ν := changes.foldl (invalidate_change env) c

/-- The changes in the unit of work: what it raises, after a rollback, or nothing. -/
def commit (env : Environment α κ ν) (c : RevitContext α κ ν) (changes : List (ChangeSet ν)) :
    Option String × RevitContext α κ ν := match env.unit_of_work with
  | none => (none, c)
  | some unit_of_work => match perform unit_of_work c.unit_of_work_calls (changes.filterMap registration ++ [.commit]) with
    | (some e, calls) => (some e, { c with unit_of_work_calls := calls ++ [.rollback] })
    | (none, calls) => (none, { c with unit_of_work_calls := calls })

/-- Save all pending changes to the data store. -/
def save_changes (env : Environment α κ ν) (c : RevitContext α κ ν) : Except ContextException Nat × RevitContext α κ ν :=
  c.ensure_not_disposed
    (if c.has_changes then
      let changes := c.change_tracker.get_all_changes
      match c.commit env changes with
      | (some e, c) => (.error (.ORMException ("Failed to save changes: " ++ e)), c)
      | (none, c) =>
        let accepted := { c with change_tracker := c.change_tracker.accept_changes none }
        (.ok changes.length, accepted.invalidate_cache_for_changes env changes)
    else (.ok 0, c))

/-! ## Relationships -/

/-- Load relationship data for an entity. -/
def load_relationship (env : Environment α κ ν) (c : RevitContext α κ ν) (entity : Subject) (relationship_name : String) :
    Except ContextException (Data α) × RevitContext α κ ν :=
  c.ensure_not_disposed
    (match c.relationship_manager with
    | none => (.error (.RelationshipError "No relationship manager configured"), c)
    | some manager =>
      let (related, manager, heap) := manager.load_relationship env.loader c.heap entity relationship_name false
      (related.mapError fun (.RelationshipError message) => .RelationshipError message,
        { c with
          heap := heap
          relationship_manager := some manager }))

/-! ## Cache management -/

/-- Clear all cached data. -/
def clear_cache (c : RevitContext α κ ν) : Except ContextException Unit × RevitContext α κ ν :=
  c.ensure_not_disposed (.ok (), c.write_cache c.cache.clear)

/-- Invalidate cache entries. -/
def invalidate_cache (c : RevitContext α κ ν) (entity_type : Option ElementType) (entity_id : Option ElementId) :
    Except ContextException Unit × RevitContext α κ ν :=
  c.ensure_not_disposed
    (match entity_type with
    | none => (.ok (), c.write_cache c.cache.clear)
    | some entity_type =>
      if (entity_id.map ElementId.truthy).getD false then
        (.ok (), c.write_cache (c.cache.invalidate (create_entity_cache_key entity_type.name entity_id)).2)
      else (.ok (), c.write_cache (c.cache.invalidate_by_pattern entity_type.name).2))

/-- Dispose of the context and clean up resources. -/
def dispose (c : RevitContext α κ ν) : RevitContext α κ ν :=
  if c.is_disposed then c
  else
    let rejected := if c.has_changes then c.change_tracker.reject_changes none else c.change_tracker
    { c.write_cache c.cache.clear with
      change_tracker := rejected.clear
      is_disposed := true }

end RevitContext

/-! ## Runs -/

/-- What can happen to a context and to the objects it shares. -/
inductive ContextEvent (α κ ν : Type)
  | query (element_type : Option ElementType)
  | fluent (builder : Nat) (call : FluentCall α κ)
  | to_list (builder : Nat)
  | count (builder : Nat)
  | get_by_id (element_type : ElementType) (element_id : ElementId)
  | tracking (change : ChangeTracker ν → ChangeTracker ν)
  | save_changes
  | load_relationship (entity : Subject) (relationship_name : String)
  | clear_cache
  | invalidate_cache (entity_type : Option ElementType) (entity_id : Option ElementId)
  | dispose
  | elapse (microseconds : Nat)

namespace RevitContext
variable [DecidableEq α] [LinearOrder κ]

/-- One event. Any change of the tracker may happen at any time, through the context
    or from elsewhere. -/
def step (env : Environment α κ ν) (c : RevitContext α κ ν) : ContextEvent α κ ν → RevitContext α κ ν
  | .query element_type => (c.query element_type).2
  | .fluent builder call => match c.heap.call builder call with
    | .error _ => c
    | .ok (_, heap) => { c with heap := heap }
  | .to_list builder => { c with heap := (c.heap.to_list env.provider env.query_hash builder).2 }
  | .count builder => { c with heap := (c.heap.count env.provider env.query_hash builder).2 }
  | .get_by_id element_type element_id => (c.get_by_id env element_type element_id).2
  | .tracking change => { c with change_tracker := change c.change_tracker }
  | .save_changes => (c.save_changes env).2
  | .load_relationship entity relationship_name => (c.load_relationship env entity relationship_name).2
  | .clear_cache => c.clear_cache.2
  | .invalidate_cache entity_type entity_id => (c.invalidate_cache entity_type entity_id).2
  | .dispose => c.dispose
  | .elapse microseconds => { c with heap := { c.heap with clock := c.heap.clock + microseconds } }

def run (env : Environment α κ ν) (c : RevitContext α κ ν) (events : List (ContextEvent α κ ν)) : RevitContext α κ ν :=
  events.foldl (step env) c

end RevitContext

end RevitPy
