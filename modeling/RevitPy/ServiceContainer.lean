import RevitPy.Dict

/-!
# A container of services

A container builds a service from the last descriptor registered for its type, with the
services that the constructor or the factory takes as arguments. Singletons are kept, and
scoped services while a scope is open. What is not registered is asked of the parent.
-/

namespace RevitPy

/-- Service lifetime enumeration. -/
inductive ServiceLifetime
  | SINGLETON
  | SCOPED
  | TRANSIENT
  deriving DecidableEq

/-- What is raised: the code tells a `ValueError` from the rest. -/
inductive ServiceError
  | ValueError (message : String)
  | RuntimeError (message : String)
  | other (message : String)
  deriving DecidableEq

/-- A parameter of a constructor or a factory. -/
structure Parameter (τ : Type) where
  name : String
  param_type : Option τ
  has_default : Bool

structure Factory (τ : Type) where
  name : String
  signature : Except ServiceError (List (Parameter τ))

/-- Describes how to create and manage a service. Registrations are numbered. -/
structure ServiceDescriptor (τ ω : Type) where
  service_type : τ
  implementation_type : τ
  factory : Option (Factory τ)
  instance_given : Option ω
  lifetime : ServiceLifetime
  number : Nat

/-- An object, the registration that it comes from, and the moment at which it was built,
    unless it was given. -/
structure Instance (ω : Type) where
  object : ω
  registration : Nat
  made : Option Nat
  deriving DecidableEq

/-- The code of the services: the signatures of constructors, and what the call of a
    constructor or a factory answers at a moment. -/
structure ServiceCode (τ ω : Type) where
  name : τ → String
  /-- Annotations that are no classes, such as `A | B`, have no `__name__`. -/
  unnamed : τ → Bool := fun _ => false
  signature : τ → Except ServiceError (List (Parameter τ))
  call : Nat → ServiceDescriptor τ ω → List (String × Instance ω) → Except ServiceError ω
  disposable : ω → Bool

/-- An error whose text takes the name of a type. -/
def ServiceCode.naming {τ ω : Type} (code : ServiceCode τ ω) (service_type : τ) (message : String → String) : ServiceError :=
  if code.unnamed service_type then .other "object has no attribute '__name__'" else .ValueError (message (code.name service_type))

structure DIContainer (τ ω : Type) [DecidableEq τ] where
  _services : Dict τ (ServiceDescriptor τ ω) := ∅
  _singletons : Dict τ (Instance ω) := ∅
  _scoped_services : Dict τ (Instance ω) := ∅
  _creation_stack : List τ := []
  _scope_active : Bool := false
  /-- All descriptors that were registered. -/
  registered : List (ServiceDescriptor τ ω) := []
  /-- The registrations from which objects were built. -/
  built : List Nat := []
  keyed : ∀ service_type descriptor, _services.get? service_type = some descriptor → descriptor.service_type = service_type := by
    simp

/-- A container with its parents, and what has happened: the moment, the open scopes with
    the innermost first, the scoped services that were got, and what scopes disposed. -/
structure Resolver (τ ω : Type) [DecidableEq τ] where
  own : DIContainer τ ω := {}
  parents : List (DIContainer τ ω) := []
  time : Nat := 0
  scopes : List Nat := []
  entered : Nat := 0
  resolved : List (Option Nat × τ × Instance ω) := []
  disposed : List (Nat × ω) := []

variable {τ ω : Type} [DecidableEq τ]

/-! ## Registration -/

namespace DIContainer

/-- Internal method to register a service. -/
def _register_service (c : DIContainer τ ω) (service_type : τ) (implementation_type : Option τ) (factory : Option (Factory τ))
    (instance_given : Option ω) (lifetime : ServiceLifetime) : DIContainer τ ω :=
  let descriptor : ServiceDescriptor τ ω :=
    { service_type
      implementation_type := implementation_type.getD service_type
      factory
      instance_given
      lifetime
      number := c.registered.length }
  { c with
    _services := c._services.set service_type descriptor
    _singletons := match lifetime, instance_given with
      | .SINGLETON, some object => c._singletons.set service_type ⟨object, descriptor.number, none⟩
      | _, _ => c._singletons
    registered := c.registered ++ [descriptor]
    keyed := by
      intro key found
      rw [Dict.get?_set]
      split
      · rintro ⟨⟩
        assumption
      · exact c.keyed key found }

/-- Register a singleton service. -/
def register_singleton (c : DIContainer τ ω) (service_type : τ) (implementation_type : Option τ) (factory : Option (Factory τ))
    (instance_given : Option ω) : DIContainer τ ω :=
  c._register_service service_type implementation_type factory instance_given .SINGLETON

/-- Register a scoped service. -/
def register_scoped (c : DIContainer τ ω) (service_type : τ) (implementation_type : Option τ) (factory : Option (Factory τ)) : DIContainer τ ω :=
  c._register_service service_type implementation_type factory none .SCOPED

/-- Register a transient service. -/
def register_transient (c : DIContainer τ ω) (service_type : τ) (implementation_type : Option τ) (factory : Option (Factory τ)) : DIContainer τ ω :=
  c._register_service service_type implementation_type factory none .TRANSIENT

end DIContainer

/-! ## Resolution -/

/-- The result of a resolution; there is no error where it has not ended. -/
abbrev Resolution (τ ω α : Type) [DecidableEq τ] := Except (Option ServiceError) α × Resolver τ ω

namespace Resolver
variable (code : ServiceCode τ ω)

/-- Put a type on the creation stack. -/
def push (s : Resolver τ ω) (service_type : τ) : Resolver τ ω :=
  { s with own := { s.own with _creation_stack := s.own._creation_stack ++ [service_type] } }

/-- `self._creation_stack.remove(service_type)`. -/
def pop (s : Resolver τ ω) (service_type : τ) : Resolver τ ω :=
  { s with own := { s.own with _creation_stack := s.own._creation_stack.erase service_type } }

def store_singleton (s : Resolver τ ω) (service_type : τ) (x : Instance ω) : Resolver τ ω :=
  { s with own := { s.own with _singletons := s.own._singletons.set service_type x } }

def store_scoped (s : Resolver τ ω) (service_type : τ) (x : Instance ω) : Resolver τ ω :=
  if s.own._scope_active then { s with own := { s.own with _scoped_services := s.own._scoped_services.set service_type x } } else s

/-- Remember which instance of a scoped service was got in which scope. -/
def note (s : Resolver τ ω) (service_type : τ) (x : Instance ω) : Resolver τ ω :=
  { s with resolved := s.resolved ++ [(s.scopes.head?, service_type, x)] }

/-- Call the constructor or the factory of a descriptor. -/
def build (descriptor : ServiceDescriptor τ ω) (args : List (String × Instance ω)) (s : Resolver τ ω) : Resolution τ ω (Instance ω) :=
  match code.call s.time descriptor args with
  | .error e => (.error (some e), { s with time := s.time + 1 })
  | .ok object =>
    (.ok ⟨object, descriptor.number, some s.time⟩,
      { s with
        own := { s.own with built := s.own.built ++ [descriptor.number] }
        time := s.time + 1 })

section
variable (get_service : Resolver τ ω → τ → Resolution τ ω (Instance ω))

/-- Resolve the arguments of the constructor or the factory that has a name. -/
def _resolve_args (owner : String) : List (Parameter τ) → Resolver τ ω → Resolution τ ω (List (String × Instance ω))
  | [], s => (.ok [], s)
  | param :: rest, s =>
    match param.param_type with
    | none =>
      if param.has_default then _resolve_args owner rest s
      else (.error (some (.ValueError ("Cannot resolve parameter " ++ param.name ++ " for " ++ owner))), s)
    | some param_type => match get_service s param_type with
      | (.ok x, s) => match _resolve_args owner rest s with
        | (.ok args, s) => (.ok ((param.name, x) :: args), s)
        | failed => failed
      | (.error (some (.ValueError _)), s) =>
        if param.has_default then _resolve_args owner rest s
        else (.error (some (code.naming param_type fun name => "Cannot resolve dependency " ++ name ++ " for " ++ owner)), s)
      | (.error e, s) => (.error e, s)

/-- The parameters of the factory of a descriptor, or else of its constructor. -/
def parameters (descriptor : ServiceDescriptor τ ω) : Except ServiceError (List (Parameter τ)) :=
  match descriptor.factory with
  | some factory => factory.signature
  | none => (code.signature descriptor.implementation_type).map fun params => params.filter fun param => param.name ≠ "self"

/-- The name in the errors about the arguments. -/
def owner (descriptor : ServiceDescriptor τ ω) : String :=
  match descriptor.factory with
  | some factory => factory.name
  | none => code.name descriptor.implementation_type

/-- Instantiate a service while its type is on the creation stack. -/
def instantiate_pushed (descriptor : ServiceDescriptor τ ω) (s : Resolver τ ω) : Resolution τ ω (Instance ω) :=
  match descriptor.instance_given with
  | some object => (.ok ⟨object, descriptor.number, none⟩, s)
  | none => match parameters code descriptor with
    | .error e => (.error (some e), s)
    | .ok params => match _resolve_args code get_service (owner code descriptor) params s with
      | (.error e, s) => (.error e, s)
      | (.ok args, s) => build code descriptor args s

/-- Instantiate a service using its descriptor. -/
def _instantiate_service (descriptor : ServiceDescriptor τ ω) (s : Resolver τ ω) : Resolution τ ω (Instance ω) :=
  let (result, s) := instantiate_pushed code get_service descriptor (s.push descriptor.service_type)
  (result, s.pop descriptor.service_type)

/-- What is kept of a service: a singleton, or a scoped service in a scope. -/
def stored (s : Resolver τ ω) (service_type : τ) (descriptor : ServiceDescriptor τ ω) : Option (Instance ω) :=
  match descriptor.lifetime with
  | .SINGLETON => s.own._singletons.get? service_type
  | .SCOPED => if s.own._scope_active then s.own._scoped_services.get? service_type else none
  | .TRANSIENT => none

/-- Keep a new instance. -/
def store (s : Resolver τ ω) (service_type : τ) (descriptor : ServiceDescriptor τ ω) (x : Instance ω) : Resolver τ ω :=
  match descriptor.lifetime with
  | .SINGLETON => s.store_singleton service_type x
  | .SCOPED => s.store_scoped service_type x
  | .TRANSIENT => s

/-- Remember what was got of a scoped service. -/
def answered (s : Resolver τ ω) (service_type : τ) (descriptor : ServiceDescriptor τ ω) (x : Instance ω) : Resolver τ ω :=
  if descriptor.lifetime = .SCOPED then s.note service_type x else s

/-- Create a service instance. -/
def _create_service (service_type : τ) (descriptor : ServiceDescriptor τ ω) (s : Resolver τ ω) : Resolution τ ω (Instance ω) :=
  match s.stored service_type descriptor with
  | some x => (.ok x, s.answered service_type descriptor x)
  | none => match _instantiate_service code get_service descriptor s with
    | (.ok x, s) => (.ok x, (s.store service_type descriptor x).answered service_type descriptor x)
    | failed => failed

end

/-- The text of the error about a type that is on the creation stack. -/
def circular (s : Resolver τ ω) (service_type : τ) : ServiceError :=
  .RuntimeError ("Circular dependency detected: " ++ String.intercalate " -> " (s.own._creation_stack.map code.name) ++ " -> " ++
    code.name service_type)

/-- The container of a parent, in the place of the container's own. -/
def at_parent (s : Resolver τ ω) (parent : DIContainer τ ω) (grandparents : List (DIContainer τ ω)) : Resolver τ ω :=
  { s with
    own := parent
    parents := grandparents }

/-- Back from a parent. -/
def back_at (s : Resolver τ ω) (own : DIContainer τ ω) : Resolver τ ω :=
  { s with
    own := own
    parents := s.own :: s.parents }

/-- Get a service instance, with calls nested up to a depth. -/
def resolve : Nat → Resolver τ ω → τ → Resolution τ ω (Instance ω)
  | 0, s, _ => (.error none, s)
  | depth + 1, s, service_type =>
    if service_type ∈ s.own._creation_stack then (.error (some (s.circular code service_type)), s)
    else match s.own._services.get? service_type with
      | some descriptor => _create_service code (resolve depth) service_type descriptor s
      | none => match s.parents with
        | [] => (.error (some (code.naming service_type fun name => "Service " ++ name ++ " is not registered")), s)
        | parent :: grandparents =>
          let (result, t) := resolve depth (s.at_parent parent grandparents) service_type
          (result, t.back_at s.own)

/-- The types that a container has and does not create, and the way to it. -/
def room (c : DIContainer τ ω) : Nat := (c._services.keys.filter fun service_type => service_type ∉ c._creation_stack).length + 1

/-- A depth that calls do not exceed. -/
def depth (s : Resolver τ ω) : Nat := ((s.own :: s.parents).map room).foldr Nat.add 0

/-- Get a service instance. -/
def get_service (s : Resolver τ ω) (service_type : τ) : Resolution τ ω (Instance ω) := resolve code (s.depth + 1) s service_type

/-! ## A rule for resolutions -/

/-- What a new instance leaves, once its type is off the creation stack. -/
def finish (s : Resolver τ ω) (service_type : τ) (descriptor : ServiceDescriptor τ ω) (x : Instance ω) : Resolver τ ω :=
  ((s.pop service_type).store service_type descriptor x).answered service_type descriptor x

/-- What follows the resolution of the arguments: it has failed, the call raises, or there
    is a new instance, given or built. -/
inductive Created (s : Resolver τ ω) (service_type : τ) (descriptor : ServiceDescriptor τ ω) : Resolver τ ω → Prop
  | failed : Created s service_type descriptor (s.pop service_type)
  | raised : Created s service_type descriptor (pop { s with time := s.time + 1 } service_type)
  | given (object : ω) (given : descriptor.instance_given = some object) :
      Created s service_type descriptor (s.finish service_type descriptor ⟨object, descriptor.number, none⟩)
  | built (object : ω) (args : List (String × Instance ω)) (called : code.call s.time descriptor args = .ok object) :
      Created s service_type descriptor
        (finish
          { s with
            own := { s.own with built := s.own.built ++ [descriptor.number] }
            time := s.time + 1 } service_type descriptor ⟨object, descriptor.number, some s.time⟩)

variable {code}

section
variable {R : Resolver τ ω → Resolver τ ω → Prop} (refl : ∀ s, R s s)
  (trans : ∀ s t u, R s t → R t u → R s u)
include refl trans

theorem resolve_args_rel {get_service : Resolver τ ω → τ → Resolution τ ω (Instance ω)}
    (got : ∀ s service_type, R s (get_service s service_type).2) (owner : String) (params : List (Parameter τ)) (s : Resolver τ ω) :
    R s (_resolve_args code get_service owner params s).2 := by
  induction params generalizing s with
  | nil => exact refl s
  | cons param rest ih =>
    rw [_resolve_args]
    cases param.param_type with
    | none =>
      simp only
      split
      · exact ih s
      · exact refl s
    | some param_type =>
      have first := got s param_type
      simp only
      rcases answer : get_service s param_type with ⟨(_ | (message | message | message)) | x, t⟩
      · rw [answer] at first
        exact first
      · rw [answer] at first
        simp only
        split
        · exact trans _ _ _ first (ih t)
        · exact first
      · rw [answer] at first
        exact first
      · rw [answer] at first
        exact first
      · rw [answer] at first
        have later := ih t
        simp only
        rcases answer' : _resolve_args code get_service owner rest t with ⟨e | args, u⟩
        · rw [answer'] at later
          exact trans _ _ _ first later
        · rw [answer'] at later
          exact trans _ _ _ first later

variable
  (found : ∀ s service_type descriptor x, s.own._services.get? service_type = some descriptor →
    s.stored service_type descriptor = some x → R s (s.answered service_type descriptor x))
  (created : ∀ s service_type descriptor t u, s.own._services.get? service_type = some descriptor →
    service_type ∉ s.own._creation_stack → s.stored service_type descriptor = none → R (s.push service_type) t →
    Created code t service_type descriptor u → R s u)
  (parent : ∀ s container more t, s.parents = container :: more → R (s.at_parent container more) t → R s (t.back_at s.own))
include found created parent

/-- What holds of each way in which a service is found or created holds of a resolution. -/
theorem resolve_rel (depth : Nat) (s : Resolver τ ω) (service_type : τ) : R s (resolve code depth s service_type).2 := by
  induction depth generalizing s service_type with
  | zero => exact refl s
  | succ depth ih =>
    rw [resolve]
    by_cases circle : service_type ∈ s.own._creation_stack
    · rw [if_pos circle]
      exact refl s
    · rw [if_neg circle]
      cases registered : s.own._services.get? service_type with
      | some descriptor =>
        have keyed := s.own.keyed _ _ registered
        simp only [_create_service]
        cases kept : s.stored service_type descriptor with
        | some x => exact found _ _ _ _ registered kept
        | none =>
          have creates (t u : Resolver τ ω) := created s service_type descriptor t u registered circle kept
          simp only [_instantiate_service, keyed, instantiate_pushed]
          cases given : descriptor.instance_given with
          | some object => exact creates _ _ (refl _) (.given object given)
          | none =>
            simp only
            cases parameters code descriptor with
            | error e => exact creates _ _ (refl _) .failed
            | ok params =>
              have resolved : R (s.push service_type)
                  (_resolve_args code (resolve code depth) (Resolver.owner code descriptor) params (s.push service_type)).2 :=
                resolve_args_rel refl trans ih _ _ _
              simp only
              rcases answer : _resolve_args code (resolve code depth) (Resolver.owner code descriptor) params (s.push service_type) with
                ⟨e | args, t⟩
              · rw [answer] at resolved
                exact creates _ _ resolved .failed
              · rw [answer] at resolved
                simp only [build]
                cases called : code.call t.time descriptor args with
                | error e => exact creates _ _ resolved .raised
                | ok object => exact creates _ _ resolved (.built object args called)
      | none =>
        cases parents : s.parents with
        | nil => exact refl s
        | cons container more => exact parent _ _ _ _ parents (ih _ _)

end

/-! ## What a resolution keeps -/

/-- The services of a container and those that it creates. -/
def frame (c : DIContainer τ ω) : Dict τ (ServiceDescriptor τ ω) × List τ := (c._services, c._creation_stack)

/-- What a resolution keeps. Nothing is stored for a type on the creation stack, and what
    is stored stays. -/
structure Kept (s t : Resolver τ ω) : Prop where
  frame : frame t.own = frame s.own
  active : t.own._scope_active = s.own._scope_active
  registered : t.own.registered = s.own.registered
  parents : t.parents.map Resolver.frame = s.parents.map Resolver.frame
  scopes : t.scopes = s.scopes
  entered : t.entered = s.entered
  disposed : t.disposed = s.disposed
  time : s.time ≤ t.time
  singletons_kept : ∀ S x, s.own._singletons.get? S = some x → t.own._singletons.get? S = some x
  scoped_kept : ∀ S x, s.own._scoped_services.get? S = some x → t.own._scoped_services.get? S = some x
  unstored : ∀ S ∈ s.own._creation_stack, s.own._singletons.get? S = none → t.own._singletons.get? S = none
  unscoped : ∀ S ∈ s.own._creation_stack, s.own._scoped_services.get? S = none → t.own._scoped_services.get? S = none

theorem Kept.services {s t : Resolver τ ω} (kept : Kept s t) : t.own._services = s.own._services := congrArg Prod.fst kept.frame
theorem Kept.stack {s t : Resolver τ ω} (kept : Kept s t) : t.own._creation_stack = s.own._creation_stack := congrArg Prod.snd kept.frame

theorem Kept.refl (s : Resolver τ ω) : Kept s s :=
  ⟨rfl, rfl, rfl, rfl, rfl, rfl, rfl, Nat.le_refl _, fun _ _ => id, fun _ _ => id, fun _ _ => id, fun _ _ => id⟩

theorem Kept.trans {s t u : Resolver τ ω} (first : Kept s t) (second : Kept t u) : Kept s u where
  frame := second.frame.trans first.frame
  active := second.active.trans first.active
  registered := second.registered.trans first.registered
  parents := second.parents.trans first.parents
  scopes := second.scopes.trans first.scopes
  entered := second.entered.trans first.entered
  disposed := second.disposed.trans first.disposed
  time := Nat.le_trans first.time second.time
  singletons_kept S x kept := second.singletons_kept S x (first.singletons_kept S x kept)
  scoped_kept S x kept := second.scoped_kept S x (first.scoped_kept S x kept)
  unstored S creating none_kept := second.unstored S (first.stack ▸ creating) (first.unstored S creating none_kept)
  unscoped S creating none_kept := second.unscoped S (first.stack ▸ creating) (first.unscoped S creating none_kept)

section
variable {s t : Resolver τ ω} {service_type : τ} {descriptor : ServiceDescriptor τ ω}

theorem Kept.pop (kept : Kept (s.push service_type) t) (off : service_type ∉ s.own._creation_stack) : Kept s (t.pop service_type) where
  frame := by
    have stack : (s.own._creation_stack ++ [service_type]).erase service_type = s.own._creation_stack := by
      rw [List.erase_append_right _ off, List.erase_cons_head, List.append_nil]
    exact Prod.ext kept.services ((congrArg (fun l => l.erase service_type) kept.stack).trans stack)
  active := kept.active
  registered := kept.registered
  parents := kept.parents
  scopes := kept.scopes
  entered := kept.entered
  disposed := kept.disposed
  time := kept.time
  singletons_kept := kept.singletons_kept
  scoped_kept := kept.scoped_kept
  unstored S creating := kept.unstored S (List.mem_append_left _ creating)
  unscoped S creating := kept.unscoped S (List.mem_append_left _ creating)

/-- A call of the code takes time, and may build something. -/
theorem Kept.called (kept : Kept s t) (built : List Nat) :
    Kept s { t with
      own := { t.own with built := built }
      time := t.time + 1 } :=
  { kept with time := Nat.le_succ_of_le kept.time }

theorem Kept.answered (kept : Kept s t) (S : τ) (descriptor : ServiceDescriptor τ ω) (x : Instance ω) :
    Kept s (t.answered S descriptor x) := by
  unfold Resolver.answered
  split
  · exact { kept with }
  · exact kept

/-- A service is stored that was not, and whose creation has not begun before. -/
theorem Kept.store (kept : Kept s t) (off : service_type ∉ s.own._creation_stack)
    (new : s.stored service_type descriptor = none) (x : Instance ω) : Kept s (t.store service_type descriptor x) := by
  unfold Resolver.store
  unfold stored at new
  split
  · next lifetime =>
    simp only [lifetime] at new
    refine { kept with singletons_kept := ?_, unstored := ?_ }
    · intro S y found
      have other : service_type ≠ S := by
        rintro rfl
        rw [new] at found
        cases found
      exact (Dict.get?_set_ne _ x other).trans (kept.singletons_kept S y found)
    · intro S creating none_kept
      have other : service_type ≠ S := by
        rintro rfl
        exact off creating
      exact (Dict.get?_set_ne _ x other).trans (kept.unstored S creating none_kept)
  · next lifetime =>
    simp only [lifetime] at new
    unfold store_scoped
    split
    · next active =>
      rw [kept.active] at active
      rw [if_pos active] at new
      refine { kept with scoped_kept := ?_, unscoped := ?_ }
      · intro S y found
        have other : service_type ≠ S := by
          rintro rfl
          rw [new] at found
          cases found
        exact (Dict.get?_set_ne _ x other).trans (kept.scoped_kept S y found)
      · intro S creating none_kept
        have other : service_type ≠ S := by
          rintro rfl
          exact off creating
        exact (Dict.get?_set_ne _ x other).trans (kept.unscoped S creating none_kept)
    · exact kept
  · exact kept

theorem Kept.created {u : Resolver τ ω} (off : service_type ∉ s.own._creation_stack)
    (new : s.stored service_type descriptor = none) (kept : Kept (s.push service_type) t)
    (created : Created code t service_type descriptor u) : Kept s u := by
  cases created with
  | failed => exact kept.pop off
  | raised => exact (kept.called t.own.built).pop off
  | given object _ => exact ((kept.pop off).store off new _).answered _ _ _
  | built object args _ => exact (((kept.called _).pop off).store off new _).answered _ _ _

theorem Kept.parent {container : DIContainer τ ω} {more : List (DIContainer τ ω)} (parents : s.parents = container :: more)
    (kept : Kept (s.at_parent container more) t) : Kept s (t.back_at s.own) where
  frame := rfl
  active := rfl
  registered := rfl
  parents := by
    rw [parents]
    exact congrArg₂ List.cons kept.frame kept.parents
  scopes := kept.scopes
  entered := kept.entered
  disposed := kept.disposed
  time := kept.time
  singletons_kept _ _ := id
  scoped_kept _ _ := id
  unstored _ _ := id
  unscoped _ _ := id

end

variable (code) in
theorem kept_resolve (depth : Nat) (s : Resolver τ ω) (service_type : τ) : Kept s (resolve code depth s service_type).2 :=
  resolve_rel Kept.refl (fun _ _ _ => Kept.trans) (fun s _ _ _ _ _ => (Kept.refl s).answered _ _ _)
    (fun _ _ _ _ _ _ off new kept created => kept.created off new created) (fun _ _ _ _ parents kept => kept.parent parents)
    depth s service_type

/-! ## Resolutions end -/

theorem Kept.depth {s t : Resolver τ ω} (kept : Kept s t) : t.depth = s.depth := by
  have rooms (cs ds : List (DIContainer τ ω)) (same : cs.map Resolver.frame = ds.map Resolver.frame) : cs.map room = ds.map room := by
    have through : (room : DIContainer τ ω → Nat) =
        (fun f : Dict τ (ServiceDescriptor τ ω) × List τ => (f.1.keys.filter fun S => S ∉ f.2).length + 1) ∘ Resolver.frame := rfl
    rw [through, ← List.map_map, ← List.map_map, same]
  have all := rooms (t.own :: t.parents) (s.own :: s.parents) (congrArg₂ List.cons kept.frame kept.parents)
  exact congrArg (List.foldr Nat.add 0) all

/-- A type that is put on the creation stack leaves less to create. -/
theorem depth_push {s : Resolver τ ω} {service_type : τ} (known : service_type ∈ s.own._services.keys)
    (off : service_type ∉ s.own._creation_stack) : (s.push service_type).depth < s.depth := by
  have shorter : (s.own._services.keys.filter fun S => S ∉ s.own._creation_stack ++ [service_type]).length <
      (s.own._services.keys.filter fun S => S ∉ s.own._creation_stack).length := by
    have again : (s.own._services.keys.filter fun S => S ∉ s.own._creation_stack ++ [service_type]) =
        (s.own._services.keys.filter fun S => S ∉ s.own._creation_stack).filter fun S => S ≠ service_type := by
      rw [List.filter_filter]
      refine List.filter_congr fun S _ => ?_
      simp [and_comm]
    rw [again]
    refine Nat.lt_of_le_of_ne (List.length_filter_le _ _) fun same => ?_
    have all := List.length_filter_eq_length_iff.mp same service_type (by simp [known, off])
    simp at all
  simp only [depth, push, List.map_cons, List.foldr_cons, room, Nat.add_eq]
  omega

theorem depth_parent {s : Resolver τ ω} {container : DIContainer τ ω} {more : List (DIContainer τ ω)}
    (parents : s.parents = container :: more) : (s.at_parent container more).depth < s.depth := by
  simp only [depth, at_parent, parents, List.map_cons, List.foldr_cons, room, Nat.add_eq]
  omega

theorem resolve_args_ends {get_service : Resolver τ ω → τ → Resolution τ ω (Instance ω)} {s : Resolver τ ω}
    (ends : ∀ t, Kept s t → ∀ S, (get_service t S).1 ≠ .error none ∧ Kept t (get_service t S).2) (owner : String)
    (params : List (Parameter τ)) {t : Resolver τ ω} (kept : Kept s t) :
    (_resolve_args code get_service owner params t).1 ≠ .error none := by
  induction params generalizing t with
  | nil => exact nofun
  | cons param rest ih =>
    rw [_resolve_args]
    cases param.param_type with
    | none =>
      simp only
      split
      · exact ih kept
      · exact nofun
    | some param_type =>
      obtain ⟨ended, first⟩ := ends t kept param_type
      simp only
      rcases answer : get_service t param_type with ⟨(_ | (message | message | message)) | x, u⟩
      · rw [answer] at ended
        exact absurd rfl ended
      · rw [answer] at first
        simp only
        split
        · exact ih (kept.trans first)
        · exact nofun
      · exact nofun
      · exact nofun
      · rw [answer] at first
        have later := ih (kept.trans first)
        simp only
        rcases answer' : _resolve_args code get_service owner rest u with ⟨e | args, v⟩
        · rw [answer'] at later
          exact later
        · exact nofun

/-- A depth above that of the state is enough. -/
theorem resolve_ends (fuel : Nat) (s : Resolver τ ω) (service_type : τ) (enough : s.depth < fuel) :
    (resolve code fuel s service_type).1 ≠ .error none := by
  induction fuel generalizing s service_type with
  | zero => exact absurd enough (Nat.not_lt_zero _)
  | succ fuel ih =>
    rw [resolve]
    by_cases circle : service_type ∈ s.own._creation_stack
    · rw [if_pos circle]
      exact nofun
    · rw [if_neg circle]
      cases registered : s.own._services.get? service_type with
      | some descriptor =>
        have keyed := s.own.keyed _ _ registered
        simp only [_create_service]
        cases s.stored service_type descriptor with
        | some x => exact nofun
        | none =>
          simp only [_instantiate_service, keyed, instantiate_pushed]
          cases descriptor.instance_given with
          | some object => exact nofun
          | none =>
            simp only
            cases parameters code descriptor with
            | error e => exact nofun
            | ok params =>
              have pushed := depth_push (Dict.mem_keys_of_get? registered) circle
              have ended : (_resolve_args code (resolve code fuel) (Resolver.owner code descriptor) params (s.push service_type)).1 ≠ .error none :=
                resolve_args_ends (fun t kept S => ⟨ih t S (by rw [kept.depth]; omega), kept_resolve code fuel t S⟩) _ params (.refl _)
              simp only
              rcases answer : _resolve_args code (resolve code fuel) (Resolver.owner code descriptor) params (s.push service_type) with
                ⟨e | args, t⟩
              · rw [answer] at ended
                simp only
                exact fun same => ended (by rw [Except.error.inj same])
              · simp only [build]
                cases code.call t.time descriptor args with
                | error e => exact nofun
                | ok object => exact nofun
      | none =>
        cases parents : s.parents with
        | nil => exact nofun
        | cons container more =>
          have less := depth_parent parents
          exact ih (s.at_parent container more) service_type (by omega)

/-- A call ends: it returns or raises. -/
theorem get_service_ends (s : Resolver τ ω) (service_type : τ) : (s.get_service code service_type).1 ≠ .error none :=
  resolve_ends _ s service_type (Nat.lt_succ_self _)

end Resolver

end RevitPy
