import RevitPy.ResolutionCycles

/-!
# Constructors that need no arguments

A class that is registered as its own implementation is built by a call of its constructor. The
container looks at the names, annotations and defaults of the parameters, and passes by keyword what it
has got; Python also distinguishes the kinds of the parameters.
-/

namespace RevitPy

inductive ParameterKind
  | POSITIONAL_ONLY
  | POSITIONAL_OR_KEYWORD
  | VAR_POSITIONAL
  | KEYWORD_ONLY
  | VAR_KEYWORD
  deriving DecidableEq

/-- A parameter as it is written. -/
structure WrittenParameter (τ : Type) extends Parameter τ where
  kind : ParameterKind := .POSITIONAL_OR_KEYWORD

namespace WrittenParameter
variable {τ : Type} (param : WrittenParameter τ)

def variadic : Bool := param.kind = .VAR_POSITIONAL || param.kind = .VAR_KEYWORD

/-- The parameter takes an argument that is passed by its name. -/
def by_name : Bool := param.kind = .POSITIONAL_OR_KEYWORD || param.kind = .KEYWORD_ONLY

/-- The parameter takes a first argument that is passed by position. -/
def takes_first : Bool := param.kind = .POSITIONAL_ONLY || param.kind = .POSITIONAL_OR_KEYWORD || param.kind = .VAR_POSITIONAL

end WrittenParameter

/-- Classes and their constructors. The first parameter of `__init__` takes the new object. -/
structure Classes (τ ω : Type) where
  name : τ → String
  unnamed : τ → Bool
  /-- What `get_type_hints` or `inspect.signature` raises. -/
  unreadable : τ → Option ServiceError
  __init__ : τ → List (WrittenParameter τ)
  /-- A call of a constructor that binds its arguments. -/
  construct : Nat → τ → List (String × Instance ω) → Except ServiceError ω
  factory_call : Nat → ServiceDescriptor τ ω → List (String × Instance ω) → Except ServiceError ω
  disposable : ω → Bool

namespace Classes
variable {τ ω : Type} (classes : Classes τ ω)

/-- An argument with a name is taken, if the object comes first. -/
def accepts (S : τ) (name : String) : Bool :=
  match classes.__init__ S with
  | [] => false
  | first :: rest =>
    !(first.by_name && first.name = name) &&
      (rest.any (fun param => param.by_name && param.name = name) || rest.any fun param => param.kind = .VAR_KEYWORD)

/-- Python can bind the object and arguments that are passed by name. -/
def binds (S : τ) (args : List (String × Instance ω)) : Bool :=
  match classes.__init__ S with
  | [] => false
  | first :: rest =>
    first.takes_first && args.all (fun arg => classes.accepts S arg.1) &&
      rest.all fun param => param.has_default || param.variadic || (param.by_name && args.any fun arg => arg.1 = param.name)

/-- The classes as the container sees them. -/
def code : ServiceCode τ ω where
  name := classes.name
  unnamed := classes.unnamed
  signature S := match classes.unreadable S with
    | some e => .error e
    | none => .ok ((classes.__init__ S).map WrittenParameter.toParameter)
  call time descriptor args :=
    match descriptor.factory with
    | some _ => classes.factory_call time descriptor args
    | none =>
      if classes.binds descriptor.implementation_type args then classes.construct time descriptor.implementation_type args
      else .error (.other "TypeError")
  disposable := classes.disposable

/-- Python can construct a class without arguments: behind the first one, each parameter has a
    default or is variadic. -/
structure Constructible (S : τ) : Prop where
  first : ∃ first, (classes.__init__ S).head? = some first ∧ first.takes_first
  optional : ∀ param ∈ (classes.__init__ S).tail, param.has_default ∨ param.variadic
  returns : ∀ time, ∃ object, classes.construct time S [] = .ok object

end Classes

namespace Resolver
variable {τ ω : Type} [DecidableEq τ]

/-- The calls for the annotated parameters, each with its answer, and the state behind them. -/
def asked (get : Resolver τ ω → τ → Resolution τ ω (Instance ω)) :
    List (Parameter τ) → Resolver τ ω → List (Parameter τ × Except (Option ServiceError) (Instance ω)) × Resolver τ ω
  | [], s => ([], s)
  | param :: rest, s =>
    match param.param_type with
    | none => asked get rest s
    | some param_type =>
      let (answer, t) := get s param_type
      let (more, u) := asked get rest t
      ((param, answer) :: more, u)

/-- What was got for the parameters. -/
def passed : List (Parameter τ × Except (Option ServiceError) (Instance ω)) → List (String × Instance ω)
  | [] => []
  | (param, .ok x) :: rest => (param.name, x) :: passed rest
  | (_, .error _) :: rest => passed rest

/-- A service was got for a parameter, or its default takes the place of a `ValueError`. -/
def Settles (answer : Parameter τ × Except (Option ServiceError) (Instance ω)) : Prop :=
  (∃ x, answer.2 = .ok x) ∨ answer.1.has_default ∧ ∃ message, answer.2 = .error (some (.ValueError message))

theorem resolve_args_ok (code : ServiceCode τ ω) (get : Resolver τ ω → τ → Resolution τ ω (Instance ω)) (owner : String)
    (params : List (Parameter τ)) (s : Resolver τ ω) (args : List (String × Instance ω)) (t : Resolver τ ω) :
    _resolve_args code get owner params s = (.ok args, t) ↔
      (∀ param ∈ params, param.param_type = none → param.has_default) ∧ (∀ answer ∈ (asked get params s).1, Settles answer) ∧
        args = passed (asked get params s).1 ∧ t = (asked get params s).2 := by
  induction params generalizing s args t with
  | nil =>
    simp only [_resolve_args, asked, passed, Prod.mk.injEq, Except.ok.injEq, List.not_mem_nil, false_implies, implies_true, true_and]
    exact and_congr eq_comm eq_comm
  | cons param rest ih =>
    rw [_resolve_args]
    cases annotated : param.param_type with
    | none =>
      by_cases default : param.has_default
      · simp [default, annotated, ih, asked]
      · simp [default, annotated, asked]
    | some param_type =>
      rcases answer : get s param_type with ⟨(_ | (message | message | message)) | x, u⟩
      · simp [answer, annotated, asked, Settles]
      · by_cases default : param.has_default
        · simp [answer, annotated, asked, default, ih, Settles, passed]
        · simp [answer, annotated, asked, default, Settles]
      · simp [answer, annotated, asked, Settles]
      · simp [answer, annotated, asked, Settles]
      · rcases later : _resolve_args code get owner rest u with ⟨e | more, v⟩
        · have unresolved : ¬ ((∀ param ∈ rest, param.param_type = none → param.has_default) ∧ ∀ answer ∈ (asked get rest u).1, Settles answer) := by
            rintro ⟨defaults, settled⟩
            have := (ih u _ _).mpr ⟨defaults, settled, rfl, rfl⟩
            rw [later] at this
            cases this
          refine iff_of_false (by simp [answer, later]) ?_
          rintro ⟨defaults, settled, -⟩
          simp only [asked, annotated, answer] at settled
          exact unresolved ⟨fun param member => defaults param (List.mem_cons_of_mem _ member),
            fun other member => settled other (List.mem_cons_of_mem _ member)⟩
        · obtain ⟨defaults, settled, rfl, rfl⟩ := (ih u more v).mp later
          simp only [answer, later, asked, annotated, passed, Prod.mk.injEq, Except.ok.injEq]
          constructor
          · rintro ⟨rfl, rfl⟩
            refine ⟨?_, ?_, rfl, rfl⟩
            · intro other member bare
              rcases List.mem_cons.mp member with rfl | behind
              · rw [annotated] at bare
                cases bare
              · exact defaults other behind bare
            · intro other member
              rcases List.mem_cons.mp member with rfl | behind
              · exact .inl ⟨x, rfl⟩
              · exact settled other behind
          · rintro ⟨-, -, rfl, rfl⟩
            exact ⟨rfl, rfl⟩

/-! ## Classes that are their own implementation -/

/-- A registration of a class as its own implementation. -/
structure OwnImplementation (s : Resolver τ ω) (S : τ) (descriptor : ServiceDescriptor τ ω) : Prop where
  registered : s.own._services.get? S = some descriptor
  implementation : descriptor.implementation_type = S
  factory : descriptor.factory = none
  ungiven : descriptor.instance_given = none

/-- The parameters of `__init__` that the container goes through. -/
def walked (classes : Classes τ ω) (S : τ) : List (Parameter τ) :=
  ((classes.__init__ S).map WrittenParameter.toParameter).filter fun param => param.name ≠ "self"

/-- The calls of `get_service` for the parameters of `__init__`, in the order in which they are made. -/
def parameter_calls (classes : Classes τ ω) (s : Resolver τ ω) (S : τ) :
    List (Parameter τ × Except (Option ServiceError) (Instance ω)) × Resolver τ ω :=
  asked (get_service classes.code) (walked classes S) (s.push S)

/-- The container finds what it needs to build a class. -/
structure Buildable (classes : Classes τ ω) (s : Resolver τ ω) (S : τ) : Prop where
  readable : classes.unreadable S = none
  /-- No parameter without an annotation is variadic, and the first one is called `self`. -/
  unannotated : ∀ param ∈ classes.__init__ S, param.param_type = none → param.name = "self" ∨ param.has_default
  annotated : ∀ answer ∈ (parameter_calls classes s S).1, Settles answer
  accepted : ∀ arg ∈ passed (parameter_calls classes s S).1, classes.accepts S arg.1
  constructed : passed (parameter_calls classes s S).1 = [] ∨
    ∃ object, classes.construct (parameter_calls classes s S).2.time S (passed (parameter_calls classes s S).1) = .ok object

variable {classes : Classes τ ω} {s : Resolver τ ω} {S : τ} {descriptor : ServiceDescriptor τ ω}

omit [DecidableEq τ] in
/-- A class that Python can construct without arguments binds what it accepts. -/
theorem binds_of_constructible (constructible : classes.Constructible S) (args : List (String × Instance ω)) :
    classes.binds S args = true ↔ ∀ arg ∈ args, classes.accepts S arg.1 := by
  obtain ⟨first, written, takes⟩ := constructible.first
  have optional := constructible.optional
  rcases shape : classes.__init__ S with _ | ⟨receiver, rest⟩
  · simp [shape] at written
  rw [shape, List.head?_cons, Option.some.injEq] at written
  rw [shape, List.tail_cons] at optional
  have rest_bound : (rest.all fun param => param.has_default || param.variadic || (param.by_name && args.any fun arg => arg.1 = param.name)) = true := by
    rw [List.all_eq_true]
    intro param member
    rcases optional param member with default | variadic
    · simp [default]
    · simp [variadic]
  simp only [Classes.binds, shape, written, takes, rest_bound, Bool.and_true, Bool.true_and, List.all_eq_true]

/-- A class is built exactly if the container finds what it needs. -/
theorem instantiate_ok_iff (own : OwnImplementation s S descriptor) (constructible : classes.Constructible S) :
    (∃ x, (instantiate_pushed classes.code (get_service classes.code) descriptor (s.push S)).1 = .ok x) ↔ Buildable classes s S := by
  have unannotated_iff : (∀ param ∈ walked classes S, param.param_type = none → param.has_default) ↔
      ∀ param ∈ classes.__init__ S, param.param_type = none → param.name = "self" ∨ param.has_default := by
    simp only [walked, List.mem_filter, List.mem_map, decide_eq_true_eq]
    constructor
    · intro defaults param member bare
      by_cases receiver : param.name = "self"
      · exact .inl receiver
      · exact .inr (defaults _ ⟨⟨param, member, rfl⟩, receiver⟩ bare)
    · rintro either _ ⟨⟨param, member, rfl⟩, other⟩ bare
      exact (either param member bare).resolve_left other
  unfold instantiate_pushed
  simp only [own.ungiven]
  rcases unreadable : classes.unreadable S with _ | e
  · have params : parameters classes.code descriptor = .ok (walked classes S) := by
      simp [parameters, own.factory, own.implementation, Classes.code, unreadable, Except.map, walked]
    simp only [params]
    rcases resolved : _resolve_args classes.code (get_service classes.code) (Resolver.owner classes.code descriptor) (walked classes S)
      (s.push S) with ⟨e | args, t⟩
    · refine iff_of_false (by simp) ?_
      intro buildable
      have := (resolve_args_ok classes.code (get_service classes.code) (Resolver.owner classes.code descriptor) (walked classes S)
        (s.push S) _ _).mpr ⟨unannotated_iff.mpr buildable.unannotated, buildable.annotated, rfl, rfl⟩
      rw [resolved] at this
      cases this
    · obtain ⟨defaults, settled, rfl, rfl⟩ := (resolve_args_ok _ _ _ _ _ _ _).mp resolved
      have called : (∃ x, (build classes.code descriptor (passed (parameter_calls classes s S).1) (parameter_calls classes s S).2).1 = .ok x) ↔
          classes.binds S (passed (parameter_calls classes s S).1) ∧
            ∃ object, classes.construct (parameter_calls classes s S).2.time S (passed (parameter_calls classes s S).1) = .ok object := by
        by_cases bound : classes.binds S (passed (parameter_calls classes s S).1)
        · rcases made : classes.construct (parameter_calls classes s S).2.time S (passed (parameter_calls classes s S).1) with e | object <;>
            simp [build, Classes.code, own.factory, own.implementation, bound, made]
        · simp [build, Classes.code, own.factory, own.implementation, bound]
      show (∃ x, (build classes.code descriptor (passed (parameter_calls classes s S).1) (parameter_calls classes s S).2).1 = .ok x) ↔ _
      rw [called, binds_of_constructible constructible]
      constructor
      · rintro ⟨accepted, made⟩
        exact ⟨unreadable, unannotated_iff.mp defaults, settled, accepted, .inr made⟩
      · intro buildable
        refine ⟨buildable.accepted, ?_⟩
        rcases buildable.constructed with empty | made
        · rw [empty]
          exact constructible.returns _
        · exact made
  · have params : parameters classes.code descriptor = .error e := by
      simp [parameters, own.factory, own.implementation, Classes.code, unreadable, Except.map]
    refine iff_of_false (by simp [params]) ?_
    intro buildable
    cases unreadable.symm.trans buildable.readable

/-- A class that Python can construct without arguments is got from the container exactly if it is
    not under construction, and is kept or can be built. -/
theorem returns_iff (own : OwnImplementation s S descriptor) (constructible : classes.Constructible S) :
    (∃ x, (s.get_service classes.code S).1 = .ok x) ↔
      S ∉ s.own._creation_stack ∧ ((∃ x, s.stored S descriptor = some x) ∨ Buildable classes s S) := by
  rw [get_service_eq, ← instantiate_ok_iff own constructible]
  by_cases circle : S ∈ s.own._creation_stack
  · simp [serve, circle]
  · have keyed := s.own.keyed _ _ own.registered
    simp only [serve, if_neg circle, own.registered, _create_service, _instantiate_service, keyed]
    cases stored : s.stored S descriptor with
    | some x => simp [circle]
    | none =>
      rcases instantiate_pushed classes.code (get_service classes.code) descriptor (s.push S) with ⟨e | x, t⟩ <;> simp [circle]

/-- Two classes: the first has no `__init__` of its own, the second takes an object of the first or none. -/
def plain : Classes Nat Nat where
  name S := if S = 0 then "Plain" else "Optional"
  unnamed _ := false
  unreadable _ := none
  __init__ S :=
    if S = 0 then
      [{ name := "self", param_type := none, has_default := false, kind := .POSITIONAL_ONLY },
        { name := "args", param_type := none, has_default := false, kind := .VAR_POSITIONAL },
        { name := "kwargs", param_type := none, has_default := false, kind := .VAR_KEYWORD }]
    else
      [{ name := "self", param_type := none, has_default := false }, { name := "plain", param_type := some 0, has_default := true }]
  construct time _ _ := .ok time
  factory_call time _ _ := .ok time
  disposable _ := false

theorem plain_constructible (S : Nat) : plain.Constructible S := by
  by_cases own : S = 0
  · exact ⟨by simp [plain, own, WrittenParameter.takes_first], by simp [plain, own, WrittenParameter.variadic], fun time => ⟨time, rfl⟩⟩
  · exact ⟨by simp [plain, own, WrittenParameter.takes_first], by simp [plain, own], fun time => ⟨time, rfl⟩⟩

/-- A class with one defaulted parameter, whose type is not registered, is got. -/
theorem default_taken : ∃ (s : Resolver Nat Nat) (descriptor : ServiceDescriptor Nat Nat), OwnImplementation s 1 descriptor ∧
    ((∃ x, (s.get_service plain.code 1).1 = .ok x) ↔
      1 ∉ s.own._creation_stack ∧ ((∃ x, s.stored 1 descriptor = some x) ∨ Buildable plain s 1)) := by
  have own : OwnImplementation ({ own := DIContainer.register_transient {} 1 none none } : Resolver Nat Nat) 1
      ⟨1, 1, none, none, .TRANSIENT, 0⟩ := ⟨rfl, rfl, rfl, rfl⟩
  exact ⟨_, _, own, returns_iff own (plain_constructible 1)⟩

/-- `class Plain: pass` is registered as its own implementation, and cannot be got. -/
theorem plain_class_raises : ∃ (s : Resolver Nat Nat) (descriptor : ServiceDescriptor Nat Nat), OwnImplementation s 0 descriptor ∧
    plain.Constructible 0 ∧ (s.get_service plain.code 0).1 = .error (some (.ValueError "Cannot resolve parameter args for Plain")) :=
  ⟨{ own := DIContainer.register_transient {} 0 none none }, ⟨0, 0, none, none, .TRANSIENT, 0⟩, ⟨rfl, rfl, rfl, rfl⟩, plain_constructible 0,
    by decide +kernel⟩

end Resolver
end RevitPy
