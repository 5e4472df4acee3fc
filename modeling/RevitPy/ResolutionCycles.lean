import Mathlib.Logic.Relation
import RevitPy.ServiceContainer

/-!
# Circular dependencies

A call of `get_service` makes others: for each parameter of a constructor or a factory, and at the
parent. Those that a call makes are a relation here, and a call raises a `RuntimeError` where they
come to a type that its container is creating.
-/

namespace RevitPy.Resolver
variable {τ ω : Type} [DecidableEq τ] {code : ServiceCode τ ω}

/-- A call raised a `RuntimeError`. -/
def RaisesRuntime {α : Type} (result : Except (Option ServiceError) α) : Prop := ∃ message, result = .error (some (.RuntimeError message))

/-- The constructor or the factory that a call comes to, with its parameters. -/
structure Instantiates (code : ServiceCode τ ω) (s : Resolver τ ω) (service_type : τ) (descriptor : ServiceDescriptor τ ω) : Prop where
  off : service_type ∉ s.own._creation_stack
  registered : s.own._services.get? service_type = some descriptor
  unstored : s.stored service_type descriptor = none
  ungiven : descriptor.instance_given = none

/-- A call of `get_service` makes another one: at the parent, or for a parameter that it comes to. -/
inductive Requests (code : ServiceCode τ ω) : Resolver τ ω × τ → Resolver τ ω × τ → Prop
  | parent {s : Resolver τ ω} {service_type : τ} {container : DIContainer τ ω} {more : List (DIContainer τ ω)}
      (off : service_type ∉ s.own._creation_stack) (unregistered : s.own._services.get? service_type = none)
      (parents : s.parents = container :: more) : Requests code (s, service_type) (s.at_parent container more, service_type)
  | argument {s t : Resolver τ ω} {service_type param_type : τ} {descriptor : ServiceDescriptor τ ω} {before after : List (Parameter τ)}
      {param : Parameter τ} {args : List (String × Instance ω)} (instantiates : Instantiates code s service_type descriptor)
      (params : parameters code descriptor = .ok (before ++ param :: after))
      (resolved : _resolve_args code (get_service code) (owner code descriptor) before (s.push service_type) = (.ok args, t))
      (annotated : param.param_type = some param_type) : Requests code (s, service_type) (t, param_type)

/-- The type of a call is under construction in the container of the call. -/
def UnderConstruction (call : Resolver τ ω × τ) : Prop := call.2 ∈ call.1.own._creation_stack

/-- The code that a call runs raises a `RuntimeError` of its own. -/
inductive CodeRaises (code : ServiceCode τ ω) : Resolver τ ω × τ → Prop
  | signature {s : Resolver τ ω} {service_type : τ} {descriptor : ServiceDescriptor τ ω} {message : String}
      (instantiates : Instantiates code s service_type descriptor)
      (params : parameters code descriptor = .error (.RuntimeError message)) : CodeRaises code (s, service_type)
  | call {s t : Resolver τ ω} {service_type : τ} {descriptor : ServiceDescriptor τ ω} {all : List (Parameter τ)}
      {args : List (String × Instance ω)} {message : String} (instantiates : Instantiates code s service_type descriptor)
      (params : parameters code descriptor = .ok all)
      (resolved : _resolve_args code (get_service code) (owner code descriptor) all (s.push service_type) = (.ok args, t))
      (raises : code.call t.time descriptor args = .error (.RuntimeError message)) : CodeRaises code (s, service_type)

/-- The calls that a call comes to, itself among them. -/
def Reaches (code : ServiceCode τ ω) : Resolver τ ω × τ → Resolver τ ω × τ → Prop := Relation.ReflTransGen (Requests code)

/-- A resolution ends, raises a `RuntimeError` exactly in a case, and leaves the creation stacks as they were. -/
structure Clean (code : ServiceCode τ ω) (s : Resolver τ ω) (service_type : τ) (case : Prop) : Prop where
  ends : (s.get_service code service_type).1 ≠ .error none
  runtime_iff : RaisesRuntime (s.get_service code service_type).1 ↔ case
  stack : (s.get_service code service_type).2.own._creation_stack = s.own._creation_stack
  parent_stacks : (s.get_service code service_type).2.parents.map DIContainer._creation_stack = s.parents.map DIContainer._creation_stack

/-! ## The depth does not matter -/

theorem resolve_args_congr {get got : Resolver τ ω → τ → Resolution τ ω (Instance ω)} {s : Resolver τ ω}
    (agree : ∀ t, Kept s t → ∀ S, get t S = got t S) (keeps : ∀ t S, Kept t (got t S).2) (owner : String) (params : List (Parameter τ))
    {t : Resolver τ ω} (kept : Kept s t) : _resolve_args code get owner params t = _resolve_args code got owner params t := by
  induction params generalizing t with
  | nil => rfl
  | cons param rest ih =>
    rw [_resolve_args, _resolve_args]
    cases param.param_type with
    | none => simp only [ih kept]
    | some param_type =>
      have later := kept.trans (keeps t param_type)
      simp only [agree t kept]
      rcases answer : got t param_type with ⟨(_ | (message | message | message)) | x, u⟩ <;> rw [answer] at later <;> simp only [ih later]

/-- What a call does, in terms of the calls that it makes. -/
def serve (code : ServiceCode τ ω) (get : Resolver τ ω → τ → Resolution τ ω (Instance ω)) (s : Resolver τ ω) (service_type : τ) :
    Resolution τ ω (Instance ω) :=
  if service_type ∈ s.own._creation_stack then (.error (some (s.circular code service_type)), s)
  else match s.own._services.get? service_type with
    | some descriptor => _create_service code get service_type descriptor s
    | none => match s.parents with
      | [] => (.error (some (code.naming service_type fun name => "Service " ++ name ++ " is not registered")), s)
      | parent :: grandparents =>
        let (result, t) := get (s.at_parent parent grandparents) service_type
        (result, t.back_at s.own)

theorem resolve_succ (fuel : Nat) (s : Resolver τ ω) (service_type : τ) : resolve code (fuel + 1) s service_type = serve code (resolve code fuel) s service_type := rfl

/-- What a call does depends on what calls do at smaller depths. -/
theorem serve_congr {get got : Resolver τ ω → τ → Resolution τ ω (Instance ω)} (s : Resolver τ ω) (service_type : τ)
    (agree : ∀ t S, t.depth < s.depth → get t S = got t S) (keeps : ∀ t S, Kept t (got t S).2) : serve code get s service_type = serve code got s service_type := by
  unfold serve
  by_cases circle : service_type ∈ s.own._creation_stack
  · rw [if_pos circle, if_pos circle]
  rw [if_neg circle, if_neg circle]
  cases registered : s.own._services.get? service_type with
  | some descriptor =>
    have keyed := s.own.keyed _ _ registered
    have pushed := depth_push (Dict.mem_keys_of_get? registered) circle
    have same (owner : String) (params : List (Parameter τ)) :
        _resolve_args code get owner params (s.push service_type) = _resolve_args code got owner params (s.push service_type) := by
      refine resolve_args_congr (fun t kept S => agree t S ?_) keeps owner params (.refl _)
      have := kept.depth
      omega
    simp only [_create_service, _instantiate_service, instantiate_pushed, keyed, same]
  | none =>
    cases parents : s.parents with
    | nil => rfl
    | cons container rest => simp only [agree (s.at_parent container rest) service_type (depth_parent parents)]

theorem resolve_stable (fuel more : Nat) (s : Resolver τ ω) (service_type : τ) (enough : s.depth < fuel) (also : s.depth < more) :
    resolve code fuel s service_type = resolve code more s service_type := by
  induction fuel generalizing s service_type more with
  | zero => exact absurd enough (Nat.not_lt_zero _)
  | succ fuel ih =>
    obtain ⟨more, rfl⟩ : ∃ n, more = n + 1 := ⟨more - 1, by omega⟩
    rw [resolve_succ, resolve_succ]
    exact serve_congr s service_type (fun t S less => ih more t S (by omega) (by omega)) fun t S => kept_resolve code more t S

theorem get_service_eq (s : Resolver τ ω) (service_type : τ) :
    s.get_service code service_type = serve code (get_service code) s service_type := by
  rw [get_service, resolve_succ]
  exact serve_congr s service_type (fun t S less => resolve_stable _ _ t S less (Nat.lt_succ_self _)) fun t S => kept_resolve code _ t S

/-! ## Calls that raise a `RuntimeError` -/

@[simp] theorem raisesRuntime_ok {α : Type} (x : α) : ¬ RaisesRuntime (.ok x : Except (Option ServiceError) α) := by
  rintro ⟨message, same⟩
  cases same

@[simp] theorem raisesRuntime_value {α : Type} (message : String) :
    ¬ RaisesRuntime (.error (some (.ValueError message)) : Except (Option ServiceError) α) := by
  rintro ⟨other, same⟩
  cases same

@[simp] theorem raisesRuntime_other {α : Type} (message : String) :
    ¬ RaisesRuntime (.error (some (.other message)) : Except (Option ServiceError) α) := by
  rintro ⟨other, same⟩
  cases same

@[simp] theorem raisesRuntime_unended {α : Type} : ¬ RaisesRuntime (.error none : Except (Option ServiceError) α) := by
  rintro ⟨other, same⟩
  cases same

omit [DecidableEq τ] in
@[simp] theorem raisesRuntime_naming {α : Type} (service_type : τ) (message : String → String) :
    ¬ RaisesRuntime (.error (some (code.naming service_type message)) : Except (Option ServiceError) α) := by
  unfold ServiceCode.naming
  split
  · exact raisesRuntime_other _
  · exact raisesRuntime_value _

theorem raisesRuntime_runtime {α : Type} (message : String) :
    RaisesRuntime (.error (some (.RuntimeError message)) : Except (Option ServiceError) α) := ⟨message, rfl⟩

/-- Arguments that are followed by more of them, if they are resolved. -/
def and_then (first : Resolution τ ω (List (String × Instance ω))) (next : Resolver τ ω → Resolution τ ω (List (String × Instance ω))) :
    Resolution τ ω (List (String × Instance ω)) :=
  match first with
  | (.ok args, s) => match next s with
    | (.ok more, t) => (.ok (args ++ more), t)
    | failed => failed
  | failed => failed

theorem and_then_runtime (first : Resolution τ ω (List (String × Instance ω)))
    (next : Resolver τ ω → Resolution τ ω (List (String × Instance ω))) : RaisesRuntime (and_then first next).1 ↔
      RaisesRuntime first.1 ∨ ∃ args t, first = (.ok args, t) ∧ RaisesRuntime (next t).1 := by
  obtain ⟨e | args, t⟩ := first
  · simp [and_then]
  · rcases answer : next t with ⟨e | more, u⟩
    · simp [and_then, answer]
    · simp [and_then, answer]

theorem and_then_ok (first : Resolution τ ω (List (String × Instance ω)))
    (next : Resolver τ ω → Resolution τ ω (List (String × Instance ω))) {args : List (String × Instance ω)} {t : Resolver τ ω}
    (done : and_then first next = (.ok args, t)) : ∃ front u more, first = (.ok front, u) ∧ next u = (.ok more, t) := by
  obtain ⟨e | front, u⟩ := first
  · simp [and_then] at done
  · rcases answer : next u with ⟨e | more, v⟩
    · simp [and_then, answer] at done
    · simp only [and_then, answer, Prod.mk.injEq] at done
      exact ⟨front, u, more, rfl, by rw [answer, done.2]⟩

theorem resolve_args_cons (get : Resolver τ ω → τ → Resolution τ ω (Instance ω)) (owner : String) (param : Parameter τ)
    (rest : List (Parameter τ)) (s : Resolver τ ω) : _resolve_args code get owner (param :: rest) s =
      and_then (_resolve_args code get owner [param] s) (_resolve_args code get owner rest) := by
  have goes_on (t : Resolver τ ω) : and_then (.ok [], t) (_resolve_args code get owner rest) = _resolve_args code get owner rest t := by
    rcases answer : _resolve_args code get owner rest t with ⟨e | more, u⟩ <;> simp [and_then, answer]
  simp only [_resolve_args]
  cases param.param_type with
  | none =>
    by_cases default : param.has_default
    · simp only [default, ↓reduceIte, goes_on]
    · simp only [default, Bool.false_eq_true, ↓reduceIte, and_then]
  | some param_type =>
    rcases answer : get s param_type with ⟨(_ | (message | message | message)) | x, u⟩
    · simp only [answer, and_then]
    · by_cases default : param.has_default
      · simp only [answer, default, ↓reduceIte, goes_on]
      · simp only [answer, default, Bool.false_eq_true, ↓reduceIte, and_then]
    · simp only [answer, and_then]
    · simp only [answer, and_then]
    · rcases later : _resolve_args code get owner rest u with ⟨e | more, v⟩ <;> simp [answer, and_then, later]

theorem resolve_arg_runtime (get : Resolver τ ω → τ → Resolution τ ω (Instance ω)) (owner : String) (param : Parameter τ)
    (s : Resolver τ ω) : RaisesRuntime (_resolve_args code get owner [param] s).1 ↔
      ∃ param_type, param.param_type = some param_type ∧ RaisesRuntime (get s param_type).1 := by
  simp only [_resolve_args]
  cases param.param_type with
  | none => by_cases default : param.has_default <;> simp [default]
  | some param_type =>
    rcases answer : get s param_type with ⟨(_ | (message | message | message)) | x, u⟩
    · simp [answer]
    · by_cases default : param.has_default <;> simp [answer, default]
    · simp [answer, raisesRuntime_runtime]
    · simp [answer]
    · simp [answer]

/-- The arguments fail with a `RuntimeError` where the call for one of them does: a default does
    not help. -/
theorem resolve_args_runtime (get : Resolver τ ω → τ → Resolution τ ω (Instance ω)) (owner : String) (params : List (Parameter τ))
    (s : Resolver τ ω) : RaisesRuntime (_resolve_args code get owner params s).1 ↔
      ∃ before param after args t param_type, params = before ++ param :: after ∧
        _resolve_args code get owner before s = (.ok args, t) ∧ param.param_type = some param_type ∧ RaisesRuntime (get t param_type).1 := by
  induction params generalizing s with
  | nil => simp [_resolve_args]
  | cons param rest ih =>
    rw [resolve_args_cons, and_then_runtime, resolve_arg_runtime]
    constructor
    · rintro (⟨param_type, annotated, raised⟩ | ⟨args, t, first, raised⟩)
      · exact ⟨[], param, rest, [], s, param_type, rfl, rfl, annotated, raised⟩
      · obtain ⟨before, next, after, more, u, param_type, rfl, resolved, annotated, raised⟩ := (ih t).mp raised
        refine ⟨param :: before, next, after, args ++ more, u, param_type, rfl, ?_, annotated, raised⟩
        rw [resolve_args_cons, first]
        simp only [and_then, resolved]
    · rintro ⟨before, next, after, args, t, param_type, split, resolved, annotated, raised⟩
      cases before with
      | nil =>
        simp only [List.nil_append, List.cons.injEq] at split
        simp only [_resolve_args, Prod.mk.injEq] at resolved
        exact .inl ⟨param_type, split.1 ▸ annotated, resolved.2 ▸ raised⟩
      | cons first before =>
        simp only [List.cons_append, List.cons.injEq] at split
        obtain ⟨rfl, rfl⟩ := split
        rw [resolve_args_cons] at resolved
        obtain ⟨front, u, more, first, later⟩ := and_then_ok _ _ resolved
        exact .inr ⟨front, u, first, (ih u).mpr ⟨before, next, after, more, t, param_type, rfl, later, annotated, raised⟩⟩

/-! ## One call, and all of them -/

theorem instantiated_runtime {s : Resolver τ ω} {service_type : τ} {descriptor : ServiceDescriptor τ ω}
    (instantiates : Instantiates code s service_type descriptor) :
    RaisesRuntime (s.get_service code service_type).1 ↔
      RaisesRuntime (instantiate_pushed code (get_service code) descriptor (s.push service_type)).1 := by
  have keyed := s.own.keyed _ _ instantiates.registered
  rw [get_service_eq]
  simp only [serve, if_neg instantiates.off, instantiates.registered, _create_service, instantiates.unstored, _instantiate_service, keyed]
  rcases instantiate_pushed code (get_service code) descriptor (s.push service_type) with ⟨e | x, t⟩
  · simp
  · simp

/-- The call of the code with resolved arguments. -/
theorem build_runtime (descriptor : ServiceDescriptor τ ω) (args : List (String × Instance ω)) (s : Resolver τ ω) :
    RaisesRuntime (build code descriptor args s).1 ↔ ∃ message, code.call s.time descriptor args = .error (.RuntimeError message) := by
  unfold build
  rcases code.call s.time descriptor args with (message | message | message) | object <;> simp [raisesRuntime_runtime]

/-- Code raises only in a call that makes something. -/
theorem CodeRaises.instantiates {s : Resolver τ ω} {service_type : τ} (raises : CodeRaises code (s, service_type)) :
    ∃ descriptor, Instantiates code s service_type descriptor := by
  rcases raises with ⟨instantiates, -⟩ | ⟨instantiates, -, -⟩ <;> exact ⟨_, instantiates⟩

/-- A call is made for a parent container, or for an argument. -/
theorem Requests.kinds {s : Resolver τ ω} {service_type : τ} {call : Resolver τ ω × τ} (requests : Requests code (s, service_type) call) :
    (s.own._services.get? service_type = none ∧ ∃ container more, s.parents = container :: more ∧ call = (s.at_parent container more, service_type)) ∨
      ∃ descriptor, Instantiates code s service_type descriptor := by
  cases requests with
  | parent off unregistered known => exact .inl ⟨unregistered, _, _, known, rfl⟩
  | argument instantiates params resolved annotated => exact .inr ⟨_, instantiates⟩

section
variable {s : Resolver τ ω} {service_type : τ}

/-- A type that is registered in no container raises something else, and one that is not registered
    here is left to the parent. -/
theorem unregistered_runtime (off : service_type ∉ s.own._creation_stack) (unregistered : s.own._services.get? service_type = none) :
    RaisesRuntime (s.get_service code service_type).1 ↔
      CodeRaises code (s, service_type) ∨ ∃ call, Requests code (s, service_type) call ∧ RaisesRuntime (call.1.get_service code call.2).1 := by
  have never {descriptor : ServiceDescriptor τ ω} (instantiates : Instantiates code s service_type descriptor) : False :=
    absurd (unregistered.symm.trans instantiates.registered) (by simp)
  cases parents : s.parents with
  | nil =>
    refine iff_of_false ?_ ?_
    · rw [get_service_eq]
      simp [serve, off, unregistered, parents]
    · rintro (raises | ⟨call, requests, -⟩)
      · obtain ⟨descriptor, instantiates⟩ := raises.instantiates
        exact never instantiates
      · rcases requests.kinds with ⟨-, container, more, known, -⟩ | ⟨descriptor, instantiates⟩
        · rw [parents] at known
          cases known
        · exact never instantiates
  | cons container more =>
    have asked : RaisesRuntime (s.get_service code service_type).1 ↔
        RaisesRuntime ((s.at_parent container more).get_service code service_type).1 := by
      rw [get_service_eq]
      simp [serve, off, unregistered, parents]
    rw [asked]
    constructor
    · exact fun raised => .inr ⟨_, .parent off unregistered parents, raised⟩
    · rintro (raises | ⟨call, requests, raised⟩)
      · obtain ⟨descriptor, instantiates⟩ := raises.instantiates
        exact (never instantiates).elim
      · rcases requests.kinds with ⟨-, _, _, known, rfl⟩ | ⟨descriptor, instantiates⟩
        · rw [parents] at known
          cases known
          exact raised
        · exact (never instantiates).elim

/-- A type whose signature cannot be read. -/
theorem unreadable_runtime {descriptor : ServiceDescriptor τ ω} (instantiates : Instantiates code s service_type descriptor) {error : ServiceError}
    (params : parameters code descriptor = .error error) : RaisesRuntime (s.get_service code service_type).1 ↔
      CodeRaises code (s, service_type) ∨ ∃ call, Requests code (s, service_type) call ∧ RaisesRuntime (call.1.get_service code call.2).1 := by
  have same {other : ServiceDescriptor τ ω} (also : Instantiates code s service_type other) : other = descriptor :=
    Option.some.inj (also.registered.symm.trans instantiates.registered)
  rw [instantiated_runtime instantiates, instantiate_pushed]
  simp only [instantiates.ungiven, params]
  constructor
  · rintro ⟨message, raised⟩
    cases raised
    exact .inl (.signature instantiates params)
  · rintro (raises | ⟨call, requests, -⟩)
    · rcases raises with ⟨also, found⟩ | ⟨also, found, -⟩
      · cases same also
        rw [params] at found
        cases found
        exact raisesRuntime_runtime _
      · cases same also
        rw [params] at found
        cases found
    · cases requests with
      | parent off unregistered known => exact absurd (unregistered.symm.trans instantiates.registered) (by simp)
      | argument also found resolved annotated =>
        cases same also
        rw [params] at found
        cases found

/-- A type that is made from its arguments. -/
theorem readable_runtime {descriptor : ServiceDescriptor τ ω} (instantiates : Instantiates code s service_type descriptor)
    {all : List (Parameter τ)} (params : parameters code descriptor = .ok all) : RaisesRuntime (s.get_service code service_type).1 ↔
      CodeRaises code (s, service_type) ∨ ∃ call, Requests code (s, service_type) call ∧ RaisesRuntime (call.1.get_service code call.2).1 := by
  have same {other : ServiceDescriptor τ ω} (also : Instantiates code s service_type other) : other = descriptor :=
    Option.some.inj (also.registered.symm.trans instantiates.registered)
  rw [instantiated_runtime instantiates, instantiate_pushed]
  simp only [instantiates.ungiven, params]
  have made : RaisesRuntime (_resolve_args code (get_service code) (owner code descriptor) all (s.push service_type)).1 ↔
      ∃ call, Requests code (s, service_type) call ∧ RaisesRuntime (call.1.get_service code call.2).1 := by
    rw [resolve_args_runtime]
    constructor
    · rintro ⟨before, param, after, args, t, param_type, rfl, resolved, annotated, raised⟩
      exact ⟨_, .argument instantiates params resolved annotated, raised⟩
    · rintro ⟨call, requests, raised⟩
      cases requests with
      | parent off unregistered known => exact absurd (unregistered.symm.trans instantiates.registered) (by simp)
      | argument also found resolved annotated =>
        cases same also
        rw [params] at found
        cases found
        exact ⟨_, _, _, _, _, _, rfl, resolved, annotated, raised⟩
  have called : CodeRaises code (s, service_type) ↔ ∃ args t message,
      _resolve_args code (get_service code) (owner code descriptor) all (s.push service_type) = (.ok args, t) ∧
        code.call t.time descriptor args = .error (.RuntimeError message) := by
    constructor
    · rintro (⟨also, found⟩ | ⟨also, found, resolved, raises⟩)
      · cases same also
        rw [params] at found
        cases found
      · cases same also
        rw [params] at found
        cases found
        exact ⟨_, _, _, resolved, raises⟩
    · rintro ⟨args, t, message, resolved, raises⟩
      exact .call instantiates params resolved raises
  rw [← made, called]
  rcases _resolve_args code (get_service code) (owner code descriptor) all (s.push service_type) with ⟨e | args, t⟩
  · simp [RaisesRuntime]
  · simp [build_runtime]

/-- A type of which an instance is kept, or was given. -/
theorem kept_runtime (off : service_type ∉ s.own._creation_stack) {descriptor : ServiceDescriptor τ ω}
    (registered : s.own._services.get? service_type = some descriptor) (kept : ¬ Instantiates code s service_type descriptor) :
    RaisesRuntime (s.get_service code service_type).1 ↔
      CodeRaises code (s, service_type) ∨ ∃ call, Requests code (s, service_type) call ∧ RaisesRuntime (call.1.get_service code call.2).1 := by
  have none_other {other : ServiceDescriptor τ ω} (also : Instantiates code s service_type other) : False := by
    cases Option.some.inj (also.registered.symm.trans registered)
    exact kept also
  refine iff_of_false ?_ ?_
  · have keyed := s.own.keyed _ _ registered
    rw [get_service_eq]
    simp only [serve, if_neg off, registered, _create_service]
    cases stored : s.stored service_type descriptor with
    | some x => simp
    | none =>
      cases given : descriptor.instance_given with
      | some object => simp [_instantiate_service, instantiate_pushed, given]
      | none => exact absurd ⟨off, registered, stored, given⟩ kept
  · rintro (raises | ⟨call, requests, -⟩)
    · obtain ⟨other, also⟩ := raises.instantiates
      exact none_other also
    · rcases requests.kinds with ⟨unregistered, -⟩ | ⟨other, also⟩
      · exact absurd (unregistered.symm.trans registered) (by simp)
      · exact none_other also

end

/-- A call raises a `RuntimeError` by itself, from the code that it runs, or from a call that it makes. -/
theorem get_service_runtime (s : Resolver τ ω) (service_type : τ) : RaisesRuntime (s.get_service code service_type).1 ↔
    (UnderConstruction (s, service_type) ∨ CodeRaises code (s, service_type)) ∨
      ∃ call, Requests code (s, service_type) call ∧ RaisesRuntime (call.1.get_service code call.2).1 := by
  by_cases circle : service_type ∈ s.own._creation_stack
  · refine iff_of_true ?_ (.inl (.inl circle))
    rw [get_service_eq, serve, if_pos circle]
    exact raisesRuntime_runtime _
  · have finished : ¬ UnderConstruction (s, service_type) := circle
    rw [or_assoc, or_iff_right finished]
    cases registered : s.own._services.get? service_type with
    | none => exact unregistered_runtime circle registered
    | some descriptor =>
      by_cases instantiates : Instantiates code s service_type descriptor
      · rcases params : parameters code descriptor with error | all
        · exact unreadable_runtime instantiates params
        · exact readable_runtime instantiates params
      · exact kept_runtime circle registered instantiates

/-- A call that is made leaves less to create. -/
theorem Requests.depth {call made : Resolver τ ω × τ} (requests : Requests code call made) : made.1.depth < call.1.depth := by
  cases requests with
  | parent off unregistered parents => exact depth_parent parents
  | @argument s t service_type param_type descriptor before after param args instantiates params resolved annotated =>
    have kept : Kept (s.push service_type) (_resolve_args code (get_service code) (owner code descriptor) before (s.push service_type)).2 :=
      resolve_args_rel Kept.refl (fun _ _ _ => Kept.trans) (fun s S => kept_resolve code _ s S) _ _ _
    rw [resolved] at kept
    have pushed := depth_push (Dict.mem_keys_of_get? instantiates.registered) instantiates.off
    have same : t.depth = (s.push service_type).depth := kept.depth
    show t.depth < s.depth
    omega

theorem runtime_iff_reaches (call : Resolver τ ω × τ) : RaisesRuntime (call.1.get_service code call.2).1 ↔
    ∃ made, Reaches code call made ∧ (UnderConstruction made ∨ CodeRaises code made) := by
  constructor
  · induction measure : call.1.depth using Nat.strongRecOn generalizing call with
    | ind n ih =>
      intro raised
      rcases (get_service_runtime call.1 call.2).mp raised with here | ⟨next, requests, later⟩
      · exact ⟨call, .refl, here⟩
      · obtain ⟨made, reaches, there⟩ := ih _ (measure ▸ requests.depth) next rfl later
        exact ⟨made, .head requests reaches, there⟩
  · rintro ⟨made, reaches, there⟩
    induction reaches using Relation.ReflTransGen.head_induction_on with
    | refl => exact (get_service_runtime made.1 made.2).mpr (.inl there)
    | head requests _ ih => exact (get_service_runtime _ _).mpr (.inr ⟨_, requests, ih⟩)

/-- The constructors take nothing and raise. -/
def raising : ServiceCode Nat Nat where
  name S := toString S
  signature _ := .ok []
  call _ _ _ := .error (.RuntimeError "not ready")
  disposable _ := false

/-- Two types that take each other, the first of them with a default: the default is not used. -/
def circling : ServiceCode Nat Nat where
  name S := toString S
  signature S := .ok [⟨"other", some (1 - S), S = 0⟩]
  call _ _ _ := .ok 0
  disposable _ := false

example : (({ own := (DIContainer.register_transient {} 0 none none).register_singleton 1 none none none } : Resolver Nat Nat).get_service circling 0).1 =
    .error (some (.RuntimeError "Circular dependency detected: 0 -> 1 -> 0")) := by decide +kernel

end RevitPy.Resolver
