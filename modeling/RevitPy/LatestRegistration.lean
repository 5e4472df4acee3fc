import RevitPy.Runs
import RevitPy.ServiceContainer

/-!
# The latest registration of a service

A registration replaces the descriptor of a type, and the singleton of the type only where
it comes with an instance. A singleton that was kept before outlives a registration
without one.
-/

namespace RevitPy
variable {τ ω : Type} [DecidableEq τ]

/-- A call of a method of a container. -/
inductive ServiceCall (τ ω : Type)
  | register_singleton (service_type : τ) (implementation_type : Option τ) (factory : Option (Factory τ)) (instance_given : Option ω)
  | register_scoped (service_type : τ) (implementation_type : Option τ) (factory : Option (Factory τ))
  | register_transient (service_type : τ) (implementation_type : Option τ) (factory : Option (Factory τ))
  | get_service (service_type : τ)

/-- The type that a call registers. -/
def ServiceCall.registers : ServiceCall τ ω → Option τ
  | .register_singleton service_type _ _ _ | .register_scoped service_type _ _ | .register_transient service_type _ _ => some service_type
  | .get_service _ => none

/-- The last descriptor of a type among those that were registered. -/
def latest (registered : List (ServiceDescriptor τ ω)) (service_type : τ) : Option (ServiceDescriptor τ ω) :=
  registered.reverse.find? fun descriptor => descriptor.service_type = service_type

/-- An instance is the one that a registration gave, or comes from a call of its factory or
    constructor. -/
def Produced (code : ServiceCode τ ω) (descriptor : ServiceDescriptor τ ω) (x : Instance ω) : Prop :=
  x.registration = descriptor.number ∧
    (descriptor.instance_given = some x.object ∨ ∃ time args, code.call time descriptor args = .ok x.object)

namespace Resolver
variable (code : ServiceCode τ ω)

def call (s : Resolver τ ω) : ServiceCall τ ω → Resolver τ ω
  | .register_singleton service_type implementation_type factory instance_given =>
    { s with own := s.own.register_singleton service_type implementation_type factory instance_given }
  | .register_scoped service_type implementation_type factory =>
    { s with own := s.own.register_scoped service_type implementation_type factory }
  | .register_transient service_type implementation_type factory =>
    { s with own := s.own.register_transient service_type implementation_type factory }
  | .get_service service_type => (s.get_service code service_type).2

def calls (s : Resolver τ ω) (made : List (ServiceCall τ ω)) : Resolver τ ω := made.foldl (call code) s

/-- What is got of a type comes from its last registration, and a singleton was built at
    most once from its registration. -/
structure LatestWins (s : Resolver τ ω) : Prop where
  produced : ∀ service_type descriptor x, latest s.own.registered service_type = some descriptor →
    (s.get_service code service_type).1 = .ok x → Produced code descriptor x
  once : ∀ descriptor ∈ s.own.registered, descriptor.lifetime = .SINGLETON → s.own.built.count descriptor.number ≤ 1

/-- All calls for a singleton give the same instance up to its next registration. -/
def SameInstance (s : Resolver τ ω) (made : List (ServiceCall τ ω)) : Prop :=
  ∀ before between after service_type descriptor x y,
    made = before ++ .get_service service_type :: (between ++ .get_service service_type :: after) →
    (∀ call ∈ between, call.registers ≠ some service_type) →
    latest (s.calls code before).own.registered service_type = some descriptor → descriptor.lifetime = .SINGLETON →
    ((s.calls code before).get_service code service_type).1 = .ok x →
    ((s.calls code (before ++ .get_service service_type :: between)).get_service code service_type).1 = .ok y → x = y

/-- A singleton is registered without an instance only where none is kept. -/
def Renews (s : Resolver τ ω) : ServiceCall τ ω → Prop
  | .register_singleton service_type _ _ none => s.own._singletons.get? service_type = none
  | _ => True

/-! ## What a container keeps track of -/

/-- The descriptors are the last ones registered, what is kept of singletons comes from
    them, and a singleton is built when it is kept, and once. -/
structure Tracked (c : DIContainer τ ω) : Prop where
  services : ∀ S, c._services.get? S = latest c.registered S
  numbered : ∀ (n : Nat) (d : ServiceDescriptor τ ω), c.registered[n]? = some d → d.number = n
  current : ∀ S d x, c._services.get? S = some d → d.lifetime = .SINGLETON → c._singletons.get? S = some x → Produced code d x
  unbuilt : ∀ S d, c._services.get? S = some d → d.lifetime = .SINGLETON → c._singletons.get? S = none → d.number ∉ c.built
  once : ∀ d ∈ c.registered, d.lifetime = .SINGLETON → c.built.count d.number ≤ 1
  bounded : ∀ n ∈ c.built, n < c.registered.length
  kept : ∀ S x, c._singletons.get? S = some x → x.registration < c.registered.length

variable {code}

theorem latest_append (registered : List (ServiceDescriptor τ ω)) (d : ServiceDescriptor τ ω) (S : τ) :
    latest (registered ++ [d]) S = if d.service_type = S then some d else latest registered S := by
  unfold latest
  rw [List.reverse_append, List.reverse_singleton, List.singleton_append, List.find?_cons]
  by_cases same : d.service_type = S
  · simp [same]
  · simp [same]

theorem latest_mem {registered : List (ServiceDescriptor τ ω)} {S : τ} {d : ServiceDescriptor τ ω}
    (last : latest registered S = some d) : d ∈ registered ∧ d.service_type = S :=
  ⟨List.mem_reverse.mp (List.mem_of_find?_eq_some last), by simpa using List.find?_some last⟩

section
variable {c : DIContainer τ ω} (tracked : Tracked code c)
include tracked

theorem Tracked.number_lt {d : ServiceDescriptor τ ω} (member : d ∈ c.registered) : d.number < c.registered.length := by
  obtain ⟨n, found⟩ := List.mem_iff_getElem?.mp member
  rw [tracked.numbered n d found]
  exact (List.getElem?_eq_some_iff.mp found).1

/-- A registration is known by its number. -/
theorem Tracked.number_inj {d e : ServiceDescriptor τ ω} (left : d ∈ c.registered) (right : e ∈ c.registered)
    (same : d.number = e.number) : d = e := by
  obtain ⟨n, found⟩ := List.mem_iff_getElem?.mp left
  obtain ⟨m, found'⟩ := List.mem_iff_getElem?.mp right
  rw [tracked.numbered n d found, tracked.numbered m e found'] at same
  subst same
  exact Option.some.inj (found.symm.trans found')

theorem Tracked.registered {S : τ} {d : ServiceDescriptor τ ω} (known : c._services.get? S = some d) :
    d ∈ c.registered ∧ d.service_type = S := latest_mem (tracked.services S ▸ known)

/-- A new registration has the next number. -/
theorem Tracked.numbered_append {new : ServiceDescriptor τ ω} (next : new.number = c.registered.length) (n : Nat)
    (d : ServiceDescriptor τ ω) (found : (c.registered ++ [new])[n]? = some d) : d.number = n := by
  rw [List.getElem?_append] at found
  split at found
  · exact tracked.numbered n d found
  · obtain ⟨m, rfl⟩ : ∃ m, n = c.registered.length + m := ⟨n - c.registered.length, by omega⟩
    rw [Nat.add_sub_cancel_left] at found
    cases m with
    | zero =>
      cases found
      exact next
    | succ m => cases found

/-- A registration keeps track, unless it leaves the singleton of another one. -/
theorem Tracked.register (S : τ) (implementation_type : Option τ) (factory : Option (Factory τ)) (instance_given : Option ω)
    (lifetime : ServiceLifetime) (renews : lifetime = .SINGLETON → instance_given = none → c._singletons.get? S = none) :
    Tracked code (c._register_service S implementation_type factory instance_given lifetime) := by
  have fresh : c.registered.length ∉ c.built := fun built => Nat.lt_irrefl _ (tracked.bounded _ built)
  have others (T : τ) (other : S ≠ T) :
      (c._register_service S implementation_type factory instance_given lifetime)._singletons.get? T = c._singletons.get? T := by
    simp only [DIContainer._register_service]
    split
    · exact Dict.get?_set_ne _ _ other
    · rfl
  refine ⟨fun T => ?_, fun n d found => ?_, fun T d x known singleton found => ?_, fun T d known singleton none_kept => ?_,
    fun d member singleton => ?_, fun n built => ?_, fun T x found => ?_⟩
  · refine Eq.trans ?_ (latest_append c.registered _ T).symm
    rw [← tracked.services T]
    exact Dict.get?_set c._services S _ T
  · exact tracked.numbered_append rfl n d found
  · by_cases same : S = T
    · subst same
      cases (Dict.get?_set_self _ _ _).symm.trans known
      simp only at singleton
      subst singleton
      cases instance_given with
      | none => cases (renews rfl rfl).symm.trans found
      | some object =>
        cases (Dict.get?_set_self _ _ _).symm.trans found
        exact ⟨rfl, .inl rfl⟩
    · exact tracked.current T d x ((Dict.get?_set_ne _ _ same).symm.trans known) singleton ((others T same).symm.trans found)
  · by_cases same : S = T
    · subst same
      cases (Dict.get?_set_self _ _ _).symm.trans known
      exact fresh
    · exact tracked.unbuilt T d ((Dict.get?_set_ne _ _ same).symm.trans known) singleton ((others T same).symm.trans none_kept)
  · rcases List.mem_append.mp member with old | new
    · exact tracked.once d old singleton
    · cases List.mem_singleton.mp new
      exact Nat.le_trans (Nat.le_of_eq (List.count_eq_zero.mpr fresh)) (Nat.zero_le _)
  · have before := tracked.bounded n built
    simp only [DIContainer._register_service, List.length_append, List.length_singleton]
    omega
  · simp only [DIContainer._register_service, List.length_append, List.length_singleton]
    simp only [DIContainer._register_service] at found
    split at found
    · rw [Dict.get?_set] at found
      split at found
      · cases found
        exact Nat.lt_succ_self _
      · exact Nat.lt_succ_of_lt (tracked.kept T x found)
    · exact Nat.lt_succ_of_lt (tracked.kept T x found)

/-- A singleton of which none was kept is kept, and has been built at most now. -/
theorem Tracked.keep {S : τ} {d : ServiceDescriptor τ ω} {x : Instance ω} (known : c._services.get? S = some d)
    (singleton : d.lifetime = .SINGLETON) (none_kept : c._singletons.get? S = none) (produced : Produced code d x) {built : List Nat}
    (most : built.Sublist (c.built ++ [d.number])) :
    Tracked code { c with
      _singletons := c._singletons.set S x
      built := built } := by
  obtain ⟨member, named⟩ := tracked.registered known
  have unbuilt := tracked.unbuilt S d known singleton none_kept
  refine ⟨tracked.services, tracked.numbered, fun T e y known' singleton' found => ?_, fun T e known' singleton' none_kept' built' => ?_,
    fun e member' singleton' => ?_, fun n built' => ?_, fun T y found => ?_⟩
  · rw [Dict.get?_set] at found
    split at found
    · next same =>
      subst same
      cases known.symm.trans known'
      cases found
      exact produced
    · exact tracked.current T e y known' singleton' found
  · rw [Dict.get?_set] at none_kept'
    split at none_kept'
    · cases none_kept'
    · next other =>
      obtain ⟨member', named'⟩ := tracked.registered known'
      rcases List.mem_append.mp (most.subset built') with before | now
      · exact tracked.unbuilt T e known' singleton' none_kept' before
      · have same := tracked.number_inj member' member (List.mem_singleton.mp now)
        exact other (named.symm.trans (same ▸ named'))
  · refine Nat.le_trans (most.count_le _) ?_
    rw [List.count_append, List.count_singleton]
    by_cases same : e = d
    · rw [same, List.count_eq_zero.mpr unbuilt]
      split <;> omega
    · have distinct : e.number ≠ d.number := fun number => same (tracked.number_inj member' member number)
      have once := tracked.once e member' singleton'
      simp [distinct.symm, once]
  · rcases List.mem_append.mp (most.subset built') with before | now
    · exact tracked.bounded n before
    · exact List.mem_singleton.mp now ▸ tracked.number_lt member
  · rw [Dict.get?_set] at found
    split at found
    · cases found
      exact produced.1 ▸ tracked.number_lt member
    · exact tracked.kept T y found

/-- What is not a singleton may be built again. -/
theorem Tracked.built_other {S : τ} {d : ServiceDescriptor τ ω} (known : c._services.get? S = some d)
    (other : d.lifetime ≠ .SINGLETON) : Tracked code { c with built := c.built ++ [d.number] } := by
  obtain ⟨member, -⟩ := tracked.registered known
  have distinct {e : ServiceDescriptor τ ω} (member' : e ∈ c.registered) (singleton : e.lifetime = .SINGLETON) : e.number ≠ d.number := by
    intro number
    exact other (tracked.number_inj member' member number ▸ singleton)
  refine { tracked with unbuilt := fun T e known' singleton none_kept built' => ?_, once := fun e member' singleton => ?_,
                        bounded := fun n built' => ?_ }
  · rcases List.mem_append.mp built' with before | now
    · exact tracked.unbuilt T e known' singleton none_kept before
    · exact distinct (tracked.registered known').1 singleton (List.mem_singleton.mp now)
  · have once := tracked.once e member' singleton
    simp [(distinct member' singleton).symm, once]
  · rcases List.mem_append.mp built' with before | now
    · exact tracked.bounded n before
    · exact List.mem_singleton.mp now ▸ tracked.number_lt member

end

/-- A resolution keeps track. -/
theorem Tracked.created {s t u : Resolver τ ω} {S : τ} {d : ServiceDescriptor τ ω} (registered : s.own._services.get? S = some d)
    (new : s.stored S d = none) (kept : Kept (s.push S) t) (tracked : Tracked code t.own) (created : Created code t S d u) :
    Tracked code u.own := by
  have known : t.own._services.get? S = some d := by
    rw [kept.services]
    exact registered
  have none_kept (singleton : d.lifetime = .SINGLETON) : t.own._singletons.get? S = none := by
    simp only [stored, singleton] at new
    exact kept.unstored S (List.mem_append_right _ (List.mem_singleton_self S)) new
  have answers (v : Resolver τ ω) (x : Instance ω) (tracked : Tracked code v.own) : Tracked code (v.answered S d x).own := by
    unfold answered
    split
    · exact tracked
    · exact tracked
  cases created with
  | failed => exact { tracked with }
  | raised => exact { tracked with }
  | given object given =>
    refine answers _ _ ?_
    unfold store
    split
    · next singleton =>
      exact { tracked.keep known singleton (none_kept singleton) ⟨rfl, .inl given⟩ (List.sublist_append_left ..) with }
    · unfold store_scoped
      split
      · exact { tracked with }
      · exact { tracked with }
    · exact { tracked with }
  | built object args called =>
    refine answers _ _ ?_
    unfold store
    split
    · next singleton =>
      exact { tracked.keep known singleton (none_kept singleton) ⟨rfl, .inr ⟨_, args, called⟩⟩ (List.Sublist.refl _) with }
    · next lifetime =>
      have built := tracked.built_other known (by simp [lifetime])
      unfold store_scoped
      split
      · exact { built with }
      · exact { built with }
    · next lifetime => exact { tracked.built_other known (by simp [lifetime]) with }

theorem Tracked.resolve (depth : Nat) (s : Resolver τ ω) (S : τ) (tracked : Tracked code s.own) :
    Tracked code (resolve code depth s S).2.own :=
  (resolve_rel (R := fun s t => Kept s t ∧ (Tracked code s.own → Tracked code t.own)) (fun s => ⟨.refl s, id⟩)
    (fun _ _ _ first second => ⟨first.1.trans second.1, second.2 ∘ first.2⟩)
    (fun s S d x _ _ => ⟨(Kept.refl s).answered S d x, fun tracked => by
      unfold answered
      split
      · exact tracked
      · exact tracked⟩)
    (fun s S d t u registered off new kept created => ⟨kept.1.created off new created, fun tracked =>
      Tracked.created registered new kept.1 (kept.2 { tracked with }) created⟩)
    (fun s container more t parents kept => ⟨kept.1.parent parents, id⟩) depth s S).2 tracked

/-! ## Runs -/

/-- What is got of a registered type was kept, or is new and is kept from now on. -/
theorem resolve_known {depth : Nat} {s : Resolver τ ω} {S : τ} {d : ServiceDescriptor τ ω} {x : Instance ω}
    (known : s.own._services.get? S = some d) (got : (resolve code (depth + 1) s S).1 = .ok x) :
    s.stored S d = some x ∧ (resolve code (depth + 1) s S).2 = s.answered S d x ∨
      s.stored S d = none ∧ Produced code d x ∧
        ∃ u : Resolver τ ω, (resolve code (depth + 1) s S).2 = (u.store S d x).answered S d x := by
  rw [resolve] at got ⊢
  by_cases circle : S ∈ s.own._creation_stack
  · rw [if_pos circle] at got
    cases got
  · rw [if_neg circle] at got ⊢
    simp only [known, _create_service] at got ⊢
    cases kept : s.stored S d with
    | some y =>
      simp only [kept] at got
      cases got
      exact .inl ⟨rfl, rfl⟩
    | none =>
      simp only [kept, _instantiate_service, instantiate_pushed] at got ⊢
      refine .inr ⟨trivial, ?_⟩
      cases given : d.instance_given with
      | some object =>
        simp only [given] at got ⊢
        cases got
        exact ⟨⟨rfl, .inl given⟩, _, rfl⟩
      | none =>
        simp only [given] at got ⊢
        cases found : parameters code d with
        | error e =>
          rw [found] at got
          cases got
        | ok params =>
          simp only [found] at got ⊢
          rcases answer : _resolve_args code (resolve code depth) (Resolver.owner code d) params (s.push d.service_type) with
            ⟨e | args, t⟩
          · rw [answer] at got
            cases got
          · simp only [answer, build] at got ⊢
            cases called : code.call t.time d args with
            | error e =>
              rw [called] at got
              cases got
            | ok object =>
              simp only [called] at got ⊢
              cases got
              exact ⟨⟨rfl, .inr ⟨_, args, called⟩⟩, _, rfl⟩

theorem singletons_answered (s : Resolver τ ω) (S : τ) (d : ServiceDescriptor τ ω) (x : Instance ω) :
    (s.answered S d x).own = s.own := by
  unfold answered
  split
  · rfl
  · rfl

/-- A singleton that was got is kept. -/
theorem resolve_keeps {depth : Nat} {s : Resolver τ ω} {S : τ} {d : ServiceDescriptor τ ω} {x : Instance ω}
    (known : s.own._services.get? S = some d) (singleton : d.lifetime = .SINGLETON) (got : (resolve code (depth + 1) s S).1 = .ok x) :
    (resolve code (depth + 1) s S).2.own._singletons.get? S = some x := by
  rcases resolve_known known got with ⟨kept, same⟩ | ⟨-, -, u, same⟩
  · rw [same, singletons_answered]
    simpa only [stored, singleton] using kept
  · rw [same, singletons_answered]
    simp only [store, singleton, store_singleton, Dict.get?_set_self]

variable (code) in
/-- A container between two calls, outside scopes. -/
structure Ready (s : Resolver τ ω) : Prop where
  tracked : Tracked code s.own
  idle : s.own._creation_stack = []
  inactive : s.own._scope_active = false

/-- What is kept of a type, singleton or not, comes from its last registration. -/
theorem Ready.latest_wins {s : Resolver τ ω} (ready : Ready code s) : LatestWins code s where
  produced S d x last got := by
    have known := (ready.tracked.services S).trans last
    rcases resolve_known known got with ⟨kept, -⟩ | ⟨-, produced, -⟩
    · unfold stored at kept
      split at kept
      · next singleton => exact ready.tracked.current S d x known singleton kept
      · rw [ready.inactive] at kept
        cases kept
      · cases kept
    · exact produced
  once := ready.tracked.once

theorem Ready.call {s : Resolver τ ω} (made : ServiceCall τ ω) (ready : Ready code s) (renews : s.Renews made) :
    Ready code (s.call code made) := by
  cases made with
  | register_singleton S implementation_type factory instance_given =>
    refine ⟨ready.tracked.register S _ _ _ _ fun _ none_given => ?_, ready.idle, ready.inactive⟩
    subst none_given
    exact renews
  | register_scoped S implementation_type factory => exact ⟨ready.tracked.register S _ _ _ _ nofun, ready.idle, ready.inactive⟩
  | register_transient S implementation_type factory => exact ⟨ready.tracked.register S _ _ _ _ nofun, ready.idle, ready.inactive⟩
  | get_service S =>
    have kept := kept_resolve code (s.depth + 1) s S
    exact ⟨ready.tracked.resolve _ s S, kept.stack.trans ready.idle, kept.active.trans ready.inactive⟩

theorem ready_new (parents : List (DIContainer τ ω)) : Ready code { parents := parents } where
  tracked :=
    { services := fun _ => rfl
      numbered := by simp
      current := by simp
      unbuilt := by simp
      once := by simp
      bounded := by simp
      kept := by simp }
  idle := rfl
  inactive := rfl

/-- A singleton that is kept stays, with its descriptor, up to its next registration. -/
theorem call_keeps {s : Resolver τ ω} {S : τ} {d : ServiceDescriptor τ ω} {x : Instance ω} (made : ServiceCall τ ω)
    (kept : s.own._services.get? S = some d ∧ s.own._singletons.get? S = some x) (other : made.registers ≠ some S) :
    (s.call code made).own._services.get? S = some d ∧ (s.call code made).own._singletons.get? S = some x := by
  obtain ⟨known, found⟩ := kept
  cases made with
  | register_singleton T implementation_type factory instance_given =>
    have apart : T ≠ S := fun same => other (congrArg some same)
    refine ⟨(Dict.get?_set_ne _ _ apart).trans known, ?_⟩
    cases instance_given with
    | none => exact found
    | some object => exact (Dict.get?_set_ne _ _ apart).trans found
  | register_scoped T implementation_type factory =>
    exact ⟨(Dict.get?_set_ne _ _ fun same => other (congrArg some same)).trans known, found⟩
  | register_transient T implementation_type factory =>
    exact ⟨(Dict.get?_set_ne _ _ fun same => other (congrArg some same)).trans known, found⟩
  | get_service T =>
    have kept := kept_resolve code (s.depth + 1) s T
    exact ⟨(congrArg (fun services => services.get? S) kept.services).trans known, kept.singletons_kept S x found⟩

theorem same_instance {s : Resolver τ ω} {made : List (ServiceCall τ ω)} (ready : Ready code s)
    (renews : Runs.Along (call code) Renews s made) : SameInstance code s made := by
  rintro before between after S d x y rfl others last singleton first second
  have there : Ready code (s.calls code before) := Runs.foldl_keeps (fun s made => Ready.call made) ready (Runs.along_append.mp renews).1
  have known := (there.tracked.services S).trans last
  have kept : ((s.calls code (before ++ .get_service S :: between)).own._services.get? S = some d ∧
      (s.calls code (before ++ .get_service S :: between)).own._singletons.get? S = some x) := by
    rw [calls, List.foldl_append, List.foldl_cons]
    have stays : ∀ (t : Resolver τ ω) made, t.own._services.get? S = some d ∧ t.own._singletons.get? S = some x → made.registers ≠ some S →
        (t.call code made).own._services.get? S = some d ∧ (t.call code made).own._singletons.get? S = some x := fun t => call_keeps
    refine Runs.foldl_keeps stays ⟨?_, resolve_keeps known singleton first⟩ (Runs.along_of_mem fun _ => others)
    exact (congrArg (fun services => services.get? S) (kept_resolve code _ _ S).services).trans known
  have stays : (s.calls code (before ++ .get_service S :: between)).stored S d = some x := by
    simp only [stored, singleton]
    exact kept.2
  rcases resolve_known kept.1 second with ⟨again, -⟩ | ⟨none_kept, -⟩
  · exact Option.some.inj (stays.symm.trans again)
  · cases stays.symm.trans none_kept

/-- A singleton that outlives a registration is got instead of a new one. -/
theorem renews_of_latest_wins {s : Resolver τ ω} (made : ServiceCall τ ω) (ready : Ready code s)
    (latest_wins : LatestWins code (s.call code made)) : s.Renews made := by
  rcases made with ⟨S, implementation_type, factory, _ | object⟩ | ⟨S, implementation_type, factory⟩ |
    ⟨S, implementation_type, factory⟩ | S
  · show s.own._singletons.get? S = none
    cases found : s.own._singletons.get? S with
    | none => rfl
    | some x =>
      have known := (latest_append s.own.registered
        ⟨S, implementation_type.getD S, factory, none, .SINGLETON, s.own.registered.length⟩ S).trans (if_pos rfl)
      have got : ((s.call code (.register_singleton S implementation_type factory none)).get_service code S).1 = .ok x := by
        have idle : (s.call code (.register_singleton S implementation_type factory none)).own._creation_stack = [] := ready.idle
        have here : (s.call code (.register_singleton S implementation_type factory none)).own._services.get? S =
            some ⟨S, implementation_type.getD S, factory, none, .SINGLETON, s.own.registered.length⟩ := Dict.get?_set_self _ _ _
        have stays : (s.call code (.register_singleton S implementation_type factory none)).own._singletons.get? S = some x := found
        simp [get_service, resolve, idle, here, _create_service, stored, stays]
      have number := (latest_wins.produced S _ x known got).1
      have older := ready.tracked.kept S x found
      exact absurd older (number ▸ Nat.lt_irrefl _)
  · trivial
  · trivial
  · trivial
  · trivial

/-- Latest registration wins: in every run of registrations and calls of get_service, what
    is got of a type comes from its last registration, and a singleton is built once and is
    the same up to the next one, exactly where no singleton is registered without an
    instance while one is kept. -/
theorem latest_wins_iff (code : ServiceCode τ ω) (parents : List (DIContainer τ ω)) (made : List (ServiceCall τ ω)) :
    Runs.Throughout (call code) (LatestWins code) { parents := parents } made ∧ SameInstance code { parents := parents } made ↔
      Runs.Along (call code) Renews { parents := parents } made := by
  have start : Ready code { parents := parents } := ready_new parents
  have keeps (s : Resolver τ ω) (made : ServiceCall τ ω) (ready : Ready code s) (renews : s.Renews made) : Ready code (s.call code made) :=
    ready.call made renews
  constructor
  · rintro ⟨wins, -⟩
    exact Runs.along_of_throughout keeps (fun s made => renews_of_latest_wins made) start wins
  · intro renews
    exact ⟨Runs.throughout_mono (fun s => Ready.latest_wins) (Runs.throughout_keeps keeps start renews), same_instance start renews⟩

/-- Services that are numbers, and take no arguments. -/
def numbers : ServiceCode Nat Nat where
  name _ := "Number"
  signature _ := .ok []
  call _ _ _ := .ok 8
  disposable _ := false

/-- A factory is registered after an instance, and what is got is still the instance. -/
theorem stale_singleton :
    ¬LatestWins numbers (calls numbers {} [.register_singleton 0 none none (some 7), .register_singleton 0 none (some ⟨"make", .ok []⟩) none]) := by
  intro wins
  have produced := wins.produced 0 ⟨0, 0, some ⟨"make", .ok []⟩, none, .SINGLETON, 1⟩ ⟨7, 0, none⟩ rfl rfl
  exact absurd produced.1 (by decide)

end Resolver

end RevitPy
