import RevitPy.LatestRegistration
import RevitPy.Outcome

/-!
# Scopes of services

A container has one flag and one map for all of its scopes. An inner scope clears the map
of the outer one, and turns the flag off when it ends.
-/

namespace RevitPy
variable {τ ω : Type} [DecidableEq τ]

/-- A call of a container: of a method, or the entry or the exit of a scope, with the ends
    of the calls of `dispose`. -/
inductive ScopeCall (τ ω : Type)
  | service (made : ServiceCall τ ω)
  | enter
  | exit (dispose : ω → Outcome Unit)

namespace Resolver
variable (code : ServiceCode τ ω)

/-- Enter a service scope. -/
def _enter_scope (s : Resolver τ ω) : Resolver τ ω :=
  { s with
    own := { s.own with
      _scope_active := true
      _scoped_services := ∅ }
    scopes := s.entered :: s.scopes
    entered := s.entered + 1 }

/-- The objects whose `dispose` is called, and how that ends. An `Exception` is logged. -/
def dispose_services (dispose : ω → Outcome Unit) : List (Instance ω) → List ω × Outcome Unit
  | [] => ([], .returned ())
  | x :: rest =>
    if code.disposable x.object then
      match dispose x.object with
      | .interrupted message => ([x.object], .interrupted message)
      | _ =>
        let (objects, ended) := dispose_services dispose rest
        (x.object :: objects, ended)
    else dispose_services dispose rest

/-- Exit a service scope. -/
def _exit_scope (dispose : ω → Outcome Unit) (s : Resolver τ ω) : Outcome Unit × Resolver τ ω :=
  let (objects, ended) := dispose_services code dispose s.own._scoped_services.values
  let s :=
    { s with
      scopes := s.scopes.tail
      disposed := s.disposed ++ objects.map fun object => (s.scopes.headD 0, object) }
  match ended with
  | .returned _ =>
    (ended,
      { s with own := { s.own with
        _scoped_services := ∅
        _scope_active := false } })
  | _ => (ended, s)

def scope_call (s : Resolver τ ω) : ScopeCall τ ω → Resolver τ ω
  | .service made => s.call code made
  | .enter => s._enter_scope
  | .exit dispose => (s._exit_scope code dispose).2

/-- Registrations come outside scopes, and only an open scope is exited. -/
def WellNested (s : Resolver τ ω) : ScopeCall τ ω → Prop
  | .service (.get_service _) | .enter => True
  | .service _ => s.scopes = []
  | .exit _ => s.scopes ≠ []

/-- One instance per scope, another one in another scope, and an instance with a `dispose`
    is disposed once, by the exit of its own scope. -/
structure ScopesKept [DecidableEq ω] (s : Resolver τ ω) : Prop where
  same : ∀ k S x y, (some k, S, x) ∈ s.resolved → (some k, S, y) ∈ s.resolved → x = y
  different : ∀ k j S T x y, (some k, S, x) ∈ s.resolved → (some j, T, y) ∈ s.resolved → k ≠ j → x.object ≠ y.object
  disposed : ∀ k S x, (some k, S, x) ∈ s.resolved → code.disposable x.object = true →
    (s.disposed.filter fun entry => entry.2 = x.object) = if k ∈ s.scopes then [] else [(k, x.object)]

/-- No descriptor of a container is for a scoped service. -/
def Unscoped (c : DIContainer τ ω) : Prop := ∀ S d, c._services.get? S = some d → d.lifetime ≠ .SCOPED

/-- A scope is entered where the open one holds nothing. In a scope, services are got while
    the flag is on, from parents without scoped services. The exit is not interrupted. -/
def Disciplined (s : Resolver τ ω) : ScopeCall τ ω → Prop
  | .service (.get_service _) => s.scopes = [] ∨ s.own._scope_active = true ∧ ∀ parent ∈ s.parents, Unscoped parent
  | .service _ => True
  | .enter => ∀ S, s.own._scoped_services.get? S = none
  | .exit dispose => ∀ x ∈ s.own._scoped_services.values, code.disposable x.object = true → (dispose x.object).is_interrupted = false

/-- Each call for a scoped service gives another object. -/
def NewObjects : Prop :=
  ∀ time time' d d' args args' object, d.lifetime = .SCOPED → d'.lifetime = .SCOPED →
    code.call time d args = .ok object → code.call time' d' args' = .ok object → time = time'

/-! ## What holds between the calls -/

/-- The map holds what was got in the innermost scope, and the other open scopes have got
    nothing. What was got was built for its scope, and is disposed when it is closed. -/
structure Orderly [DecidableEq ω] (s : Resolver τ ω) : Prop where
  given : ∀ S d, s.own._services.get? S = some d → d.lifetime = .SCOPED → d.instance_given = none
  nested : s.scopes.Pairwise (· > ·)
  entered : ∀ k ∈ s.scopes, k < s.entered
  past : ∀ k S x, (some k, S, x) ∈ s.resolved → k < s.entered
  idle : s.scopes = [] → s.own._scope_active = false
  inactive : s.own._scope_active = false → ∀ S, s.own._scoped_services.get? S = none
  current : ∀ k rest, s.scopes = k :: rest → ∀ S x, (some k, S, x) ∈ s.resolved ↔ s.own._scoped_services.get? S = some x
  outer : ∀ k ∈ s.scopes.tail, ∀ S x, (some k, S, x) ∉ s.resolved
  made : ∀ k S x, (some k, S, x) ∈ s.resolved →
    ∃ time d args, x.made = some time ∧ time < s.time ∧ d.lifetime = .SCOPED ∧ code.call time d args = .ok x.object
  same : ∀ k S x y, (some k, S, x) ∈ s.resolved → (some k, S, y) ∈ s.resolved → x = y
  distinct : ∀ k j S T x y, (some k, S, x) ∈ s.resolved → (some j, T, y) ∈ s.resolved → x.made = y.made → k = j ∧ S = T ∧ x = y
  disposed : ∀ k S x, (some k, S, x) ∈ s.resolved → code.disposable x.object = true →
    (s.disposed.filter fun entry => entry.2 = x.object) = if k ∈ s.scopes then [] else [(k, x.object)]
  origin : ∀ entry ∈ s.disposed, ∃ k S x, (some k, S, x) ∈ s.resolved ∧ x.object = entry.2

variable {code}

omit [DecidableEq τ] in
/-- Without an interruption, `dispose` is called of everything that has it. -/
theorem dispose_services_ends (dispose : ω → Outcome Unit) {services : List (Instance ω)}
    (ends : ∀ x ∈ services, code.disposable x.object = true → (dispose x.object).is_interrupted = false) :
    dispose_services code dispose services = ((services.filter fun x => code.disposable x.object).map Instance.object, .returned ()) := by
  induction services with
  | nil => rfl
  | cons x rest ih =>
    have later := ih fun y member => ends y (List.mem_cons_of_mem _ member)
    have now := ends x List.mem_cons_self
    rw [dispose_services, later]
    cases disposable : code.disposable x.object with
    | false => simp [disposable]
    | true =>
      have uninterrupted := now disposable
      cases ended : dispose x.object with
      | returned _ => simp [disposable]
      | raised _ => simp [disposable]
      | interrupted _ =>
        rw [ended] at uninterrupted
        cases uninterrupted

section
variable [DecidableEq ω] {s t : Resolver τ ω} (orderly : Orderly code s)
include orderly

/-- Objects tell what was got. -/
theorem Orderly.object_inj (new : NewObjects code) {k j : Nat} {S T : τ} {x y : Instance ω} (left : (some k, S, x) ∈ s.resolved)
    (right : (some j, T, y) ∈ s.resolved) (same : x.object = y.object) : k = j ∧ S = T ∧ x = y := by
  obtain ⟨time, d, args, at_time, -, scope, called⟩ := orderly.made k S x left
  obtain ⟨time', d', args', at_time', -, scope', called'⟩ := orderly.made j T y right
  rw [same] at called
  have once := new time time' d d' args args' y.object scope scope' called called'
  exact orderly.distinct k j S T x y left right (by rw [at_time, at_time', once])

theorem Orderly.scopes_kept (new : NewObjects code) : ScopesKept code s where
  same := orderly.same
  different _ _ _ _ _ _ left right apart same := apart (orderly.object_inj new left right same).1
  disposed := orderly.disposed

/-- What matters is the scopes, what they hold, and what was got in them. -/
theorem Orderly.of_same (given : ∀ S d, t.own._services.get? S = some d → d.lifetime = .SCOPED → d.instance_given = none)
    (active : t.own._scope_active = s.own._scope_active) (held : t.own._scoped_services = s.own._scoped_services)
    (scopes : t.scopes = s.scopes) (entered : t.entered = s.entered)
    (resolved : ∀ k S x, (some k, S, x) ∈ t.resolved ↔ (some k, S, x) ∈ s.resolved) (disposed : t.disposed = s.disposed)
    (time : s.time ≤ t.time) : Orderly code t where
  given := given
  nested := scopes ▸ orderly.nested
  entered := by
    rw [scopes, entered]
    exact orderly.entered
  past k S x got := entered ▸ orderly.past k S x ((resolved k S x).mp got)
  idle := by
    rw [scopes, active]
    exact orderly.idle
  inactive := by
    rw [active, held]
    exact orderly.inactive
  current k rest := by
    rw [scopes, held]
    exact fun shape S x => (resolved k S x).trans (orderly.current k rest shape S x)
  outer k := by
    rw [scopes]
    exact fun outer S x got => orderly.outer k outer S x ((resolved k S x).mp got)
  made k S x got := by
    obtain ⟨time', d, args, at_time, before, called⟩ := orderly.made k S x ((resolved k S x).mp got)
    exact ⟨time', d, args, at_time, Nat.lt_of_lt_of_le before time, called⟩
  same k S x y left right := orderly.same k S x y ((resolved k S x).mp left) ((resolved k S y).mp right)
  distinct k j S T x y left right := orderly.distinct k j S T x y ((resolved k S x).mp left) ((resolved j T y).mp right)
  disposed k S x got := by
    rw [scopes, disposed]
    exact orderly.disposed k S x ((resolved k S x).mp got)
  origin entry member := by
    obtain ⟨k, S, x, got, same⟩ := orderly.origin entry (disposed ▸ member)
    exact ⟨k, S, x, (resolved k S x).mpr got, same⟩

/-- Nothing that was got was built just now. -/
theorem Orderly.unmade {k : Nat} {S : τ} {x : Instance ω} (got : (some k, S, x) ∈ s.resolved) : x.made ≠ some s.time := by
  obtain ⟨time, d, args, at_time, earlier, -⟩ := orderly.made k S x got
  rw [at_time]
  exact fun same => Nat.ne_of_lt earlier (Option.some.inj same)

/-- What the innermost scope does not hold was not got in it. -/
theorem Orderly.unheld {k : Nat} {rest : List Nat} (shape : s.scopes = k :: rest) {S : τ}
    (none_held : s.own._scoped_services.get? S = none) (x : Instance ω) : (some k, S, x) ∉ s.resolved := by
  intro got
  cases none_held.symm.trans ((orderly.current k rest shape S x).mp got)

/-- A new object has not been disposed. -/
theorem Orderly.undisposed (new : NewObjects code) {d : ServiceDescriptor τ ω} (lifetime : d.lifetime = .SCOPED) {object : ω}
    {args : List (String × Instance ω)} (called : code.call s.time d args = .ok object) :
    (s.disposed.filter fun entry => entry.2 = object) = [] := by
  rw [List.filter_eq_nil_iff]
  intro entry disposal same
  obtain ⟨k, S, x, got, object_same⟩ := orderly.origin entry disposal
  obtain ⟨time, d', args', at_time, earlier, lifetime', called'⟩ := orderly.made k S x got
  rw [object_same, of_decide_eq_true same] at called'
  exact Nat.ne_of_lt earlier (new _ _ _ _ _ _ _ lifetime' lifetime called' called)

/-- A new scoped instance is held by the innermost scope. -/
theorem Orderly.keep (new : NewObjects code) {k : Nat} {rest : List Nat} (shape : s.scopes = k :: rest)
    (active : s.own._scope_active = true) {S : τ} {d : ServiceDescriptor τ ω} (none_held : s.own._scoped_services.get? S = none)
    (lifetime : d.lifetime = .SCOPED) {object : ω} {args : List (String × Instance ω)} (called : code.call s.time d args = .ok object)
    (services : t.own._services = s.own._services) (active' : t.own._scope_active = s.own._scope_active)
    (held : t.own._scoped_services = s.own._scoped_services.set S ⟨object, d.number, some s.time⟩) (scopes : t.scopes = s.scopes)
    (entered : t.entered = s.entered)
    (resolved : t.resolved = s.resolved ++ [(some k, S, ⟨object, d.number, some s.time⟩)]) (disposed : t.disposed = s.disposed)
    (time : t.time = s.time + 1) : Orderly code t := by
  have got (j : Nat) (T : τ) (y : Instance ω) : (some j, T, y) ∈ t.resolved ↔
      (some j, T, y) ∈ s.resolved ∨ j = k ∧ T = S ∧ y = ⟨object, d.number, some s.time⟩ := by
    rw [resolved]
    simp
  have unheld := orderly.unheld shape none_held
  exact {
    given := services ▸ orderly.given
    nested := scopes ▸ orderly.nested
    entered := by
      rw [scopes, entered]
      exact orderly.entered
    past := by
      intro j T y member
      rw [entered]
      rcases (got j T y).mp member with before | ⟨rfl, -⟩
      · exact orderly.past j T y before
      · exact orderly.entered j (shape ▸ List.mem_cons_self)
    idle := by
      rw [scopes, shape]
      exact nofun
    inactive := by
      rw [active', active]
      exact nofun
    current := by
      intro j rest' shape' T y
      cases (shape.symm.trans scopes.symm).trans shape'
      rw [got, held, Dict.get?_set, orderly.current k rest shape T y]
      by_cases same : S = T
      · subst same
        rw [none_held]
        simp [eq_comm]
      · simp [same, Ne.symm same]
    outer := by
      intro j outer T y member
      rw [scopes] at outer
      rcases (got j T y).mp member with before | ⟨rfl, -⟩
      · exact orderly.outer j outer T y before
      · have nested := orderly.nested
        rw [shape] at outer nested
        exact Nat.lt_irrefl _ ((List.pairwise_cons.mp nested).1 j outer)
    made := by
      intro j T y member
      rw [time]
      rcases (got j T y).mp member with before | ⟨-, -, rfl⟩
      · obtain ⟨time', d', args', at_time, earlier, called'⟩ := orderly.made j T y before
        exact ⟨time', d', args', at_time, Nat.lt_succ_of_lt earlier, called'⟩
      · exact ⟨s.time, d, args, rfl, Nat.lt_succ_self _, lifetime, called⟩
    same := by
      intro j T y z left right
      rcases (got j T y).mp left with before | ⟨rfl, rfl, rfl⟩
      · rcases (got j T z).mp right with before' | ⟨rfl, rfl, rfl⟩
        · exact orderly.same j T y z before before'
        · exact absurd before (unheld y)
      · rcases (got j T z).mp right with before' | ⟨-, -, rfl⟩
        · exact absurd before' (unheld z)
        · rfl
    distinct := by
      intro j i T U y z left right same
      rcases (got j T y).mp left with before | ⟨rfl, rfl, rfl⟩
      · rcases (got i U z).mp right with before' | ⟨rfl, rfl, rfl⟩
        · exact orderly.distinct j i T U y z before before' same
        · exact absurd same (orderly.unmade before)
      · rcases (got i U z).mp right with before' | ⟨rfl, rfl, rfl⟩
        · exact absurd same.symm (orderly.unmade before')
        · exact ⟨rfl, rfl, rfl⟩
    disposed := by
      intro j T y member disposable
      rw [scopes, disposed]
      rcases (got j T y).mp member with before | ⟨rfl, rfl, rfl⟩
      · exact orderly.disposed j T y before disposable
      · rw [if_pos (shape ▸ List.mem_cons_self)]
        exact orderly.undisposed new lifetime called
    origin := by
      intro entry member
      obtain ⟨j, T, y, before, same⟩ := orderly.origin entry (disposed ▸ member)
      exact ⟨j, T, y, (got j T y).mpr (.inl before), same⟩ }

theorem Orderly.held {k : Nat} {rest : List Nat} (shape : s.scopes = k :: rest) (x : Instance ω) :
    x ∈ s.own._scoped_services.values ↔ ∃ S, (some k, S, x) ∈ s.resolved := by
  constructor
  · intro held
    obtain ⟨⟨S, y⟩, member, rfl⟩ := List.mem_map.mp held
    exact ⟨S, (orderly.current k rest shape S y).mpr ((Dict.get?_some_iff _ S y).mpr member)⟩
  · rintro ⟨S, got⟩
    exact List.mem_map.mpr ⟨(S, x), (Dict.get?_some_iff _ S x).mp ((orderly.current k rest shape S x).mp got), rfl⟩

/-- The objects that a scope holds are all different. -/
theorem Orderly.objects_nodup (new : NewObjects code) {k : Nat} {rest : List Nat} (shape : s.scopes = k :: rest) :
    (s.own._scoped_services.values.map Instance.object).Nodup := by
  unfold Dict.values
  rw [List.map_map]
  refine List.Nodup.map_on ?_ (List.Nodup.of_map _ s.own._scoped_services.nodup)
  rintro ⟨S, x⟩ left ⟨T, y⟩ right same
  have got := (orderly.current k rest shape S x).mpr ((Dict.get?_some_iff _ S x).mpr left)
  have got' := (orderly.current k rest shape T y).mpr ((Dict.get?_some_iff _ T y).mpr right)
  obtain ⟨-, rfl, rfl⟩ := orderly.object_inj new got got' same
  rfl

/-- An exit disposes once of what its own scope has got, and of nothing else. -/
theorem Orderly.disposals (new : NewObjects code) {k : Nat} {rest : List Nat} (shape : s.scopes = k :: rest) {j : Nat} {S : τ}
    {x : Instance ω} (got : (some j, S, x) ∈ s.resolved) (disposable : code.disposable x.object = true) :
    ((((s.own._scoped_services.values.filter fun y => code.disposable y.object).map Instance.object).map fun object => (k, object)).filter
      fun entry => entry.2 = x.object) = if j = k then [(j, x.object)] else [] := by
  by_cases here : j = k
  · subst here
    have nodup := ((List.filter_sublist (p := fun y => code.disposable y.object)).map Instance.object).nodup
      (orderly.objects_nodup new shape)
    have member : x.object ∈ (s.own._scoped_services.values.filter fun y => code.disposable y.object).map Instance.object :=
      List.mem_map_of_mem (List.mem_filter.mpr ⟨(orderly.held shape x).mpr ⟨S, got⟩, disposable⟩)
    rw [if_pos rfl, List.filter_map]
    have once := List.filter_eq (l := (s.own._scoped_services.values.filter fun y => code.disposable y.object).map Instance.object) x.object
    rw [List.count_eq_one_of_mem nodup member] at once
    exact congrArg (List.map fun object => (j, object)) once
  · rw [if_neg here, List.filter_eq_nil_iff]
    intro entry member same
    obtain ⟨object, listed, rfl⟩ := List.mem_map.mp member
    obtain ⟨y, held, rfl⟩ := List.mem_map.mp listed
    obtain ⟨T, got'⟩ := (orderly.held shape y).mp (List.mem_of_mem_filter held)
    exact here (orderly.object_inj new got got' (of_decide_eq_true same).symm).1

/-- A scope is exited without an interruption. -/
theorem Orderly.exit (new : NewObjects code) (dispose : ω → Outcome Unit) (some_open : s.scopes ≠ [])
    (ends : ∀ x ∈ s.own._scoped_services.values, code.disposable x.object = true → (dispose x.object).is_interrupted = false) :
    Orderly code (s._exit_scope code dispose).2 := by
  obtain ⟨k, rest, shape⟩ := List.exists_cons_of_ne_nil some_open
  have nested := orderly.nested
  rw [shape, List.pairwise_cons] at nested
  have others (j : Nat) (outer : j ∈ rest) (S : τ) (x : Instance ω) : (some j, S, x) ∉ s.resolved :=
    orderly.outer j (by rw [shape]; exact outer) S x
  simp only [_exit_scope, dispose_services_ends dispose ends, shape, List.tail_cons, List.headD_cons]
  refine ⟨orderly.given, nested.2, ?_, orderly.past, ?_, ?_, ?_, ?_, orderly.made, orderly.same, orderly.distinct, ?_, ?_⟩
  · exact fun j outer => orderly.entered j (shape ▸ List.mem_cons_of_mem _ outer)
  · exact fun _ => rfl
  · exact fun _ _ => rfl
  · rintro j rest' rfl S x
    refine ⟨fun got => absurd got (others j List.mem_cons_self S x), fun found => ?_⟩
    cases found
  · exact fun j outer => others j (List.mem_of_mem_tail outer)
  · intro j S x got disposable
    have closed : j ∉ rest := fun outer => others j outer S x got
    rw [List.filter_append, orderly.disposed j S x got disposable, orderly.disposals new shape got disposable, shape, if_neg closed]
    by_cases here : j = k
    · rw [if_pos here, if_pos (here ▸ List.mem_cons_self), List.nil_append]
    · have before : j ∉ k :: rest := fun member => closed ((List.mem_cons.mp member).resolve_left here)
      rw [if_neg here, if_neg before, List.append_nil]
  · intro entry member
    rcases List.mem_append.mp member with before | now
    · exact orderly.origin entry before
    · obtain ⟨object, listed, rfl⟩ := List.mem_map.mp now
      obtain ⟨x, held, rfl⟩ := List.mem_map.mp listed
      obtain ⟨S, got⟩ := (orderly.held shape x).mp (List.mem_of_mem_filter held)
      exact ⟨k, S, x, got, rfl⟩

/-- A scope is entered. -/
theorem Orderly.enter (empty : ∀ S, s.own._scoped_services.get? S = none) : Orderly code s._enter_scope where
  given := orderly.given
  nested := List.pairwise_cons.mpr ⟨orderly.entered, orderly.nested⟩
  entered := by
    rintro k (_ | ⟨_, member⟩)
    · exact Nat.lt_succ_self _
    · exact Nat.lt_succ_of_lt (orderly.entered k member)
  past k S x got := Nat.lt_succ_of_lt (orderly.past k S x got)
  idle := nofun
  inactive := nofun
  current k rest shape S x := by
    cases shape
    exact ⟨fun got => absurd (orderly.past _ S x got) (Nat.lt_irrefl _), nofun⟩
  outer k member S x got := by
    have member : k ∈ s.scopes := member
    cases shape : s.scopes with
    | nil =>
      rw [shape] at member
      cases member
    | cons j rest =>
      rw [shape] at member
      rcases List.mem_cons.mp member with rfl | outer
      · cases (empty S).symm.trans ((orderly.current k rest shape S x).mp got)
      · exact orderly.outer k (by rw [shape]; exact outer) S x got
  made := orderly.made
  same := orderly.same
  distinct := orderly.distinct
  disposed k S x got disposable := by
    have older : k ≠ s.entered := Nat.ne_of_lt (orderly.past k S x got)
    have before := orderly.disposed k S x got disposable
    simpa only [_enter_scope, List.mem_cons, older, false_or] using before
  origin := orderly.origin

end

/-! ## Resolutions outside scopes and in a scope -/

theorem store_log (s : Resolver τ ω) (S : τ) (d : ServiceDescriptor τ ω) (x : Instance ω) :
    (s.store S d x).resolved = s.resolved ∧ (s.store S d x).scopes = s.scopes := by
  unfold store
  split
  · exact ⟨rfl, rfl⟩
  · unfold store_scoped
    split
    · exact ⟨rfl, rfl⟩
    · exact ⟨rfl, rfl⟩
  · exact ⟨rfl, rfl⟩

theorem store_inactive {s : Resolver τ ω} (inactive : s.own._scope_active = false) (S : τ) (d : ServiceDescriptor τ ω) (x : Instance ω) :
    (s.store S d x).own._scoped_services = s.own._scoped_services := by
  unfold store
  split
  · rfl
  · rw [store_scoped, inactive]
    rfl
  · rfl

/-- Outside scopes nothing is got in a scope. -/
theorem answered_outside {s : Resolver τ ω} (outside : s.scopes = []) (S : τ) (d : ServiceDescriptor τ ω) (x : Instance ω) (k : Nat)
    (T : τ) (y : Instance ω) : (some k, T, y) ∈ (s.answered S d x).resolved ↔ (some k, T, y) ∈ s.resolved := by
  unfold answered note
  rw [outside]
  split
  · simp
  · rfl

theorem finish_outside {s : Resolver τ ω} (outside : s.scopes = []) (S : τ) (d : ServiceDescriptor τ ω) (x : Instance ω) (k : Nat)
    (T : τ) (y : Instance ω) : (some k, T, y) ∈ (s.finish S d x).resolved ↔ (some k, T, y) ∈ s.resolved := by
  obtain ⟨resolved, scopes⟩ := store_log (s.pop S) S d x
  rw [finish, answered_outside (scopes.trans outside), resolved]
  rfl

/-- What is not scoped leaves the scope alone. -/
theorem finish_unscoped (s : Resolver τ ω) (S : τ) {d : ServiceDescriptor τ ω} (other : d.lifetime ≠ .SCOPED) (x : Instance ω) :
    (s.finish S d x).resolved = s.resolved ∧ (s.finish S d x).own._scoped_services = s.own._scoped_services := by
  rw [finish, answered, if_neg other, store]
  cases lifetime : d.lifetime with
  | SINGLETON => exact ⟨rfl, rfl⟩
  | SCOPED => exact absurd lifetime other
  | TRANSIENT => exact ⟨rfl, rfl⟩

theorem created_unscoped {t u : Resolver τ ω} {S : τ} {d : ServiceDescriptor τ ω} (other : d.lifetime ≠ .SCOPED)
    (created : Created code t S d u) : u.resolved = t.resolved ∧ u.own._scoped_services = t.own._scoped_services := by
  cases created with
  | failed => exact ⟨rfl, rfl⟩
  | raised => exact ⟨rfl, rfl⟩
  | given object _ => exact finish_unscoped t S other _
  | built object args _ => exact finish_unscoped _ S other _

/-- What a creation never touches. -/
structure SameRest (s t : Resolver τ ω) : Prop where
  services : t.own._services = s.own._services
  active : t.own._scope_active = s.own._scope_active
  scopes : t.scopes = s.scopes
  entered : t.entered = s.entered
  disposed : t.disposed = s.disposed
  time : s.time ≤ t.time

theorem finish_rest (s : Resolver τ ω) (S : τ) (d : ServiceDescriptor τ ω) (x : Instance ω) : SameRest s (s.finish S d x) := by
  have stored : SameRest s ((s.pop S).store S d x) := by
    unfold store
    split
    · exact ⟨rfl, rfl, rfl, rfl, rfl, Nat.le_refl _⟩
    · unfold store_scoped
      split
      · exact ⟨rfl, rfl, rfl, rfl, rfl, Nat.le_refl _⟩
      · exact ⟨rfl, rfl, rfl, rfl, rfl, Nat.le_refl _⟩
    · exact ⟨rfl, rfl, rfl, rfl, rfl, Nat.le_refl _⟩
  unfold finish answered
  split
  · exact { stored with }
  · exact stored

theorem created_rest {t u : Resolver τ ω} {S : τ} {d : ServiceDescriptor τ ω} (created : Created code t S d u) : SameRest t u := by
  cases created with
  | failed => exact ⟨rfl, rfl, rfl, rfl, rfl, Nat.le_refl _⟩
  | raised => exact ⟨rfl, rfl, rfl, rfl, rfl, Nat.le_succ _⟩
  | given object _ => exact finish_rest t S d _
  | built object args _ =>
    have rest := finish_rest
      { t with
        own := { t.own with built := t.own.built ++ [d.number] }
        time := t.time + 1 } S d ⟨object, d.number, some t.time⟩
    exact { rest with time := Nat.le_of_succ_le rest.time }

/-- What a resolution outside scopes leaves. -/
structure Outside (s t : Resolver τ ω) : Prop where
  kept : Kept s t
  resolved : s.scopes = [] → ∀ k S x, (some k, S, x) ∈ t.resolved ↔ (some k, S, x) ∈ s.resolved
  held : s.own._scope_active = false → t.own._scoped_services = s.own._scoped_services

variable (code) in
theorem resolve_outside (depth : Nat) (s : Resolver τ ω) (S : τ) : Outside s (resolve code depth s S).2 := by
  refine resolve_rel ?_ ?_ ?_ ?_ ?_ depth s S
  · exact fun s => ⟨.refl s, fun _ _ _ _ => Iff.rfl, fun _ => rfl⟩
  · intro s t u first second
    refine ⟨first.kept.trans second.kept, fun outside k S x => ?_, fun inactive => ?_⟩
    · exact (second.resolved (first.kept.scopes.trans outside) k S x).trans (first.resolved outside k S x)
    · exact (second.held (first.kept.active.trans inactive)).trans (first.held inactive)
  · intro s S d x _ _
    refine ⟨(Kept.refl s).answered S d x, fun outside => answered_outside outside S d x, fun _ => ?_⟩
    rw [singletons_answered]
  · intro s S d t u _ off new pushed created
    refine ⟨pushed.kept.created off new created, fun outside k T y => ?_, fun inactive => ?_⟩
    · have scopes := pushed.kept.scopes.trans outside
      refine Iff.trans ?_ (pushed.resolved outside k T y)
      cases created with
      | failed => rfl
      | raised => rfl
      | given object _ => exact finish_outside scopes S d _ k T y
      | built object args _ =>
        refine finish_outside ?_ S d _ k T y
        exact scopes
    · have inactive' := pushed.kept.active.trans inactive
      refine Eq.trans ?_ (pushed.held inactive)
      cases created with
      | failed => rfl
      | raised => rfl
      | given object _ =>
        rw [finish, singletons_answered]
        refine store_inactive ?_ S d _
        exact inactive'
      | built object args _ =>
        rw [finish, singletons_answered]
        refine store_inactive ?_ S d _
        exact inactive'
  · intro s container more t parents kept
    exact ⟨kept.kept.parent parents, kept.resolved, fun _ => rfl⟩

/-- What a resolution in a scope leaves: without scoped services nothing is got. -/
structure Inside [DecidableEq ω] (code : ServiceCode τ ω) (s t : Resolver τ ω) : Prop where
  kept : Kept s t
  unscoped : Unscoped s.own → (∀ parent ∈ s.parents, Unscoped parent) → t.resolved = s.resolved
  orderly : s.scopes ≠ [] → s.own._scope_active = true → (∀ parent ∈ s.parents, Unscoped parent) → Orderly code s → Orderly code t

theorem Kept.unscoped_own {s t : Resolver τ ω} (kept : Kept s t) (unscoped : Unscoped s.own) : Unscoped t.own := by
  unfold Unscoped
  rw [kept.services]
  exact unscoped

theorem Kept.unscoped_parents {s t : Resolver τ ω} (kept : Kept s t) (unscoped : ∀ parent ∈ s.parents, Unscoped parent) :
    ∀ parent ∈ t.parents, Unscoped parent := by
  intro parent member
  have framed := List.mem_map_of_mem (f := Resolver.frame) member
  rw [kept.parents] at framed
  obtain ⟨before, member', same⟩ := List.mem_map.mp framed
  have services : before._services = parent._services := congrArg Prod.fst same
  unfold Unscoped
  rw [← services]
  exact unscoped before member'

section
variable [DecidableEq ω] {s t u : Resolver τ ω} {S : τ} {d : ServiceDescriptor τ ω}

/-- An instance that is found in a scope was got in it. -/
theorem Orderly.found (orderly : Orderly code s) (some_open : s.scopes ≠ []) (active : s.own._scope_active = true) {x : Instance ω}
    (stored : s.stored S d = some x) : Orderly code (s.answered S d x) := by
  by_cases lifetime : d.lifetime = .SCOPED
  · obtain ⟨k, rest, shape⟩ := List.exists_cons_of_ne_nil some_open
    simp only [Resolver.stored, lifetime, active, if_true] at stored
    have got := (orderly.current k rest shape S x).mpr stored
    rw [answered, if_pos lifetime]
    refine orderly.of_same orderly.given rfl rfl rfl rfl (fun j T y => ?_) rfl (Nat.le_refl _)
    simp only [note, shape, List.head?_cons, List.mem_append, List.mem_singleton, Prod.mk.injEq, Option.some.injEq]
    refine ⟨?_, .inl⟩
    rintro (before | ⟨rfl, rfl, rfl⟩)
    · exact before
    · exact got
  · rw [answered, if_neg lifetime]
    exact orderly

/-- What a creation leaves of a scope. -/
theorem Orderly.created (new : NewObjects code) (orderly : Orderly code t) (some_open : t.scopes ≠ [])
    (active : t.own._scope_active = true) (registered : t.own._services.get? S = some d)
    (none_held : d.lifetime = .SCOPED → t.own._scoped_services.get? S = none) (created : Created code t S d u) : Orderly code u := by
  by_cases lifetime : d.lifetime = .SCOPED
  · cases created with
    | failed => exact orderly.of_same orderly.given rfl rfl rfl rfl (fun _ _ _ => Iff.rfl) rfl (Nat.le_refl _)
    | raised => exact orderly.of_same orderly.given rfl rfl rfl rfl (fun _ _ _ => Iff.rfl) rfl (Nat.le_succ _)
    | given object given => cases (orderly.given S d registered lifetime).symm.trans given
    | built object args called =>
      obtain ⟨k, rest, shape⟩ := List.exists_cons_of_ne_nil some_open
      simp only [finish, answered, store, lifetime, store_scoped, pop, active, if_true]
      refine orderly.keep new shape active (none_held lifetime) lifetime called rfl ?_ rfl rfl rfl ?_ rfl rfl
      · exact active.symm
      · simp only [note, shape, List.head?_cons]
  · obtain ⟨resolved, held⟩ := created_unscoped lifetime created
    have rest := created_rest created
    refine orderly.of_same ?_ rest.active held rest.scopes rest.entered (fun k T y => by rw [resolved]) rest.disposed rest.time
    rw [rest.services]
    exact orderly.given

end

variable (code) in
theorem resolve_inside [DecidableEq ω] (new : NewObjects code) (depth : Nat) (s : Resolver τ ω) (S : τ) :
    Inside code s (resolve code depth s S).2 := by
  refine resolve_rel ?_ ?_ ?_ ?_ ?_ depth s S
  · exact fun s => ⟨.refl s, fun _ _ => rfl, fun _ _ _ => id⟩
  · intro s t u first second
    refine ⟨first.kept.trans second.kept, fun unscoped parents => ?_, fun some_open active parents orderly => ?_⟩
    · exact (second.unscoped (first.kept.unscoped_own unscoped) (first.kept.unscoped_parents parents)).trans (first.unscoped unscoped parents)
    · exact second.orderly (first.kept.scopes ▸ some_open) (first.kept.active.trans active) (first.kept.unscoped_parents parents)
        (first.orderly some_open active parents orderly)
  · intro s S d x registered stored
    refine ⟨(Kept.refl s).answered S d x, fun unscoped _ => ?_, fun some_open active _ orderly => orderly.found some_open active stored⟩
    rw [answered, if_neg (unscoped S d registered)]
  · intro s S d t u registered off none_stored pushed created
    refine ⟨pushed.kept.created off none_stored created, fun unscoped parents => ?_, fun some_open active parents orderly => ?_⟩
    · exact (created_unscoped (unscoped S d registered) created).1.trans (pushed.unscoped unscoped parents)
    · have same : Orderly code (s.push S) :=
        orderly.of_same orderly.given rfl rfl rfl rfl (fun _ _ _ => Iff.rfl) rfl (Nat.le_refl _)
      refine (pushed.orderly some_open active parents same).created new (pushed.kept.scopes ▸ some_open) (pushed.kept.active.trans active)
        (pushed.kept.services ▸ registered) (fun lifetime => ?_) created
      simp only [stored, lifetime, active, if_true] at none_stored
      exact pushed.kept.unscoped S (List.mem_append_right _ (List.mem_singleton_self S)) none_stored
  · intro s container more t parents inner
    have above (unscoped : ∀ parent ∈ s.parents, Unscoped parent) : t.resolved = s.resolved := by
      rw [parents] at unscoped
      exact inner.unscoped (unscoped container List.mem_cons_self) fun parent member => unscoped parent (List.mem_cons_of_mem _ member)
    refine ⟨inner.kept.parent parents, fun _ unscoped => above unscoped, fun _ _ unscoped orderly => ?_⟩
    exact orderly.of_same orderly.given rfl rfl inner.kept.scopes inner.kept.entered (fun k T y => by rw [back_at, above unscoped])
      inner.kept.disposed inner.kept.time

/-! ## Runs -/

section
variable [DecidableEq ω] {s : Resolver τ ω}

theorem orderly_new (parents : List (DIContainer τ ω)) : Orderly code { parents := parents } where
  given := by simp
  nested := .nil
  entered := by simp
  past := by simp
  idle _ := rfl
  inactive _ _ := rfl
  current := nofun
  outer := by simp
  made := by simp
  same := by simp
  distinct := by simp
  disposed := nofun
  origin := nofun

/-- A registration of a scoped service comes without an instance. -/
theorem Orderly.register (orderly : Orderly code s) (S : τ) (implementation_type : Option τ) (factory : Option (Factory τ))
    (instance_given : Option ω) (lifetime : ServiceLifetime) (plain : lifetime = .SCOPED → instance_given = none) :
    Orderly code { s with own := s.own._register_service S implementation_type factory instance_given lifetime } := by
  refine orderly.of_same (fun T d known scoped_service => ?_) rfl rfl rfl rfl (fun _ _ _ => Iff.rfl) rfl (Nat.le_refl _)
  have known := (Dict.get?_set s.own._services S _ T).symm.trans known
  split at known
  · cases known
    exact plain scoped_service
  · exact orderly.given T d known scoped_service

theorem Orderly.call (new : NewObjects code) (orderly : Orderly code s) (made : ScopeCall τ ω) (nested : s.WellNested made)
    (disciplined : s.Disciplined code made) : Orderly code (s.scope_call code made) := by
  cases made with
  | enter => exact orderly.enter disciplined
  | exit dispose => exact orderly.exit new dispose nested disciplined
  | service made =>
    cases made with
    | register_singleton S implementation_type factory instance_given => exact orderly.register S _ _ _ _ nofun
    | register_scoped S implementation_type factory => exact orderly.register S _ _ _ _ fun _ => rfl
    | register_transient S implementation_type factory => exact orderly.register S _ _ _ _ nofun
    | get_service S =>
      by_cases outside : s.scopes = []
      · have left := resolve_outside code (s.depth + 1) s S
        have given := orderly.given
        rw [← left.kept.services] at given
        exact orderly.of_same given left.kept.active (left.held (orderly.idle outside)) left.kept.scopes left.kept.entered
          (left.resolved outside) left.kept.disposed left.kept.time
      · obtain ⟨active, parents⟩ := Or.resolve_left disciplined outside
        exact (resolve_inside code new (s.depth + 1) s S).orderly outside active parents orderly

/-- Services that are numbered by the moment at which they are built, and have `dispose`. -/
def moments : ServiceCode Nat Nat where
  name _ := "Moment"
  signature _ := .ok []
  call time _ _ := .ok time
  disposable _ := true

end

end Resolver

end RevitPy
