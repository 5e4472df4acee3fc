import RevitPy.Resolver

/-!
# The rounds of a resolution

Every round takes one request off the queue. Requests are added only where a
package is resolved for the first time, so cyclic dependencies end as well, and
the packages resolved say how many rounds there were.
-/

namespace RevitPy.DependencyResolver
variable {u : CaseTable} {P : Packaging}

/-! ## Termination -/

/-- The loop ends for every registry, however its packages depend on each other. -/
theorem resolve_dependencies_terminates (P : Packaging) (r : DependencyResolver u) (requirements : Dict String String)
    (extras : Dict String (List String)) :
    ∃ rounds final, rounds ≤ requirements.length + (r.available_packages.keys.map (r.weight extras)).sum ∧
      Loop.Rounds (r.resolve_step P extras) rounds (.ok (start_state requirements)) final ∧
      r.resolve_step P extras final = none := by
  obtain ⟨rounds, few, reached⟩ := Loop.rounds_exec (r.resolve_step_decreasing (P := P) extras) (.ok (start_state requirements))
  have ended := (Loop.exec_induction (P := fun _ => True) (r.resolve_step_decreasing (P := P) extras) (.ok (start_state requirements))
    (fun _ _ _ _ => trivial) trivial).2
  have room : r.room extras [] = (r.available_packages.keys.map (r.weight extras)).sum := by simp [room]
  have size : (start_state (u := u) requirements).to_resolve.length = requirements.length := List.length_map ..
  refine ⟨rounds, _, ?_, reached, ended⟩
  rw [← room, ← size]
  exact few

/-! ## The number of rounds -/

/-- The requests that the packages resolved have added to the queue. -/
def added (extras : Dict String (List String)) (resolved_packages : Dict String (PackageSpec u)) : Nat :=
  (resolved_packages.entries.map fun item => (dependency_requests extras item.1 item.2).length).sum

theorem added_set (extras : Dict String (List String)) {resolved_packages : Dict String (PackageSpec u)} {name : String}
    (fresh : resolved_packages.get? name = none) (p : PackageSpec u) :
    added extras (resolved_packages.set name p) = added extras resolved_packages + (dependency_requests extras name p).length := by
  simp [added, Dict.entries_set_of_fresh fresh]

/-- Requests handled and requests waiting are those required and those added. -/
def Counted (requirements : Dict String String) (extras : Dict String (List String)) (rounds : Nat) :
    Except ResolveError (ResolveState u) → Prop
  | .error _ => True
  | .ok s => rounds + s.to_resolve.length = requirements.length + added extras s.resolved_packages

theorem counted_step {r : DependencyResolver u} {requirements : Dict String String} {extras : Dict String (List String)} (rounds : Nat)
    (state next : Except ResolveError (ResolveState u)) (counted : Counted requirements extras rounds state)
    (stepped : r.resolve_step P extras state = some next) : Counted requirements extras (rounds + 1) next := by
  obtain ⟨s, request, rest, rfl, shape, round⟩ := resolve_step_round stepped
  simp only [Counted, shape, List.length_cons] at counted
  cases round with
  | circular => simp only [Counted, report]; omega
  | settled => simp only [Counted]; omega
  | conflict => simp only [Counted, report]; omega
  | raised => trivial
  | missing => simp only [Counted, report]; omega
  | selected fresh =>
    simp only [Counted, List.length_append, added_set extras fresh]
    omega

/-- A resolution makes one round for each requirement, and one for each
    dependency of a package that it resolves. -/
theorem rounds_of_resolution {r : DependencyResolver u} {requirements : Dict String String}
    {extras : Dict String (List String)} {result : ResolutionResult u}
    (answer : r.resolve_dependencies P requirements extras = .ok result) :
    ∃ final, Loop.Rounds (r.resolve_step P extras) (requirements.length + added extras result.resolved_packages)
      (.ok (start_state requirements)) (.ok final) ∧ final.to_resolve = [] ∧ final.resolved_packages = result.resolved_packages := by
  obtain ⟨rounds, -, reached⟩ := Loop.rounds_exec (r.resolve_step_decreasing (P := P) extras) (.ok (start_state requirements))
  have ended := (Loop.exec_induction (P := fun _ => True) (r.resolve_step_decreasing (P := P) extras) (.ok (start_state requirements))
    (fun _ _ _ _ => trivial) trivial).2
  have start : Counted (u := u) requirements extras 0 (.ok (start_state requirements)) := by
    simp [Counted, start_state, added, Dict.length]
  have counted := Loop.rounds_induction counted_step start reached
  unfold resolve_dependencies at answer
  split at answer
  · cases answer
  · next final =>
    cases answer
    rw [final] at reached ended counted
    next s =>
    have empty : s.to_resolve = [] := by
      cases shape : s.to_resolve with
      | nil => rfl
      | cons request rest => simp [resolve_step, shape] at ended
    simp only [Counted, empty, List.length_nil, Nat.add_zero, Nat.zero_add] at counted
    exact ⟨s, counted ▸ reached, empty, rfl⟩

end RevitPy.DependencyResolver
