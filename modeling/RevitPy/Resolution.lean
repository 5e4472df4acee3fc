import RevitPy.Greedy
import RevitPy.Resolver

/-!
# Resolution without conflicts

A resolution that reports no conflict is a greedy assignment of package versions
to names, breadth first. What the assignment guarantees holds of the packages
resolved: every requirement and every dependency is satisfied.
-/

namespace RevitPy.DependencyResolver
variable {u : CaseTable} {P : Packaging}

/-! ## Compatible versions -/

theorem eq_fields {p q : PackageSpec u} (equal : p.eq q = true) :
    p.version = q.version ∧ p.python_version = q.python_version ∧
      p.supported_revit_versions = q.supported_revit_versions ∧ p.is_prerelease = q.is_prerelease := by
  simp only [PackageSpec.eq, Bool.and_eq_true, beq_iff_eq] at equal
  exact ⟨equal.1.1.1.1.1.2, equal.1.1.1.1.2, equal.1.1.1.2, equal.2⟩

/-- A version is read as a version and satisfies a specifier. -/
def Satisfies (P : Packaging) (version version_spec : String) : Prop :=
  ∃ v s, P.version version = some v ∧ P.specifier (specifier_text version_spec) = some s ∧ P.contains s v = true

theorem is_version_compatible_iff (version1 version_spec : String) :
    is_version_compatible P version1 version_spec = true ↔ Satisfies P version1 version_spec := by
  unfold is_version_compatible Satisfies
  cases P.specifier (specifier_text version_spec) <;> cases P.version version1 <;> simp

/-- The resolver may install the version: it is a prerelease only where these
    are allowed, and runs on the resolver's Python and Revit. -/
def Installable (P : Packaging) (r : DependencyResolver u) (p : PackageSpec u) : Prop :=
  (r.allow_prereleases = false → (∀ v, P.version p.version = some v → P.is_prerelease v = false) ∧
    p.is_prerelease = false) ∧
  p.is_compatible_with_python P r.python_version = true ∧ p.is_compatible_with_revit r.revit_version = true

theorem is_candidate_iff (r : DependencyResolver u) (spec : P.SpecifierSet) (p : PackageSpec u) :
    r.is_candidate P spec (!r.allow_prereleases) p.version p = true ↔
      (∃ v, P.version p.version = some v ∧ P.contains spec v = true) ∧ r.Installable P p := by
  unfold is_candidate Installable
  cases P.version p.version with
  | none => simp
  | some v =>
    cases r.allow_prereleases <;> cases P.is_prerelease v <;> cases p.is_prerelease <;> simp [and_assoc]

/-- The registered versions of a package that the resolver may install. -/
def Registered (P : Packaging) (r : DependencyResolver u) (name : String) (p : PackageSpec u) : Prop :=
  (∃ versions, r.available_packages.get? name = some versions ∧ versions.get? p.version = some p) ∧ r.Installable P p

theorem compatible_iff {r : DependencyResolver u} {package_name version_spec : String} {compatible : List (PackageSpec u)}
    (answer : r.get_compatible_versions P package_name version_spec none = .ok compatible) (p : PackageSpec u) :
    p ∈ compatible ↔
      r.Registered P (PackageSpec.normalize_name u package_name) p ∧ Satisfies P p.version version_spec := by
  rw [mem_compatible_iff answer]
  simp only [Option.getD_none, is_candidate_iff, Registered, Satisfies]
  constructor
  · rintro ⟨versions, spec, known, parsed, listed, ⟨v, version, contained⟩, installable⟩
    exact ⟨⟨⟨versions, known, listed⟩, installable⟩, v, spec, version, parsed, contained⟩
  · rintro ⟨⟨⟨versions, known, listed⟩, installable⟩, v, spec, version, parsed, contained⟩
    exact ⟨versions, spec, known, parsed, listed, ⟨v, version, contained⟩, installable⟩

/-- The version selected is compatible: the installed one equals a compatible one. -/
theorem select_compatible {r : DependencyResolver u} {name version_spec : String} {newest : PackageSpec u}
    {others : List (PackageSpec u)}
    (answer : r.get_compatible_versions P name version_spec none = .ok (newest :: others)) :
    r.Installable P (r.select name newest others) ∧ Satisfies P (r.select name newest others).version version_spec := by
  rcases select_cases r name newest others with best | ⟨-, equal⟩
  · obtain ⟨⟨-, installable⟩, satisfied⟩ := (compatible_iff answer newest).mp (by simp)
    rw [best]
    exact ⟨installable, satisfied⟩
  · obtain ⟨p, member, same⟩ := List.any_eq_true.mp equal
    obtain ⟨⟨-, installable⟩, satisfied⟩ := (compatible_iff answer p).mp member
    obtain ⟨version, python, revit, prerelease⟩ := eq_fields same
    rw [version]
    refine ⟨?_, satisfied⟩
    unfold Installable PackageSpec.is_compatible_with_python PackageSpec.is_compatible_with_revit at installable ⊢
    rw [version, python, revit, prerelease]
    exact installable

/-! ## The assignment that resolution computes -/

/-- Names are assigned package versions; the constraints are specifiers. -/
def problem (P : Packaging) (r : DependencyResolver u) (extras : Dict String (List String)) :
    Greedy.Problem String String (PackageSpec u) where
  choose name version_spec := match r.get_compatible_versions P name version_spec none with
    | .ok (newest :: others) => some (r.select name newest others)
    | _ => none
  admits p version_spec := is_version_compatible P p.version version_spec
  needs name p := (dependency_requests extras name p).map fun request =>
    (PackageSpec.normalize_name u request.package_name, request.version_spec)
  choose_admits := by
    intro name version_spec p chosen
    split at chosen
    · next answer =>
      cases chosen
      exact (is_version_compatible_iff _ _).mpr (select_compatible answer).2
    · cases chosen

def roots (u : CaseTable) (requirements : Dict String String) : List (String × String) :=
  requirements.entries.map fun requirement => (PackageSpec.normalize_name u requirement.1, requirement.2)

/-- The resolver's state and the state of the assignment describe each other. -/
private structure Matches (s : ResolveState u) (g : Greedy.State String String (PackageSpec u)) : Prop where
  pending : g.pending.map (fun job => (job.key, job.constraint)) =
    s.to_resolve.map fun request => (PackageSpec.normalize_name u request.package_name, request.version_spec)
  assigned : ∀ name, s.resolved_packages.get? name = (g.assigned.get? name).map Prod.fst

private theorem matches_start (requirements : Dict String String) :
    Matches (u := u) (start_state requirements) (Greedy.start (roots u requirements)) where
  pending := by simp [start_state, Greedy.start, roots]
  assigned := by simp [start_state, Greedy.start]

private theorem matches_round {r : DependencyResolver u} {extras : Dict String (List String)} {s t : ResolveState u}
    {g : Greedy.State String String (PackageSpec u)} {request : Request} {rest : List Request} (matched : Matches s g)
    (shape : s.to_resolve = request :: rest)
    (fresh : PackageSpec.normalize_name u request.package_name ∉ s.resolution_stack)
    (round : Round P r extras { s with to_resolve := rest } request (.ok t)) (success : t.conflicts = []) :
    ∃ g', Greedy.Step (problem P r extras) g g' ∧ Matches t g' := by
  obtain ⟨pending, assigned⟩ := g
  obtain ⟨jobs, values⟩ := matched
  simp only [shape, List.map_cons] at jobs
  cases pending with
  | nil => simp at jobs
  | cons job later =>
    simp only [List.map_cons, List.cons.injEq, Prod.mk.injEq] at jobs
    obtain ⟨⟨name, version_spec⟩, tail⟩ := jobs
    cases round with
    | circular stacked => exact absurd stacked fresh
    | conflict => simp [report] at success
    | missing => simp [report] at success
    | @settled existing found fits =>
      have value := values (PackageSpec.normalize_name u request.package_name)
      rw [found, eq_comm, Option.map_eq_some_iff] at value
      obtain ⟨⟨p, round⟩, listed, rfl⟩ := value
      have known : assigned.get? job.key = some (p, round) := by rw [name]; exact listed
      exact ⟨_, .settled known (by rw [version_spec]; exact fits), tail, values⟩
    | @selected newest others absent answer =>
      have value := values (PackageSpec.normalize_name u request.package_name)
      rw [absent, eq_comm, Option.map_eq_none_iff] at value
      refine ⟨_, .chosen (r := r.select (PackageSpec.normalize_name u request.package_name) newest others)
        (by rw [name]; exact value) (by rw [name, version_spec]; simp [problem, answer]), ?_, ?_⟩
      · simp [Greedy.raised, problem, tail, name, Function.comp_def]
      · intro other
        rw [name, Dict.get?_set, Dict.get?_set]
        split
        · rfl
        · exact values other

/-- A resolution without conflicts is a greedy assignment. -/
theorem resolution_refines {r : DependencyResolver u} {requirements : Dict String String}
    {extras : Dict String (List String)} {result : ResolutionResult u}
    (answer : r.resolve_dependencies P requirements extras = .ok result) (success : result.conflicts = []) :
    ∃ assigned, Greedy.Solution (problem P r extras) (roots u requirements) assigned ∧
      ∀ name, result.resolved_packages.get? name = (assigned.get? name).map Prod.fst := by
  obtain ⟨s, inv, done, resolved, conflicts, -⟩ := resolve_induction answer
    (fun s => s.conflicts = [] → ∃ g,
      Relation.ReflTransGen (Greedy.Step (problem P r extras)) (Greedy.start (roots u requirements)) g ∧ Matches s g)
    (fun _ => ⟨_, .refl, matches_start requirements⟩) (by
      intro s t request rest inv shape fresh round clean
      have before : s.conflicts = [] := by
        cases round with
        | circular stacked => exact absurd stacked fresh
        | settled | selected => exact clean
        | conflict | missing => simp [report] at clean
      obtain ⟨g, steps, matched⟩ := inv before
      obtain ⟨g', step, matched'⟩ := matches_round matched shape fresh round clean
      exact ⟨g', steps.tail step, matched'⟩)
  obtain ⟨⟨pending, assigned⟩, steps, jobs, values⟩ := inv (by rw [← conflicts]; exact success)
  have empty : pending = [] := by simpa [done] using jobs
  subst empty
  exact ⟨assigned, steps, by rw [resolved]; exact values⟩

/-! ## Soundness -/

/-- `resolved_packages[normalize(name)]` is there with a version that satisfies
    the specifier. -/
def Satisfied (P : Packaging) (resolved_packages : Dict String (PackageSpec u)) (name version_spec : String) : Prop :=
  ∃ p, resolved_packages.get? (PackageSpec.normalize_name u name) = some p ∧ Satisfies P p.version version_spec

/-- The extra is requested for a package, under the name as it is written. -/
def Requested (extras : Dict String (List String)) (name extra : String) : Prop :=
  ∃ listed, extras.get? name = some listed ∧ extra ∈ listed

/-- What is asked of the packages resolved. -/
structure Sound (P : Packaging) (r : DependencyResolver u) (requirements : Dict String String)
    (extras : Dict String (List String)) (resolved_packages : Dict String (PackageSpec u)) : Prop where
  requirement : ∀ name version_spec, (name, version_spec) ∈ requirements.entries →
    Satisfied P resolved_packages name version_spec
  dependency : ∀ q p, resolved_packages.get? q = some p → ∀ name version_spec,
    (name, version_spec) ∈ p.dependencies.entries → Satisfied P resolved_packages name version_spec
  extra : ∀ q extra, Requested extras q extra → ∀ p,
    resolved_packages.get? (PackageSpec.normalize_name u q) = some p → ∀ deps,
    p.optional_dependencies.get? extra = some deps → ∀ name version_spec,
    (name, version_spec) ∈ deps.entries → Satisfied P resolved_packages name version_spec
  installable : ∀ q p, resolved_packages.get? q = some p → r.Installable P p

theorem needs_dependency (r : DependencyResolver u) (extras : Dict String (List String)) (q : String) (p : PackageSpec u)
    {name version_spec : String} (member : (name, version_spec) ∈ p.dependencies.entries) :
    (PackageSpec.normalize_name u name, version_spec) ∈ (problem P r extras).needs q p :=
  List.mem_map.mpr ⟨⟨name, version_spec, some q⟩, List.mem_append_left _ (List.mem_map.mpr ⟨_, member, rfl⟩), rfl⟩

theorem needs_extra (r : DependencyResolver u) (extras : Dict String (List String)) (q : String) (p : PackageSpec u)
    {extra : String} (requested : Requested extras q extra) {deps : Dict String String}
    (known : p.optional_dependencies.get? extra = some deps) {name version_spec : String}
    (member : (name, version_spec) ∈ deps.entries) :
    (PackageSpec.normalize_name u name, version_spec) ∈ (problem P r extras).needs q p := by
  obtain ⟨listed, found, inside⟩ := requested
  refine List.mem_map.mpr ⟨⟨name, version_spec, some s!"{q}[{extra}]"⟩, List.mem_append_right _ ?_, rfl⟩
  refine List.mem_flatMap.mpr ⟨extra, by simpa [Dict.getD, found] using inside, ?_⟩
  simp only [known]
  exact List.mem_map.mpr ⟨_, member, rfl⟩

/-- A resolution without conflicts is sound, with the extras that are requested
    under normalized names. -/
theorem sound_of_success {r : DependencyResolver u} {requirements : Dict String String}
    {extras : Dict String (List String)} {result : ResolutionResult u}
    (answer : r.resolve_dependencies P requirements extras = .ok result) (success : result.conflicts = [])
    (normalized : ∀ name extra, Requested extras name extra →
      Requested extras (PackageSpec.normalize_name u name) extra) :
    Sound P r requirements extras result.resolved_packages := by
  obtain ⟨assigned, solution, values⟩ := resolution_refines answer success
  have lookup {q : String} {p : PackageSpec u} (found : result.resolved_packages.get? q = some p) :
      ∃ round, assigned.get? q = some (p, round) := by
    rw [values, Option.map_eq_some_iff] at found
    obtain ⟨⟨_, round⟩, listed, rfl⟩ := found
    exact ⟨round, listed⟩
  have satisfied {name version_spec : String} (met : ∃ p round,
      assigned.get? (PackageSpec.normalize_name u name) = some (p, round) ∧
        (problem P r extras).admits p version_spec = true) :
      Satisfied P result.resolved_packages name version_spec := by
    obtain ⟨p, round, found, fits⟩ := met
    exact ⟨p, by rw [values, found]; rfl, (is_version_compatible_iff _ _).mp fits⟩
  refine ⟨?_, ?_, ?_, ?_⟩
  · intro name version_spec member
    exact satisfied (Greedy.root_met solution (List.mem_map.mpr ⟨_, member, rfl⟩))
  · intro q p found name version_spec member
    obtain ⟨round, listed⟩ := lookup found
    exact satisfied (Greedy.need_met solution listed (needs_dependency r extras q p member))
  · intro q extra requested p found deps known name version_spec member
    obtain ⟨round, listed⟩ := lookup found
    exact satisfied (Greedy.need_met solution listed
      (needs_extra r extras _ p (normalized q extra requested) known member))
  · intro q p found
    obtain ⟨round, listed⟩ := lookup found
    obtain ⟨version_spec, chosen⟩ := Greedy.chosen_of_solution solution listed
    simp only [problem] at chosen
    split at chosen
    · next answer =>
      cases chosen
      exact (select_compatible answer).1
    · cases chosen

/-- A package whose extra asks for another version of the package itself. -/
private def rival (u : CaseTable) (name extra : String) : PackageSpec u :=
  PackageSpec.make u name "1" ∅ (Dict.ofList [(extra, Dict.ofList [(name, "==2")])])

private def rivalry (u : CaseTable) (name extra : String) : DependencyResolver u :=
  (init u "3.11.0" "2025" false true).register_available_package (rival u name extra)

private theorem rival_candidate (u : CaseTable) (name extra : String) :
    (rivalry u name extra).is_candidate Packaging.releases [(.atLeast, [0, 0, 0])] true "1" (rival u name extra) =
      true := by
  have python : (rival u name extra).python_version = ">=3.11" := rfl
  have compatible : (rival u name extra).is_compatible_with_python Packaging.releases "3.11.0" = true := by
    rw [PackageSpec.is_compatible_with_python, python]
    rfl
  have interpreter : (rivalry u name extra).python_version = "3.11.0" := rfl
  have version : Packaging.releases.version "1" = some [1] := rfl
  simp only [is_candidate, version, interpreter, compatible]
  rfl

private theorem rival_resolved (u : CaseTable) (name extra : String) (extras : Dict String (List String))
    (unnoticed : ¬Requested extras (PackageSpec.normalize_name u name) extra) :
    ∃ result, (rivalry u name extra).resolve_dependencies Packaging.releases (Dict.ofList [(name, "*")]) extras =
        .ok result ∧ result.conflicts = [] ∧
      result.resolved_packages.get? (PackageSpec.normalize_name u name) = some (rival u name extra) := by
  have versions : (rivalry u name extra).get_compatible_versions Packaging.releases (PackageSpec.normalize_name u name)
      "*" none = .ok [rival u name extra] := by
    have known : (rivalry u name extra).available_packages.get?
        (PackageSpec.normalize_name u (PackageSpec.normalize_name u name)) =
          some (Dict.ofList [("1", rival u name extra)]) := by
      rw [Names.normalize_name_idempotent]
      exact Dict.get?_set_self _ _ _
    have parsed : Packaging.releases.specifier (specifier_text "*") = some [(.atLeast, [0, 0, 0])] := rfl
    have candidate := rival_candidate u name extra
    simp only [get_compatible_versions, known, parsed]
    have kept : [("1", rival u name extra)].filter (fun item => (rivalry u name extra).is_candidate Packaging.releases
        [(.atLeast, [0, 0, 0])] true item.1 item.2) = [("1", rival u name extra)] :=
      List.filter_cons_of_pos candidate
    exact congrArg (fun items => Except.ok (List.insertionSort (newest_first Packaging.releases) (items.map Prod.snd))) kept
  have requests : dependency_requests extras (PackageSpec.normalize_name u name) (rival u name extra) = [] := by
    refine List.append_eq_nil_iff.mpr ⟨rfl, List.flatMap_eq_nil_iff.mpr ?_⟩
    intro other listed
    cases found : extras.get? (PackageSpec.normalize_name u name) with
    | none => simp [Dict.getD, found] at listed
    | some extras' =>
      have different : extra ≠ other := by
        rintro rfl
        exact unnoticed ⟨extras', found, by simpa [Dict.getD, found] using listed⟩
      have absent : (rival u name extra).optional_dependencies.get? other = none :=
        Dict.get?_set_ne ∅ (Dict.ofList [(name, "==2")]) different
      simp only [absent]
  have step : (rivalry u name extra).resolve_step Packaging.releases extras
      (.ok (start_state (Dict.ofList [(name, "*")]))) = some (.ok {
        to_resolve := []
        resolved_packages := Dict.set ∅ (PackageSpec.normalize_name u name) (rival u name extra)
        conflicts := []
        resolution_stack := [] }) := by
    change some ((rivalry u name extra).resolve_request Packaging.releases extras
      ⟨[], ∅, [], []⟩ ⟨name, "*", none⟩) = _
    have best : (rivalry u name extra).select (PackageSpec.normalize_name u name) (rival u name extra) [] =
      rival u name extra := rfl
    simp [resolve_request, versions, best, requests, popped]
  have final := (Loop.exec_next ((rivalry u name extra).resolve_step_decreasing extras) step).trans
    (Loop.exec_done _ rfl)
  refine ⟨_, by rw [resolve_dependencies, final], rfl, Dict.get?_set_self _ _ _⟩

/-- A package with an extra that needs a tool. -/
def tooled : PackageSpec CaseTable.ascii :=
  PackageSpec.make CaseTable.ascii "my-app" "1.0" ∅ (Dict.ofList [("dev", Dict.ofList [("tool", "*")])])

end RevitPy.DependencyResolver
