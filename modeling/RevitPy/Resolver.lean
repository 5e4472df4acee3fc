import Mathlib.Data.List.Sort
import Mathlib.Order.WithBot
import RevitPy.Kahn
import RevitPy.Names
import RevitPy.Packaging

/-!
# The dependency resolver

Packages are registered by normalized name and version. Resolution works through
a queue of requirements: the first one to name a package selects its version,
the later ones check it, and the dependencies of the selected version go to the
end of the queue. The order of installation is computed from the packages
resolved.
-/

namespace RevitPy

inductive ConflictType
  | VERSION_CONFLICT
  | CIRCULAR_DEPENDENCY
  | MISSING_DEPENDENCY
  | REVIT_INCOMPATIBLE
  | PYTHON_INCOMPATIBLE
  deriving DecidableEq

/-- Specification for a package version. The name is normalized when the
    specification is made. -/
structure PackageSpec (u : CaseTable) where
  name : String
  version : String
  python_version : String := ">=3.11"
  supported_revit_versions : List String := []
  dependencies : Dict String String := ∅
  optional_dependencies : Dict String (Dict String String) := ∅
  is_prerelease : Bool := false
  normalized : PackageSpec.normalize_name u name = name

namespace PackageSpec
variable {u : CaseTable} (P : Packaging)

/-- `PackageSpec(name, version, dependencies=…, optional_dependencies=…)`, with
    the other fields at their defaults. -/
def make (u : CaseTable) (name version : String) (dependencies : Dict String String)
    (optional_dependencies : Dict String (Dict String String)) : PackageSpec u where
  name := normalize_name u name
  version := version
  dependencies := dependencies
  optional_dependencies := optional_dependencies
  normalized := Names.normalize_name_idempotent u name

/-- `p == q`: all fields are equal, dictionaries in any order. -/
def eq (p q : PackageSpec u) : Bool :=
  p.name == q.name && p.version == q.version && p.python_version == q.python_version &&
    p.supported_revit_versions == q.supported_revit_versions &&
    Dict.eqBy (· == ·) p.dependencies q.dependencies &&
    Dict.eqBy (Dict.eqBy (· == ·)) p.optional_dependencies q.optional_dependencies &&
    p.is_prerelease == q.is_prerelease

def is_compatible_with_revit (p : PackageSpec u) (revit_version : String) : Bool :=
  p.supported_revit_versions.isEmpty || p.supported_revit_versions.contains revit_version

def is_compatible_with_python (p : PackageSpec u) (python_version : String) : Bool :=
  match P.specifier p.python_version, P.version python_version with
  | some spec, some version => P.contains spec version
  | _, _ => false

end PackageSpec

structure DependencyConflict where
  type : ConflictType
  package_name : String
  conflicting_specs : List String
  message : String
  affected_packages : List String := []
  deriving DecidableEq

structure ResolutionResult (u : CaseTable) where
  resolved_packages : Dict String (PackageSpec u)
  conflicts : List DependencyConflict
  installation_order : List String

namespace ResolutionResult
variable {u : CaseTable}

def is_successful (result : ResolutionResult u) : Bool := result.conflicts.length == 0

end ResolutionResult

/-- The resolver and its registries. Every package is registered under its own
    name and version. -/
structure DependencyResolver (u : CaseTable) where
  python_version : String := "3.11.0"
  revit_version : String := "2025"
  allow_prereleases : Bool := false
  prefer_installed : Bool := true
  available_packages : Dict String (Dict String (PackageSpec u)) := ∅
  installed_packages : Dict String (PackageSpec u) := ∅
  available_named : ∀ name versions, available_packages.get? name = some versions →
    ∀ version spec, versions.get? version = some spec → spec.name = name ∧ spec.version = version
  installed_named : ∀ name spec, installed_packages.get? name = some spec → spec.name = name

/-- The exception that escapes from resolution. -/
inductive ResolveError
  | InvalidSpecifier (version_spec : String)
  deriving DecidableEq

/-- An entry of the queue: package name, version specifier, and what asks for it. -/
structure Request where
  package_name : String
  version_spec : String
  required_by : Option String

structure ResolveState (u : CaseTable) where
  to_resolve : List Request
  resolved_packages : Dict String (PackageSpec u)
  conflicts : List DependencyConflict
  resolution_stack : List String

namespace DependencyResolver
variable {u : CaseTable} (P : Packaging)

/-- A resolver with empty registries. -/
def init (u : CaseTable) (python_version revit_version : String) (allow_prereleases prefer_installed : Bool) :
    DependencyResolver u where
  python_version := python_version
  revit_version := revit_version
  allow_prereleases := allow_prereleases
  prefer_installed := prefer_installed
  available_named := by simp
  installed_named := by simp

/-! ## Registries -/

def register_available_package (r : DependencyResolver u) (package_spec : PackageSpec u) : DependencyResolver u :=
  { r with
    available_packages := r.available_packages.set package_spec.name
      ((r.available_packages.getD package_spec.name ∅).set package_spec.version package_spec)
    available_named := by
      intro name versions found version spec listed
      rw [Dict.get?_set] at found
      split at found
      · next same =>
        obtain rfl := Option.some.inj found
        rw [Dict.get?_set] at listed
        split at listed
        · next equal => cases listed; exact ⟨same, equal⟩
        · rw [Dict.getD, same] at listed
          cases known : r.available_packages.get? name with
          | none => simp [known] at listed
          | some old => exact r.available_named name old known version spec (by simpa [known] using listed)
      · exact r.available_named name versions found version spec listed }

def register_installed_package (r : DependencyResolver u) (package_spec : PackageSpec u) : DependencyResolver u :=
  { r with
    installed_packages := r.installed_packages.set package_spec.name package_spec
    installed_named := by
      intro name spec found
      rw [Dict.get?_set] at found
      split at found
      · next same => cases found; exact same
      · exact r.installed_named name spec found }

/-! ## Selecting a version -/

/-- The text that is parsed for a specifier; `*` stands for any version. -/
def specifier_text (version_spec : String) : String := if version_spec ≠ "*" then version_spec else ">=0.0.0"

/-- The checks on one registered version; an exception skips the version. -/
def is_candidate (r : DependencyResolver u) (spec : P.SpecifierSet) (exclude_prereleases : Bool)
    (version_str : String) (package_spec : PackageSpec u) : Bool :=
  match P.version version_str with
  | none => false
  | some version_obj =>
    P.contains spec version_obj &&
      !(exclude_prereleases && (P.is_prerelease version_obj || package_spec.is_prerelease)) &&
      package_spec.is_compatible_with_python P r.python_version &&
      package_spec.is_compatible_with_revit r.revit_version

/-- The sort key `Version(p.version)`. Every candidate has parsed before. -/
def sort_key (p : PackageSpec u) : WithBot P.Key := match P.version p.version with
  | none => ⊥
  | some version => P.key version

/-- Newest first, and versions that compare equal in the order of registration. -/
def newest_first (p q : PackageSpec u) : Prop := sort_key P q ≤ sort_key P p

instance : DecidableRel (newest_first (u := u) P) := fun p q =>
  inferInstanceAs (Decidable (sort_key P q ≤ sort_key P p))

/-- Get all compatible versions of a package. -/
def get_compatible_versions (r : DependencyResolver u) (package_name version_spec : String)
    (exclude_prereleases : Option Bool) : Except ResolveError (List (PackageSpec u)) :=
  match r.available_packages.get? (PackageSpec.normalize_name u package_name) with
  | none => .ok []
  | some versions =>
    match P.specifier (specifier_text version_spec) with
    | none => .error (.InvalidSpecifier version_spec)
    | some spec =>
      let exclude := exclude_prereleases.getD !r.allow_prereleases
      .ok (((versions.entries.filter fun item => r.is_candidate P spec exclude item.1 item.2).map
        Prod.snd).insertionSort (newest_first P))

/-- Check if a specific version is compatible with a version specifier. -/
def is_version_compatible (version1 version_spec : String) : Bool :=
  match P.specifier (specifier_text version_spec), P.version version1 with
  | some spec, some version => P.contains spec version
  | _, _ => false

/-- The installed version if it is compatible, and the newest otherwise. -/
def select (r : DependencyResolver u) (normalized_name : String) (newest : PackageSpec u)
    (others : List (PackageSpec u)) : PackageSpec u :=
  match if r.prefer_installed then r.installed_packages.get? normalized_name else none with
  | none => newest
  | some installed_spec => if (newest :: others).any installed_spec.eq then installed_spec else newest

/-- The dependencies of the selected version, then those of the requested extras. -/
def dependency_requests (extras : Dict String (List String)) (normalized_name : String)
    (selected_spec : PackageSpec u) : List Request :=
  (selected_spec.dependencies.entries.map fun dep => ⟨dep.1, dep.2, some normalized_name⟩) ++
    (extras.getD normalized_name []).flatMap fun extra =>
      match selected_spec.optional_dependencies.get? extra with
      | none => []
      | some deps => deps.entries.map fun dep => ⟨dep.1, dep.2, some s!"{normalized_name}[{extra}]"⟩

/-! ## Conflicts -/

/-- `[required_by] if required_by else []`. -/
def affected : Option String → List String
  | none => []
  | some required_by => if required_by = "" then [] else [required_by]

def circular_dependency (resolution_stack : List String) (normalized_name version_spec : String) :
    DependencyConflict :=
  let cycle := resolution_stack.drop (resolution_stack.idxOf normalized_name) ++ [normalized_name]
  { type := .CIRCULAR_DEPENDENCY
    package_name := normalized_name
    conflicting_specs := [version_spec]
    message := "Circular dependency detected: " ++ " -> ".intercalate cycle
    affected_packages := cycle }

def version_conflict (normalized_name existing_version version_spec : String) (required_by : Option String) :
    DependencyConflict where
  type := .VERSION_CONFLICT
  package_name := normalized_name
  conflicting_specs := [existing_version, version_spec]
  message := s!"Version conflict for {normalized_name}: {existing_version} vs {version_spec}"
  affected_packages := affected required_by

def missing_dependency (normalized_name version_spec : String) (required_by : Option String) :
    DependencyConflict where
  type := .MISSING_DEPENDENCY
  package_name := normalized_name
  conflicting_specs := [version_spec]
  message := s!"No compatible version found for {normalized_name} {version_spec}"
  affected_packages := affected required_by

/-! ## The queue of requests -/

/-- `del stack[-1]`. -/
def popped (s : ResolveState u) : ResolveState u := { s with resolution_stack := s.resolution_stack.dropLast }

def report (s : ResolveState u) (conflict : DependencyConflict) : ResolveState u :=
  { s with conflicts := s.conflicts ++ [conflict] }

/-- One pass through the loop body, for the request taken off the queue. -/
def resolve_request (r : DependencyResolver u) (extras : Dict String (List String)) (s : ResolveState u)
    (request : Request) : Except ResolveError (ResolveState u) :=
  let normalized_name := PackageSpec.normalize_name u request.package_name
  if normalized_name ∈ s.resolution_stack then
    .ok (report s (circular_dependency s.resolution_stack normalized_name request.version_spec))
  else
    let s := { s with resolution_stack := s.resolution_stack ++ [normalized_name] }
    match s.resolved_packages.get? normalized_name with
    | some existing_spec =>
      if is_version_compatible P existing_spec.version request.version_spec then .ok (popped s)
      else
        .ok (popped (report s
          (version_conflict normalized_name existing_spec.version request.version_spec request.required_by)))
    | none =>
      match r.get_compatible_versions P normalized_name request.version_spec none with
      | .error e => .error e
      | .ok [] =>
        .ok (popped (report s (missing_dependency normalized_name request.version_spec request.required_by)))
      | .ok (newest :: others) =>
        let selected_spec := r.select normalized_name newest others
        .ok (popped { s with
          resolved_packages := s.resolved_packages.set normalized_name selected_spec
          to_resolve := s.to_resolve ++ dependency_requests extras normalized_name selected_spec })

/-- The loop takes requests off the queue until it is empty or a request raises. -/
def resolve_step (r : DependencyResolver u) (extras : Dict String (List String)) :
    Except ResolveError (ResolveState u) → Option (Except ResolveError (ResolveState u))
  | .error _ => none
  | .ok s => match s.to_resolve with
    | [] => none
    | request :: rest => some (r.resolve_request P extras { s with to_resolve := rest } request)

def start_state (requirements : Dict String String) : ResolveState u where
  to_resolve := requirements.entries.map fun requirement => ⟨requirement.1, requirement.2, none⟩
  resolved_packages := ∅
  conflicts := []
  resolution_stack := []

/-- The ways in which a request can go. The stack is the same afterwards. -/
inductive Round (r : DependencyResolver u) (extras : Dict String (List String)) (s : ResolveState u)
    (request : Request) : Except ResolveError (ResolveState u) → Prop
  | circular : PackageSpec.normalize_name u request.package_name ∈ s.resolution_stack →
      Round r extras s request (.ok (report s
        (circular_dependency s.resolution_stack (PackageSpec.normalize_name u request.package_name) request.version_spec)))
  | settled {existing_spec} :
      s.resolved_packages.get? (PackageSpec.normalize_name u request.package_name) = some existing_spec →
      is_version_compatible P existing_spec.version request.version_spec = true → Round r extras s request (.ok s)
  | conflict {existing_spec} :
      s.resolved_packages.get? (PackageSpec.normalize_name u request.package_name) = some existing_spec →
      ¬is_version_compatible P existing_spec.version request.version_spec = true →
      Round r extras s request (.ok (report s (version_conflict (PackageSpec.normalize_name u request.package_name)
        existing_spec.version request.version_spec request.required_by)))
  | raised {e} : s.resolved_packages.get? (PackageSpec.normalize_name u request.package_name) = none →
      r.get_compatible_versions P (PackageSpec.normalize_name u request.package_name) request.version_spec none =
        .error e → Round r extras s request (.error e)
  | missing : s.resolved_packages.get? (PackageSpec.normalize_name u request.package_name) = none →
      r.get_compatible_versions P (PackageSpec.normalize_name u request.package_name) request.version_spec none =
        .ok [] →
      Round r extras s request (.ok (report s (missing_dependency
        (PackageSpec.normalize_name u request.package_name) request.version_spec request.required_by)))
  | selected {newest others} :
      s.resolved_packages.get? (PackageSpec.normalize_name u request.package_name) = none →
      r.get_compatible_versions P (PackageSpec.normalize_name u request.package_name) request.version_spec none =
        .ok (newest :: others) →
      Round r extras s request (.ok { s with
        resolved_packages := s.resolved_packages.set (PackageSpec.normalize_name u request.package_name)
          (r.select (PackageSpec.normalize_name u request.package_name) newest others)
        to_resolve := s.to_resolve ++ dependency_requests extras (PackageSpec.normalize_name u request.package_name)
          (r.select (PackageSpec.normalize_name u request.package_name) newest others) })

theorem resolve_request_round (r : DependencyResolver u) (extras : Dict String (List String)) (s : ResolveState u)
    (request : Request) : Round P r extras s request (r.resolve_request P extras s request) := by
  unfold resolve_request
  by_cases stacked : PackageSpec.normalize_name u request.package_name ∈ s.resolution_stack
  · rw [if_pos stacked]
    exact .circular stacked
  · rw [if_neg stacked]
    cases found : s.resolved_packages.get? (PackageSpec.normalize_name u request.package_name) with
    | some existing_spec =>
      by_cases fits : is_version_compatible P existing_spec.version request.version_spec = true
      · simpa [found, fits, popped] using Round.settled found fits
      · simpa [found, fits, popped, report] using (Round.conflict found fits : Round P r extras s request _)
    | none =>
      cases versions : r.get_compatible_versions P (PackageSpec.normalize_name u request.package_name)
          request.version_spec none with
      | error e => simpa [found, versions] using Round.raised found versions
      | ok compatible =>
        cases compatible with
        | nil => simpa [found, versions, popped, report] using (Round.missing found versions : Round P r extras s request _)
        | cons newest others => simpa [found, versions, popped] using Round.selected found versions

/-! ## Candidates -/

variable {P}

/-- The compatible versions are the registered ones that pass every check. -/
theorem mem_compatible_iff {r : DependencyResolver u} {package_name version_spec : String}
    {exclude_prereleases : Option Bool} {compatible : List (PackageSpec u)}
    (answer : r.get_compatible_versions P package_name version_spec exclude_prereleases = .ok compatible)
    (p : PackageSpec u) :
    p ∈ compatible ↔ ∃ versions spec,
      r.available_packages.get? (PackageSpec.normalize_name u package_name) = some versions ∧
      P.specifier (specifier_text version_spec) = some spec ∧ versions.get? p.version = some p ∧
      r.is_candidate P spec (exclude_prereleases.getD !r.allow_prereleases) p.version p = true := by
  unfold get_compatible_versions at answer
  cases known : r.available_packages.get? (PackageSpec.normalize_name u package_name) with
  | none =>
    simp only [known, Except.ok.injEq] at answer
    simp [← answer]
  | some versions =>
    cases parsed : P.specifier (specifier_text version_spec) with
    | none => simp [known, parsed] at answer
    | some spec =>
      simp only [known, parsed, Except.ok.injEq] at answer
      rw [← answer, List.mem_insertionSort]
      constructor
      · intro member
        obtain ⟨⟨version_str, q⟩, listed, rfl⟩ := List.mem_map.mp member
        obtain ⟨entry, candidate⟩ := List.mem_filter.mp listed
        have found := (versions.get?_some_iff version_str q).mpr entry
        obtain ⟨-, rfl⟩ := r.available_named _ versions known version_str q found
        exact ⟨versions, spec, rfl, rfl, found, candidate⟩
      · rintro ⟨_, _, ⟨⟩, ⟨⟩, found, candidate⟩
        exact List.mem_map.mpr ⟨(p.version, p), List.mem_filter.mpr
          ⟨(versions.get?_some_iff _ _).mp found, candidate⟩, rfl⟩

theorem select_cases (r : DependencyResolver u) (normalized_name : String) (newest : PackageSpec u)
    (others : List (PackageSpec u)) :
    r.select normalized_name newest others = newest ∨
      r.installed_packages.get? normalized_name = some (r.select normalized_name newest others) ∧
        (newest :: others).any (r.select normalized_name newest others).eq = true := by
  unfold select
  cases preferred : r.prefer_installed with
  | false => exact Or.inl rfl
  | true =>
    cases found : r.installed_packages.get? normalized_name with
    | none => exact Or.inl (by simp)
    | some installed_spec =>
      by_cases compatible : (newest :: others).any installed_spec.eq = true
      · right
        simp only [↓reduceIte, compatible]
        exact ⟨trivial, trivial⟩
      · left
        simp only [↓reduceIte, compatible, Bool.false_eq_true]

/-! ## Termination -/

/-- The versions that may be selected for a package. -/
def selectable (r : DependencyResolver u) (name : String) : List (PackageSpec u) :=
  (r.available_packages.getD name ∅).values ++ (r.installed_packages.get? name).toList

/-- A bound on the requests that selecting a version of the package adds. -/
def weight (r : DependencyResolver u) (extras : Dict String (List String)) (name : String) : Nat :=
  ((r.selectable name).map fun p => (dependency_requests extras name p).length).sum

/-- All that the packages not yet resolved may add to the queue. -/
def room (r : DependencyResolver u) (extras : Dict String (List String)) (resolved : List String) : Nat :=
  ((r.available_packages.keys.filter fun name => name ∉ resolved).map (r.weight extras)).sum

def measure (r : DependencyResolver u) (extras : Dict String (List String)) :
    Except ResolveError (ResolveState u) → Nat
  | .error _ => 0
  | .ok s => s.to_resolve.length + r.room extras s.resolved_packages.keys

private theorem room_resolved (r : DependencyResolver u) (extras : Dict String (List String))
    (resolved : Dict String (PackageSpec u)) {n : String} (p : PackageSpec u) (known : n ∈ r.available_packages.keys)
    (fresh : n ∉ resolved.keys) :
    r.room extras (resolved.set n p).keys + r.weight extras n = r.room extras resolved.keys := by
  have member : n ∈ r.available_packages.keys.filter fun k => k ∉ resolved.keys := by simp [known, fresh]
  rw [room, room, ← List.sum_map_erase (r.weight extras) member,
    (r.available_packages.keys_nodup.filter _).erase_eq_filter, List.filter_filter, Nat.add_comm]
  congr 3
  apply List.filter_congr
  intro k _
  by_cases same : k = n <;> simp [same]

theorem select_selectable {r : DependencyResolver u} {package_name version_spec : String} {newest : PackageSpec u}
    {others : List (PackageSpec u)}
    (answer : r.get_compatible_versions P (PackageSpec.normalize_name u package_name) version_spec none =
      .ok (newest :: others)) :
    PackageSpec.normalize_name u package_name ∈ r.available_packages.keys ∧
      r.select (PackageSpec.normalize_name u package_name) newest others ∈
        r.selectable (PackageSpec.normalize_name u package_name) := by
  obtain ⟨versions, -, known, -, found, -⟩ := (mem_compatible_iff answer newest).mp (by simp)
  rw [Names.normalize_name_idempotent] at known
  refine ⟨Dict.mem_keys_of_get? known, List.mem_append.mpr ?_⟩
  rcases select_cases r (PackageSpec.normalize_name u package_name) newest others with best | ⟨installed, -⟩
  · left
    rw [best, Dict.getD, known]
    exact List.mem_map.mpr ⟨_, (versions.get?_some_iff _ _).mp found, rfl⟩
  · right
    simp only [installed, Option.toList_some, List.mem_singleton]

/-- A step is a round of the first request that waits. -/
theorem resolve_step_round {r : DependencyResolver u} {extras : Dict String (List String)}
    {state next : Except ResolveError (ResolveState u)} (stepped : r.resolve_step P extras state = some next) :
    ∃ s request rest, state = .ok s ∧ s.to_resolve = request :: rest ∧
      Round P r extras { s with to_resolve := rest } request next := by
  cases state with
  | error e => simp [resolve_step] at stepped
  | ok s =>
    cases shape : s.to_resolve with
    | nil => simp [resolve_step, shape] at stepped
    | cons request rest =>
      simp only [resolve_step, shape, Option.some.injEq] at stepped
      exact ⟨s, request, rest, rfl, shape, stepped ▸ resolve_request_round P r extras { s with to_resolve := rest } request⟩

theorem resolve_step_decreasing (r : DependencyResolver u) (extras : Dict String (List String)) :
    Loop.Decreasing (r.resolve_step P extras) (r.measure extras) := by
  intro state next stepped
  obtain ⟨s, request, rest, rfl, shape, round⟩ := resolve_step_round stepped
  cases round with
  | circular => simp [measure, report, shape]
  | settled => simp [measure, shape]
  | conflict => simp [measure, report, shape]
  | raised => simp [measure, shape]
  | missing => simp [measure, report, shape]
  | @selected newest others fresh answer =>
    obtain ⟨known, selected⟩ := select_selectable answer
    have bound := List.le_sum_of_mem (List.mem_map_of_mem
      (f := fun p => (dependency_requests extras (PackageSpec.normalize_name u request.package_name) p).length) selected)
    have sums := r.room_resolved extras s.resolved_packages
      (r.select (PackageSpec.normalize_name u request.package_name) newest others) known
      ((s.resolved_packages.get?_none_iff _).mp fresh)
    simp only [measure, shape, List.length_append, List.length_cons]
    change _ ≤ r.weight extras _ at bound
    rw [← sums]
    omega

/-! ## Resolution -/

variable (P)

/-- The graph that the order of installation is computed from: the normalized
    names of the dependencies that were resolved. -/
def dependency_graph (resolved_packages : Dict String (PackageSpec u)) : Dict String (List String) where
  entries := resolved_packages.entries.map fun item =>
    (item.1, (item.2.dependencies.keys.map (PackageSpec.normalize_name u)).filter
      fun dep_name => dep_name ∈ resolved_packages.keys)
  nodup := by
    rw [List.map_map]
    exact resolved_packages.nodup

/-- Calculate the order in which packages should be installed. -/
def calculate_installation_order (resolved_packages : Dict String (PackageSpec u)) : List String :=
  Kahn.order (dependency_graph resolved_packages)

/-- Resolve dependencies for a set of requirements. -/
def resolve_dependencies (r : DependencyResolver u) (requirements : Dict String String)
    (extras : Dict String (List String)) : Except ResolveError (ResolutionResult u) :=
  match Loop.exec (r.resolve_step P extras) (r.measure extras) (r.resolve_step_decreasing extras)
      (.ok (start_state requirements)) with
  | .error e => .error e
  | .ok s => .ok {
      resolved_packages := s.resolved_packages
      conflicts := s.conflicts
      installation_order := calculate_installation_order s.resolved_packages }

variable {P}

/-- What every request keeps holds of the state that the result is read from.
    Between requests the stack is empty, so no request is found on it. -/
theorem resolve_induction {r : DependencyResolver u} {requirements : Dict String String}
    {extras : Dict String (List String)} {result : ResolutionResult u}
    (answer : r.resolve_dependencies P requirements extras = .ok result) (Inv : ResolveState u → Prop)
    (start : Inv (start_state requirements))
    (keeps : ∀ s t request rest, Inv s → s.to_resolve = request :: rest →
      PackageSpec.normalize_name u request.package_name ∉ s.resolution_stack →
      Round P r extras { s with to_resolve := rest } request (.ok t) → Inv t) :
    ∃ s, Inv s ∧ s.to_resolve = [] ∧ result.resolved_packages = s.resolved_packages ∧
      result.conflicts = s.conflicts ∧ result.installation_order = calculate_installation_order s.resolved_packages := by
  let Good : Except ResolveError (ResolveState u) → Prop := fun state =>
    ∀ s, state = .ok s → s.resolution_stack = [] ∧ Inv s
  have step : ∀ state next, Good state → r.resolve_step P extras state = some next → Good next := by
    rintro state next good stepped t rfl
    obtain ⟨s, request, rest, rfl, shape, round⟩ := resolve_step_round stepped
    obtain ⟨idle, inv⟩ := good s rfl
    refine ⟨?_, keeps s t request rest inv shape (by simp [idle]) round⟩
    cases round <;> exact idle
  have initial : Good (.ok (start_state requirements)) := by
    rintro s ⟨⟩
    exact ⟨rfl, start⟩
  obtain ⟨good, done⟩ := Loop.exec_induction (r.resolve_step_decreasing extras) _ step initial
  unfold resolve_dependencies at answer
  cases final : Loop.exec (r.resolve_step P extras) (r.measure extras) (r.resolve_step_decreasing extras)
      (.ok (start_state requirements)) with
  | error e => simp [final] at answer
  | ok s =>
    simp only [final, Except.ok.injEq] at answer
    refine ⟨s, (good s final).2, ?_, ?_⟩
    · cases shape : s.to_resolve with
      | nil => rfl
      | cons request rest => simp [final, resolve_step, shape] at done
    · subst answer
      exact ⟨rfl, rfl, rfl⟩

end DependencyResolver
end RevitPy
