import RevitPy.Resolver

/-!
# Lock files

A lock file stores the packages of a resolution by name and the order of their
installation. Reading it makes every package again, which normalizes its name a
second time.
-/

namespace RevitPy

/-- What a lock file says of one package. A key that is missing is `none`. -/
structure LockedPackage where
  version : Option String
  python_version : Option String
  supported_revit_versions : Option (List String)
  dependencies : Option (Dict String String)
  optional_dependencies : Option (Dict String (Dict String String))
  is_prerelease : Option Bool

structure LockData where
  version : Option String
  python_version : Option String
  revit_version : Option String
  generated_at : Option String
  packages : Option (Dict String LockedPackage)
  installation_order : Option (List String)

inductive LockError
  | ValueError (message : String)
  | KeyError (key : String)
  deriving DecidableEq

namespace DependencyResolver
variable {u : CaseTable}

/-- The entry written for one package. -/
def locked (spec : PackageSpec u) : LockedPackage where
  version := some spec.version
  python_version := some spec.python_version
  supported_revit_versions := some spec.supported_revit_versions
  dependencies := some spec.dependencies
  optional_dependencies := some spec.optional_dependencies
  is_prerelease := some spec.is_prerelease

/-- Create a lock file from resolution results, at a reading of the clock. -/
def create_lock_file (r : DependencyResolver u) (utcnow : String) (resolution_result : ResolutionResult u) : Except LockError LockData :=
  if resolution_result.is_successful then
    .ok {
      version := some "1.0"
      python_version := some r.python_version
      revit_version := some r.revit_version
      generated_at := some utcnow
      packages := some (Dict.ofList (resolution_result.resolved_packages.entries.map fun item => (item.1, locked item.2)))
      installation_order := some resolution_result.installation_order }
  else .error (.ValueError "Cannot create lock file from unsuccessful resolution")

/-- `data[key]`. -/
def required {α : Type*} (key : String) : Option α → Except LockError α
  | none => .error (.KeyError key)
  | some value => .ok value

/-- The package made from an entry. -/
def unlocked (u : CaseTable) (name : String) (package_data : LockedPackage) : Except LockError (PackageSpec u) := do
  let version ← required "version" package_data.version
  let python_version ← required "python_version" package_data.python_version
  let supported_revit_versions ← required "supported_revit_versions" package_data.supported_revit_versions
  let dependencies ← required "dependencies" package_data.dependencies
  let optional_dependencies ← required "optional_dependencies" package_data.optional_dependencies
  let is_prerelease ← required "is_prerelease" package_data.is_prerelease
  return {
    name := PackageSpec.normalize_name u name
    version, python_version, supported_revit_versions, dependencies, optional_dependencies, is_prerelease
    normalized := Names.normalize_name_idempotent u name }

/-- `resolved_packages[name] = spec` for one entry. -/
def restore (resolved_packages : Dict String (PackageSpec u)) (item : String × LockedPackage) :
    Except LockError (Dict String (PackageSpec u)) := do
  let spec ← unlocked u item.1 item.2
  return resolved_packages.set item.1 spec

/-- Resolve dependencies from a lock file. -/
def resolve_from_lock_file (u : CaseTable) (lock_data : LockData) : Except LockError (ResolutionResult u) := do
  let packages ← required "packages" lock_data.packages
  let resolved_packages ← packages.entries.foldlM restore ∅
  return {
    resolved_packages := resolved_packages
    conflicts := []
    installation_order := lock_data.installation_order.getD resolved_packages.keys }

/-! ## Reading what was written -/

/-- A package whose name is normalized is read as it was written. -/
theorem unlocked_locked (spec : PackageSpec u) : unlocked u spec.name (locked spec) = .ok spec := by
  obtain ⟨name, version, python, revit, dependencies, optional, prerelease, normalized⟩ := spec
  simp [unlocked, locked, required, normalized]
  rfl

/-- Items that are read as they were written are assigned in order. -/
theorem foldlM_restore {items : List (String × PackageSpec u)} (reads : ∀ item ∈ items, unlocked u item.1 (locked item.2) = .ok item.2)
    (d : Dict String (PackageSpec u)) : (items.map fun item => (item.1, locked item.2)).foldlM restore d = .ok (d.update items) := by
  induction items generalizing d with
  | nil => rfl
  | cons item rest ih =>
    have first : restore d (item.1, locked item.2) = .ok (d.set item.1 item.2) := by
      rw [restore, reads item List.mem_cons_self]
      rfl
    rw [List.map_cons, List.foldlM_cons, first]
    exact ih (fun item member => reads item (List.mem_cons_of_mem _ member)) _

/-! ## Resolved packages -/

/-- Packages are resolved under their own names. -/
def Named (resolved_packages : Dict String (PackageSpec u)) : Prop := ∀ name p, resolved_packages.get? name = some p → p.name = name

theorem select_named {P : Packaging} {r : DependencyResolver u} {package_name version_spec : String} {newest : PackageSpec u}
    {others : List (PackageSpec u)}
    (answer : r.get_compatible_versions P (PackageSpec.normalize_name u package_name) version_spec none = .ok (newest :: others)) :
    (r.select (PackageSpec.normalize_name u package_name) newest others).name = PackageSpec.normalize_name u package_name := by
  rcases select_cases r (PackageSpec.normalize_name u package_name) newest others with best | ⟨installed, -⟩
  · obtain ⟨versions, -, known, -, found, -⟩ := (mem_compatible_iff answer newest).mp (by simp)
    rw [Names.normalize_name_idempotent] at known
    rw [best]
    exact (r.available_named _ versions known _ newest found).1
  · exact r.installed_named _ _ installed

theorem named_of_answer {P : Packaging} {r : DependencyResolver u} {requirements : Dict String String}
    {extras : Dict String (List String)} {result : ResolutionResult u}
    (answer : r.resolve_dependencies P requirements extras = .ok result) : Named result.resolved_packages := by
  obtain ⟨s, inv, -, resolved, -, -⟩ := resolve_induction answer (fun s => Named s.resolved_packages) (fun _ _ found => by cases found) (by
    intro s t request rest named _ _ round
    cases round with
    | circular => exact named
    | settled => exact named
    | conflict => exact named
    | missing => exact named
    | selected fresh answer =>
      intro name p found
      rw [Dict.get?_set] at found
      split at found
      · next same =>
        obtain rfl := Option.some.inj found
        rw [← same]
        exact select_named answer
      · exact named name p found)
  rw [resolved]
  exact inv

/-! ## The round trip -/

/-- Reading the file of packages that stand under their own names gives them back. -/
theorem resolve_created (r : DependencyResolver u) (utcnow : String) {result : ResolutionResult u}
    (successful : result.is_successful = true) (named : Named result.resolved_packages) :
    ∃ lock_data, r.create_lock_file utcnow result = .ok lock_data ∧ resolve_from_lock_file u lock_data = .ok result := by
  have none_reported : result.conflicts = [] := by simpa [ResolutionResult.is_successful] using successful
  have each : ∀ item ∈ result.resolved_packages.entries, unlocked u item.1 (locked item.2) = .ok item.2 := by
    intro item member
    have name := named item.1 item.2 ((result.resolved_packages.get?_some_iff _ _).mpr member)
    rw [← name]
    exact unlocked_locked item.2
  have stored : ((result.resolved_packages.entries.map fun item => (item.1, locked item.2)).map Prod.fst).Nodup := by
    simpa [Function.comp_def] using result.resolved_packages.nodup
  have again : Dict.update ∅ result.resolved_packages.entries = result.resolved_packages :=
    Dict.ext (Dict.entries_ofList result.resolved_packages.nodup)
  have read := foldlM_restore each ∅
  rw [again, ← Dict.entries_ofList stored] at read
  refine ⟨_, by rw [create_lock_file, if_pos successful], ?_⟩
  simp only [resolve_from_lock_file, required, bind, Except.bind, read, Option.getD_some]
  rw [← none_reported]
  rfl

/-- A successful resolution is read back from its lock file as it was, and no name
    stored in the file is another one once it is normalized. -/
theorem lock_file_round_trip {P : Packaging} {r : DependencyResolver u} {requirements : Dict String String}
    {extras : Dict String (List String)} {result : ResolutionResult u}
    (answer : r.resolve_dependencies P requirements extras = .ok result) (successful : result.is_successful = true) (utcnow : String) :
    ∃ lock_data again, r.create_lock_file utcnow result = .ok lock_data ∧ resolve_from_lock_file u lock_data = .ok again ∧
      again.is_successful = true ∧ again.resolved_packages = result.resolved_packages ∧
      again.installation_order = result.installation_order ∧
      ∀ name ∈ result.resolved_packages.keys, PackageSpec.normalize_name u name = name := by
  have named := named_of_answer answer
  obtain ⟨lock_data, written, read⟩ := resolve_created r utcnow successful named
  refine ⟨lock_data, result, written, read, successful, rfl, rfl, ?_⟩
  intro name known
  obtain ⟨p, found⟩ := (Dict.mem_keys_iff _ _).mp known
  rw [← named name p found]
  exact p.normalized

/-- A package that is registered under a name that is not normalized. -/
def gadget : PackageSpec CaseTable.ascii := PackageSpec.make CaseTable.ascii "G.t" "2.1" (Dict.ofList [("lib", "*")]) ∅

def lib : PackageSpec CaseTable.ascii := PackageSpec.make CaseTable.ascii "lib" "1.0" ∅ ∅

def workshop : DependencyResolver CaseTable.ascii :=
  ((init CaseTable.ascii "3.11.0" "2025" false true).register_available_package gadget).register_available_package lib

def equipped : ResolutionResult CaseTable.ascii := ⟨Dict.ofList [("g-t", gadget), ("lib", lib)], [], ["g-t", "lib"]⟩

theorem gadget_round_trip : ∃ lock_data again,
    workshop.create_lock_file "2025-01-01T00:00:00" equipped = .ok lock_data ∧
      resolve_from_lock_file CaseTable.ascii lock_data = .ok again ∧ again.is_successful = true ∧
      again.resolved_packages = equipped.resolved_packages ∧ again.installation_order = equipped.installation_order ∧
      ∀ name ∈ equipped.resolved_packages.keys, PackageSpec.normalize_name CaseTable.ascii name = name :=
  lock_file_round_trip
    (show workshop.resolve_dependencies Packaging.releases (Dict.ofList [("g-t", "*")]) ∅ = .ok equipped from rfl) rfl _

end DependencyResolver
end RevitPy
