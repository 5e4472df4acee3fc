import RevitPy.Dict

/-!
# Reloading Python modules

A module is reloaded when the hash of its file is not the stored one. After a reload that
succeeds the modules that import it are reloaded, by the same function. Files and the
answers of the Python process are given from outside, and stay what they are during a
call.
-/

namespace RevitPy

/-- What the Python process makes of the reload of a module. -/
structure PerformedReload where
  success : Bool
  statePreserved : Bool := false
  errors : List String := []

structure ModuleReloadResult (π : Type) where
  success : Bool
  modulePath : π
  statePreserved : Bool := false
  dependenciesReloaded : List π := []
  errors : List String := []

/-- A reload that was performed: of which module, with what in its file, and how it ended. -/
structure Attempt (π C : Type) where
  path : π
  content : Option C
  success : Bool

/-- What a call finds outside. A file that cannot be read has no content. -/
structure ReloadSurroundings (π C H : Type) where
  readFile : π → Option C
  md5 : C → H
  perform : π → PerformedReload

structure ModuleReloader (π C H : Type) where
  dependencyTrackingEnabled : Bool
  /-- The dependencies of the modules that the scan has found. -/
  modules : Dict π (List π) := ∅
  dependentGraph : Dict π (List π) := ∅
  moduleHashes : Dict π H := ∅
  /-- The reloads that were performed, the latest last. -/
  attempts : List (Attempt π C) := []

variable {π C H : Type} [DecidableEq π] [DecidableEq H]

namespace ModuleReloader
variable (py : ReloadSurroundings π C H) (s : ModuleReloader π C H)

/-! ## Scan -/

def scanPythonModule (extractPythonDependencies : C → π → List π) (path : π) : ModuleReloader π C H := match py.readFile path with
  | some content => { s with
      modules := s.modules.set path (if s.dependencyTrackingEnabled then extractPythonDependencies content path else [])
      moduleHashes := s.moduleHashes.set path (py.md5 content) }
  | none => s

def dependents (path : π) : List π := (s.dependentGraph.get? path).getD []

/-- `add` of a set, which keeps the order of insertion. -/
def addDependent (path dependent : π) : ModuleReloader π C H :=
  if dependent ∈ s.dependents path then s
  else { s with dependentGraph := s.dependentGraph.set path (s.dependents path ++ [dependent]) }

def buildDependencyGraph : ModuleReloader π C H :=
  s.modules.entries.foldl (fun t entry => (entry.2.filter s.modules.contains).foldl (fun t path => t.addDependent path entry.1) t)
    { s with dependentGraph := ∅ }

def init (dependencyTrackingEnabled : Bool) (pythonFiles : List π) (extractPythonDependencies : C → π → List π) :
    ModuleReloader π C H :=
  let s := pythonFiles.foldl (fun s path => s.scanPythonModule py extractPythonDependencies path) { dependencyTrackingEnabled }
  if dependencyTrackingEnabled then s.buildDependencyGraph else s

/-! ## Reload -/

def checkModuleNeedsReload (path : π) : Bool := match s.moduleHashes.get? path, py.readFile path with
  | some currentHash, some content => currentHash ≠ py.md5 content
  | _, _ => true

def updateModuleInfo (path : π) : ModuleReloader π C H := match py.readFile path with
  | some content => { s with moduleHashes := s.moduleHashes.set path (py.md5 content) }
  | none => s

def performModuleReload (path : π) : ModuleReloader π C H :=
  { s with attempts := s.attempts ++ [⟨path, py.readFile path, (py.perform path).success⟩] }

/-- The modules that are reloaded after a module. -/
def followed (path : π) : List π := if s.dependencyTrackingEnabled then s.dependents path else []

/-- The loop over dependents: those whose reload returns success are listed. -/
def reloadDependents (reload : ModuleReloader π C H → π → Option (ModuleReloader π C H × ModuleReloadResult π)) :
    List π → ModuleReloader π C H → Option (ModuleReloader π C H × List π)
  | [], s => some (s, [])
  | dependent :: rest, s => do
    let (s, depResult) ← reload s dependent
    let (s, later) ← reloadDependents reload rest s
    return (s, if depResult.success then dependent :: later else later)

/-- Reload a Python module with dependency tracking; `none` where the fuel, that is the
    depth of the calls, does not suffice. -/
def reloadModule : Nat → ModuleReloader π C H → π → Option (ModuleReloader π C H × ModuleReloadResult π)
  | 0, _, _ => none
  | depth + 1, s, path =>
    if s.checkModuleNeedsReload py path then do
      let result := py.perform path
      let s := (s.performModuleReload py path).updateModuleInfo py path
      let (s, dependenciesReloaded) ← reloadDependents (reloadModule depth) (if result.success then s.followed path else []) s
      return (s, ⟨result.success, path, result.statePreserved, dependenciesReloaded, result.errors⟩)
    else return (s, { success := true, modulePath := path })

/-! ## The graph -/

variable {s} {path next : π}

omit [DecidableEq H] in
theorem mem_dependents_addDependent (other dependent : π) :
    next ∈ (s.addDependent other dependent).dependents path ↔ next ∈ s.dependents path ∨ path = other ∧ next = dependent := by
  unfold addDependent
  split
  · next known =>
    refine ⟨.inl, fun either => either.elim id ?_⟩
    rintro ⟨rfl, rfl⟩
    exact known
  · by_cases same : other = path
    · subst same
      simp [dependents]
    · simp [dependents, Dict.get?_set_ne _ _ same, Ne.symm same]

omit [DecidableEq H] in
theorem mem_dependents_foldl (paths : List π) (dependent : π) :
    next ∈ (paths.foldl (fun t path => t.addDependent path dependent) s).dependents path ↔
      next ∈ s.dependents path ∨ path ∈ paths ∧ next = dependent := by
  induction paths generalizing s with
  | nil => simp
  | cons first rest ih =>
    rw [List.foldl_cons, ih, mem_dependents_addDependent, or_assoc, ← or_and_right, List.mem_cons]

omit [DecidableEq H] in
/-- The dependents of a module are the tracked modules with an import of it. -/
theorem mem_dependents_buildDependencyGraph :
    next ∈ s.buildDependencyGraph.dependents path ↔ path ∈ s.modules.keys ∧ ∃ imports, s.modules.get? next = some imports ∧ path ∈ imports := by
  have general (entries : List (π × List π)) (t : ModuleReloader π C H) :
      next ∈ (entries.foldl (fun t entry => (entry.2.filter s.modules.contains).foldl (fun t path => t.addDependent path entry.1) t) t).dependents path ↔
        next ∈ t.dependents path ∨ ∃ imports, (next, imports) ∈ entries ∧ path ∈ imports ∧ path ∈ s.modules.keys := by
    induction entries generalizing t with
    | nil => simp
    | cons entry rest ih =>
      rw [List.foldl_cons, ih, mem_dependents_foldl, or_assoc]
      refine or_congr_right ⟨?_, ?_⟩
      · rintro (⟨imported, rfl⟩ | ⟨imports, member, imported⟩)
        · rw [List.mem_filter, Dict.contains_iff] at imported
          exact ⟨entry.2, List.mem_cons_self, imported⟩
        · exact ⟨imports, List.mem_cons_of_mem _ member, imported⟩
      · rintro ⟨imports, member, imported⟩
        rcases List.mem_cons.mp member with rfl | later
        · exact .inl ⟨List.mem_filter.mpr ⟨imported.1, (Dict.contains_iff _ _).mpr imported.2⟩, rfl⟩
        · exact .inr ⟨imports, later, imported⟩
  rw [buildDependencyGraph, general]
  have none : next ∉ { s with dependentGraph := ∅ }.dependents path := by simp [dependents]
  simp only [none, false_or, Dict.get?_some_iff]
  constructor
  · rintro ⟨imports, member, imported, tracked⟩
    exact ⟨tracked, imports, member, imported⟩
  · rintro ⟨tracked, imports, member, imported⟩
    exact ⟨imports, member, imported, tracked⟩

end ModuleReloader
end RevitPy
