import RevitPy.Dict
import RevitPy.PostOrder

/-!
# The order in which dependencies are reloaded

The reloader sorts a list of modules by a depth-first search that follows the dependencies that are
in the list themselves. A module that depends on another one through modules outside the list comes
after it only if the search happens to come to the other one first.
-/

namespace RevitPy.DependencyOrder
open PostOrder
variable {π : Type} [DecidableEq π]

/-! ## The algorithm -/

def visit (dependencyGraph : Dict π (List π)) (modules : List π) : Nat → State π → π → Option (State π)
  | 0, _, _ => none
  | fuel + 1, s, module =>
    if module ∈ s.visited then some s
    else do
      let t ← (dependencyGraph.getD module []).foldlM
        (fun s dep => if modules.contains dep then visit dependencyGraph modules fuel s dep else pure s) { s with visited := module :: s.visited }
      return { t with result := t.result ++ [module] }

def topologicalSort (dependencyGraph : Dict π (List π)) (modules : List π) : Option (List π) :=
  (modules.foldlM (visit dependencyGraph modules (modules.length + 1)) {}).map State.result

/-! ## What it follows -/

variable (dependencyGraph : Dict π (List π)) (modules : List π)

/-- The dependencies of a module that are in the list. -/
def deps (module : π) : List π := (dependencyGraph.getD module []).filter modules.contains

theorem visit_eq (fuel : Nat) : visit dependencyGraph modules fuel = PostOrder.visit (deps dependencyGraph modules) fuel := by
  induction fuel with
  | zero => rfl
  | succ fuel ih =>
    funext s module
    simp only [visit, PostOrder.visit, deps, List.foldlM_filter, ih]

def DependsOn (module dep : π) : Prop := dep ∈ dependencyGraph.getD module []

instance (module dep : π) : Decidable (DependsOn dependencyGraph module dep) := inferInstanceAs (Decidable (_ ∈ _))

def Acyclic : Prop := ∀ module, ¬Relation.TransGen (DependsOn dependencyGraph) module module

/-- Every module of the list comes after the others of the list that it depends on. -/
def DependenciesFirst (result : List π) : Prop :=
  ∀ module ∈ modules, ∀ dep ∈ modules, dep ≠ module → Relation.TransGen (DependsOn dependencyGraph) module dep →
    result.idxOf dep < result.idxOf module

/-- A module leads to its dependencies through modules of the list, or the search comes to the
    dependency first. -/
def Followed : Prop :=
  ∀ module ∈ modules, ∀ dep ∈ modules, dep ≠ module → Relation.TransGen (DependsOn dependencyGraph) module dep →
    Leads (deps dependencyGraph modules) module dep ∨ First (deps dependencyGraph modules) dep module modules

variable {dependencyGraph modules}

theorem deps_subset (module : π) : deps dependencyGraph modules module ⊆ modules := by
  intro dep member
  simpa using (List.mem_filter.mp member).2

theorem dependsOn_of_deps {module dep : π} (step : dep ∈ deps dependencyGraph modules module) : DependsOn dependencyGraph module dep :=
  (List.mem_filter.mp step).1

variable (dependencyGraph modules) in
theorem exists_sorted : ∃ t, topologicalSort dependencyGraph modules = some t.result ∧ Walk (deps dependencyGraph modules) {} modules t := by
  have enough : (modules.toFinset \ ([] : List π).toFinset).card < modules.length + 1 := by
    simpa using Nat.lt_succ_of_le (List.toFinset_card_le modules)
  obtain ⟨t, ran, walk⟩ := exists_walk (fun module _ => deps_subset module) (modules.length + 1) {} modules (List.Subset.refl _) enough
  exact ⟨t, by simp [topologicalSort, visit_eq, ran], walk⟩

/-- The dependencies come first exactly where the search follows them all. -/
theorem sorted_iff_followed (acyclic : Acyclic dependencyGraph) (distinct : modules.Nodup) :
    ∃ result, topologicalSort dependencyGraph modules = some result ∧ result.Perm modules ∧
      (DependenciesFirst dependencyGraph modules result ↔ Followed dependencyGraph modules) := by
  obtain ⟨t, sorted, walk⟩ := exists_sorted dependencyGraph modules
  refine ⟨t.result, sorted, walk.perm distinct fun module _ => deps_subset module, ?_⟩
  have within : ∀ module, ¬Relation.TransGen (fun a b => b ∈ deps dependencyGraph modules a) module module :=
    fun module cycle => acyclic module (Relation.TransGen.mono (fun _ _ => dependsOn_of_deps) _ _ cycle)
  refine forall₄_congr fun module listed dep _ => forall₂_congr fun other path => ?_
  refine walk.before_iff within other (fun back => ?_) listed
  exact acyclic module (path.trans_left (Relation.ReflTransGen.mono (fun _ _ => dependsOn_of_deps) _ _ back))

theorem DependsOn.lower {rank : π → Nat} (lower : ∀ entry ∈ dependencyGraph.entries, ∀ dep ∈ entry.2, rank dep < rank entry.1) {module dep : π}
    (step : DependsOn dependencyGraph module dep) : rank dep < rank module := by
  rw [DependsOn, Dict.getD] at step
  cases found : dependencyGraph.get? module with
  | none => simp [found] at step
  | some listed =>
    rw [found] at step
    exact lower _ ((Dict.get?_some_iff _ _ _).mp found) dep step

theorem acyclic_of_rank (rank : π → Nat) (lower : ∀ entry ∈ dependencyGraph.entries, ∀ dep ∈ entry.2, rank dep < rank entry.1) : Acyclic dependencyGraph := by
  have below {module dep : π} (path : Relation.TransGen (DependsOn dependencyGraph) module dep) : rank dep < rank module := by
    induction path with
    | single step => exact DependsOn.lower lower step
    | tail _ step ih => exact (DependsOn.lower lower step).trans ih
  exact fun module cycle => (below cycle).false

/-- `a.py` imports `b.py`, and `b.py` imports `c.py`. -/
def chain : Dict String (List String) := .ofList [("a.py", ["b.py"]), ("b.py", ["c.py"]), ("c.py", [])]

theorem acyclic_chain : Acyclic chain := acyclic_of_rank (["c.py", "b.py", "a.py"].idxOf ·) (by decide)

theorem chain_sorted : ∃ result, topologicalSort chain ["c.py", "a.py"] = some result ∧ result.Perm ["c.py", "a.py"] ∧
    (DependenciesFirst chain ["c.py", "a.py"] result ↔ Followed chain ["c.py", "a.py"]) :=
  sorted_iff_followed acyclic_chain (by decide)

/-- With `b.py` outside the list `a.py` stays before `c.py`. -/
theorem chain_unsorted : Acyclic chain ∧ ["a.py", "c.py"].Nodup ∧
    topologicalSort chain ["a.py", "c.py"] = some ["a.py", "c.py"] ∧ ¬DependenciesFirst chain ["a.py", "c.py"] ["a.py", "c.py"] := by
  refine ⟨acyclic_chain, by decide, by decide, fun first => ?_⟩
  have a : DependsOn chain "a.py" "b.py" := by decide
  have b : DependsOn chain "b.py" "c.py" := by decide
  have path : Relation.TransGen (DependsOn chain) "a.py" "c.py" := .tail (.single a) b
  exact absurd (first "a.py" (by decide) "c.py" (by decide) (by decide) path) (by decide)

end RevitPy.DependencyOrder
