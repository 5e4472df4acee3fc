import RevitPy.DepthFirst
import RevitPy.Extension

/-!
# The order in which extensions are loaded

The registry keeps the metadata of the extensions by their id, and orders their names by
a depth-first search through their dependencies. Extensions may share a name, and the
graph then has the dependencies of the last of them only.
-/

namespace RevitPy

/-- The metadata of the registered extensions by their ids and by their names. -/
structure ExtensionRegistry where
  _extensions : Dict String ExtensionMetadata
  _extensions_by_name : Dict String ExtensionMetadata
  by_id : ∀ key metadata, _extensions.get? key = some metadata → metadata.extension_id = key
  by_name : ∀ key metadata, _extensions_by_name.get? key = some metadata → metadata.name = key

/-- An order in which a set is iterated, which may differ from moment to moment. -/
structure SetOrder where
  iterate : List String → List String → List String
  perm : ∀ resolved members, (iterate resolved members).Perm members

namespace ExtensionRegistry

def empty : ExtensionRegistry where
  _extensions := ∅
  _extensions_by_name := ∅
  by_id := by simp
  by_name := by simp

/-- Register extension metadata. -/
def register_extension (r : ExtensionRegistry) (metadata : ExtensionMetadata) : ExtensionRegistry where
  _extensions := r._extensions.set metadata.extension_id metadata
  _extensions_by_name := r._extensions_by_name.set metadata.name metadata
  by_id := by
    intro key found
    rw [Dict.get?_set]
    split
    · rintro ⟨⟩
      assumption
    · exact r.by_id key found
  by_name := by
    intro key found
    rw [Dict.get?_set]
    split
    · rintro ⟨⟩
      assumption
    · exact r.by_name key found

/-- Get extension metadata by name or ID. -/
def get_extension (r : ExtensionRegistry) (name_or_id : String) : Option ExtensionMetadata :=
  match r._extensions.get? name_or_id with
  | some metadata => some metadata
  | none => r._extensions_by_name.get? name_or_id

/-- Unregister extension metadata. -/
def unregister_extension (r : ExtensionRegistry) (name_or_id : String) : Bool × ExtensionRegistry :=
  match r.get_extension name_or_id with
  | none => (false, r)
  | some metadata =>
    (true,
      { _extensions := r._extensions.erase metadata.extension_id
        _extensions_by_name := r._extensions_by_name.erase metadata.name
        by_id := fun key found present => r.by_id key found (Dict.get?_of_erase present)
        by_name := fun key found present => r.by_name key found (Dict.get?_of_erase present) })

/-- Get all registered extensions. -/
def get_all_extensions (r : ExtensionRegistry) : List ExtensionMetadata := r._extensions.values

/-- Get dependency graph of all extensions. -/
def get_dependency_graph (r : ExtensionRegistry) : Dict String (List String) :=
  r.get_all_extensions.foldl (fun graph metadata => graph.set metadata.name metadata.dependencies) ∅

/-- The text of the error about a name that is on its own path. -/
def circular (visiting_order : SetOrder) (s : DepthFirst.State String) (visiting : List String) (name : String) : String :=
  "Circular dependency detected: " ++ String.intercalate " -> " (visiting_order.iterate s.finished visiting) ++ " -> " ++ name

/-- Resolve the order in which extensions should be loaded: the names, or the text of a
    `ValueError`. There is no answer where the search does not end. -/
def resolve_load_order (r : ExtensionRegistry) (unresolved_order visiting_order : SetOrder) :
    Option (Except String (List String)) :=
  match DepthFirst.search r.get_dependency_graph fun s => unresolved_order.iterate s.finished s.waiting with
  | .ok s => some (.ok s.finished)
  | .error (.cycle s visiting name) => some (.error (circular visiting_order s visiting name))
  | .error .exhausted => none

/-- The last of the registered extensions with a name. -/
def last_named (r : ExtensionRegistry) (name : String) : Option ExtensionMetadata :=
  r.get_all_extensions.reverse.find? fun metadata => metadata.name = name

def Registered (r : ExtensionRegistry) (name : String) : Prop := ∃ metadata ∈ r.get_all_extensions, metadata.name = name

/-- A name depends on a registered one by what the last extension with the name needs. -/
def DependsOn (r : ExtensionRegistry) (name dependency : String) : Prop :=
  r.Registered dependency ∧ ∃ metadata, r.last_named name = some metadata ∧ dependency ∈ metadata.dependencies

/-! ## The graph -/

/-- The graph has the dependencies of the last extension with a name. -/
theorem get?_get_dependency_graph (r : ExtensionRegistry) (name : String) :
    r.get_dependency_graph.get? name = (r.last_named name).map ExtensionMetadata.dependencies := by
  unfold get_dependency_graph last_named
  rw [← List.foldr_reverse]
  induction r.get_all_extensions.reverse with
  | nil => rfl
  | cons metadata rest ih =>
    rw [List.foldr_cons, Dict.get?_set, List.find?_cons]
    by_cases same : metadata.name = name
    · simp [same]
    · simp [same, ih]

theorem registered_iff_last_named (r : ExtensionRegistry) (name : String) :
    r.Registered name ↔ ∃ metadata, r.last_named name = some metadata := by
  rw [← Option.isSome_iff_exists, last_named, List.find?_isSome]
  simp [Registered]

theorem mem_get_dependency_graph (r : ExtensionRegistry) (name : String) :
    name ∈ r.get_dependency_graph.keys ↔ r.Registered name := by
  rw [Dict.mem_keys_iff, registered_iff_last_named]
  simp [get?_get_dependency_graph]

theorem edge_iff (r : ExtensionRegistry) (name dependency : String) :
    Kahn.Edge r.get_dependency_graph name dependency ↔ r.DependsOn name dependency := by
  unfold Kahn.Edge DependsOn
  rw [mem_get_dependency_graph, mem_get_dependency_graph, Kahn.next, Dict.getD, get?_get_dependency_graph,
    registered_iff_last_named]
  constructor
  · rintro ⟨⟨metadata, found⟩, registered, member⟩
    rw [found] at member
    exact ⟨registered, metadata, found, member⟩
  · rintro ⟨registered, metadata, found, member⟩
    rw [found]
    exact ⟨⟨metadata, rfl⟩, registered, member⟩

/-! ## The order -/

/-- A registry gives each registered name once, after the names that it depends on, or a
    `ValueError` exactly where names depend on each other in a circle. -/
def Topological (r : ExtensionRegistry) (Depends : String → String → Prop) : Option (Except String (List String)) → Prop
  | some (.ok names) => names.Nodup ∧ (∀ name, name ∈ names ↔ r.Registered name) ∧
      (∀ name dependency, r.Registered name → Depends name dependency → names.idxOf dependency < names.idxOf name) ∧
      ∀ name, ¬Relation.TransGen Depends name name
  | some (.error _) => ∃ name, Relation.TransGen Depends name name
  | none => False

/-- The load order of the names, whatever the order of the sets. -/
theorem resolve_load_order_topological (r : ExtensionRegistry) (unresolved_order visiting_order : SetOrder) :
    r.Topological r.DependsOn (r.resolve_load_order unresolved_order visiting_order) := by
  have searched := DepthFirst.searched (fun s => unresolved_order.perm s.finished s.waiting) r.get_dependency_graph
  have edges : Kahn.Edge r.get_dependency_graph = r.DependsOn := by
    funext name dependency
    exact propext (r.edge_iff name dependency)
  unfold resolve_load_order
  split
  · next s answer =>
    rw [answer] at searched
    obtain ⟨good, all⟩ := searched
    have names := good.perm_keys all
    refine ⟨good.distinct, ?_, ?_, ?_⟩
    · intro name
      rw [names.mem_iff, mem_get_dependency_graph]
    · intro name dependency registered depends
      exact good.idxOf_lt ((r.edge_iff name dependency).mpr depends) (all name ((r.mem_get_dependency_graph name).mpr registered))
    · rw [← edges]
      exact good.acyclic all
  · next answer =>
    rw [answer] at searched
    rw [← edges]
    exact not_forall_not.mp searched
  · next answer =>
    rw [answer] at searched
    exact searched

/-! ## Extensions that share a name -/

/-- A name depends on a registered one by what any extension with the name needs. -/
def SomeDependsOn (r : ExtensionRegistry) (name dependency : String) : Prop :=
  r.Registered dependency ∧ ∃ metadata ∈ r.get_all_extensions, metadata.name = name ∧ dependency ∈ metadata.dependencies

/-- Where no two extensions share a name, the order is right for every extension. -/
theorem someDependsOn_iff {r : ExtensionRegistry} (distinct : (r.get_all_extensions.map ExtensionMetadata.name).Nodup)
    (name dependency : String) : r.SomeDependsOn name dependency ↔ r.DependsOn name dependency := by
  unfold SomeDependsOn DependsOn last_named
  refine and_congr_right fun _ => ⟨?_, ?_⟩
  · rintro ⟨metadata, member, named, needed⟩
    refine ⟨metadata, ?_, needed⟩
    match found : r.get_all_extensions.reverse.find? fun metadata => metadata.name = name with
    | none => exact absurd (List.find?_eq_none.mp found metadata (List.mem_reverse.mpr member)) (by simp [named])
    | some other =>
      have other_named : other.name = name := by simpa using List.find?_some found
      have other_member := List.mem_reverse.mp (List.mem_of_find?_eq_some found)
      have same := List.inj_on_of_nodup_map distinct other_member member (other_named.trans named.symm)
      exact found.trans (congrArg some same)
  · rintro ⟨metadata, found, needed⟩
    exact ⟨metadata, List.mem_reverse.mp (List.mem_of_find?_eq_some found), by simpa using List.find?_some found, needed⟩

def in_order : SetOrder := ⟨fun _ members => members, fun _ _ => List.Perm.refl _⟩

def sharing_a_name : ExtensionRegistry :=
  [⟨"views", ["core"], "1"⟩, ⟨"core", [], "2"⟩, ⟨"views", [], "3"⟩].foldl register_extension empty

/-- The first of two extensions with one name may stand before its dependency. -/
theorem shared_name_unordered :
    ¬∀ (r : ExtensionRegistry) (unresolved_order visiting_order : SetOrder),
      r.Topological r.SomeDependsOn (r.resolve_load_order unresolved_order visiting_order) := by
  intro topological
  have sorted := topological sharing_a_name in_order in_order
  have answer : sharing_a_name.resolve_load_order in_order in_order = some (.ok ["views", "core"]) := by decide +kernel
  rw [answer] at sorted
  obtain ⟨_, _, before, _⟩ := sorted
  have views : sharing_a_name.SomeDependsOn "views" "core" :=
    ⟨⟨⟨"core", [], "2"⟩, by decide, rfl⟩, ⟨"views", ["core"], "1"⟩, by decide, rfl, by decide⟩
  exact absurd (before "views" "core" ⟨⟨"views", [], "3"⟩, by decide, rfl⟩ views) (by decide)

end ExtensionRegistry

end RevitPy
