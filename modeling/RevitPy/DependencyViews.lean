import RevitPy.LoadOrder

/-!
# Three views of the dependencies

Dependencies are names or ids of extensions: `get_extension` finds both, and with it
`validate_dependencies`. The graph of the load order has names as its nodes, and `get_dependents`
looks for the very text it is given.
-/

namespace RevitPy.ExtensionRegistry

/-- Check if extension is registered. -/
def has_extension (r : ExtensionRegistry) (name_or_id : String) : Bool := (r.get_extension name_or_id).isSome

/-- The dependencies of an extension that are not registered. -/
def missing (r : ExtensionRegistry) (metadata : ExtensionMetadata) : List String :=
  metadata.dependencies.filter fun dependency => !r.has_extension dependency

/-- Validate all extension dependencies. -/
def validate_dependencies (r : ExtensionRegistry) : Dict String (List String) :=
  r.get_all_extensions.foldl
    (fun missing_deps metadata => if (r.missing metadata).isEmpty then missing_deps else missing_deps.set metadata.name (r.missing metadata)) ∅

/-- Get extensions that depend on the given extension. -/
def get_dependents (r : ExtensionRegistry) (extension_name : String) : List String :=
  (r.get_all_extensions.filter fun metadata => extension_name ∈ metadata.dependencies).map ExtensionMetadata.name

/-- Every dependency of an extension is registered, stands before it in every load order, and knows
    it as a dependent. -/
def Agrees (r : ExtensionRegistry) : Prop :=
  ∀ metadata ∈ r.get_all_extensions, ∀ dependency ∈ metadata.dependencies, ∃ needed, r.get_extension dependency = some needed ∧
    (∀ unresolved_order visiting_order names, r.resolve_load_order unresolved_order visiting_order = some (.ok names) →
      names.idxOf needed.name < names.idxOf metadata.name) ∧
    metadata.name ∈ r.get_dependents needed.name

/-- The graph of names has a circle, or leads from one name to another. -/
def Leads (r : ExtensionRegistry) (name dependency : String) : Prop :=
  (∃ circular, Relation.TransGen r.DependsOn circular circular) ∨ Relation.TransGen r.DependsOn name dependency

/-- Every dependency, found by name or id, is also given by name: the graph leads to it, and an
    extension with the name of the dependent lists it. -/
def GivenByName (r : ExtensionRegistry) : Prop :=
  ∀ metadata ∈ r.get_all_extensions, ∀ dependency ∈ metadata.dependencies, ∀ needed, r.get_extension dependency = some needed →
    r.Leads metadata.name needed.name ∧ ∃ other ∈ r.get_all_extensions, other.name = metadata.name ∧ needed.name ∈ other.dependencies

/-! ## What is missing -/

theorem keys_validate (r : ExtensionRegistry) (name : String) :
    name ∈ r.validate_dependencies.keys ↔ ∃ metadata ∈ r.get_all_extensions, metadata.name = name ∧ r.missing metadata ≠ [] := by
  have loop : ∀ (all : List ExtensionMetadata) (found : Dict String (List String)),
      name ∈ (all.foldl (fun missing_deps metadata =>
        if (r.missing metadata).isEmpty then missing_deps else missing_deps.set metadata.name (r.missing metadata)) found).keys ↔
        name ∈ found.keys ∨ ∃ metadata ∈ all, metadata.name = name ∧ r.missing metadata ≠ [] := by
    intro all
    induction all with
    | nil => simp
    | cons metadata rest ih =>
      intro found
      rw [List.foldl_cons, ih]
      by_cases nothing : r.missing metadata = []
      · simp [nothing]
      · simp only [List.isEmpty_iff, nothing, ↓reduceIte, Dict.mem_keys_set, List.mem_cons, exists_eq_or_imp, ne_eq, not_false_eq_true, and_true]
        rw [or_assoc, or_left_comm, eq_comm]
  rw [validate_dependencies, loop]
  simp

/-- Nothing is missing where every dependency is found. -/
theorem nothing_missing {r : ExtensionRegistry} (valid : r.validate_dependencies.keys = []) {metadata : ExtensionMetadata}
    (member : metadata ∈ r.get_all_extensions) {dependency : String} (listed : dependency ∈ metadata.dependencies) :
    ∃ needed, r.get_extension dependency = some needed := by
  have empty : r.missing metadata = [] := by
    by_contra some_missing
    have := (r.keys_validate metadata.name).mpr ⟨metadata, member, rfl, some_missing⟩
    rw [valid] at this
    cases this
  have present := List.filter_eq_nil_iff.mp empty dependency listed
  rw [← Option.isSome_iff_exists]
  simpa [has_extension, Option.isSome_iff_ne_none] using present

/-! ## The views compared -/

theorem mem_get_dependents (r : ExtensionRegistry) (name dependency : String) :
    name ∈ r.get_dependents dependency ↔ ∃ metadata ∈ r.get_all_extensions, metadata.name = name ∧ dependency ∈ metadata.dependencies := by
  simp only [get_dependents, List.mem_map, List.mem_filter, decide_eq_true_eq]
  constructor
  · rintro ⟨metadata, ⟨member, listed⟩, named⟩
    exact ⟨metadata, member, named, listed⟩
  · rintro ⟨metadata, member, named, listed⟩
    exact ⟨metadata, ⟨member, listed⟩, named⟩

/-- An iteration that begins with a name, if it is there. -/
def starting_with (name : String) : SetOrder where
  iterate _ members := if name ∈ members then name :: members.erase name else members
  perm _ members := by
    split
    · exact (List.perm_cons_erase ‹_›).symm
    · exact List.Perm.refl _

theorem DependsOn.registered {r : ExtensionRegistry} {name dependency : String} (depends : r.DependsOn name dependency) : r.Registered name := by
  obtain ⟨-, metadata, last, -⟩ := depends
  exact (registered_iff_last_named r name).mpr ⟨metadata, last⟩

/-- What the graph leads to stands before, in every load order. -/
theorem before_of_path {r : ExtensionRegistry} {unresolved_order visiting_order : SetOrder} {names : List String} {name dependency : String}
    (resolved : r.resolve_load_order unresolved_order visiting_order = some (.ok names)) (path : Relation.TransGen r.DependsOn name dependency) :
    names.idxOf dependency < names.idxOf name := by
  have sorted := r.resolve_load_order_topological unresolved_order visiting_order
  rw [resolved] at sorted
  obtain ⟨-, -, before, -⟩ := sorted
  induction path with
  | single depends => exact before _ _ depends.registered depends
  | tail path depends ih => exact Nat.lt_trans (before _ _ depends.registered depends) ih

/-- A name that stands before another one in every load order is one that the graph leads to. -/
theorem leads_iff (r : ExtensionRegistry) {name : String} (registered : r.Registered name) (dependency : String) :
    r.Leads name dependency ↔ ∀ unresolved_order visiting_order names,
      r.resolve_load_order unresolved_order visiting_order = some (.ok names) → names.idxOf dependency < names.idxOf name := by
  constructor
  · rintro (⟨circular, circle⟩ | path) unresolved_order visiting_order names resolved
    · have sorted := r.resolve_load_order_topological unresolved_order visiting_order
      rw [resolved] at sorted
      exact absurd circle (sorted.2.2.2 circular)
    · exact before_of_path resolved path
  · intro ordered
    have sorted := r.resolve_load_order_topological (starting_with name) in_order
    cases resolved : r.resolve_load_order (starting_with name) in_order with
    | none =>
      rw [resolved] at sorted
      exact absurd sorted id
    | some answer =>
      cases answer with
      | error message =>
        rw [resolved] at sorted
        exact .inl sorted
      | ok names =>
        have before := ordered _ _ _ resolved
        have node := (r.mem_get_dependency_graph name).mpr registered
        unfold resolve_load_order at resolved
        split at resolved
        · next s answer =>
          simp only [Option.some.injEq, Except.ok.injEq] at resolved
          subst resolved
          have first : (starting_with name).iterate (DepthFirst.start r.get_dependency_graph).finished
              (DepthFirst.start r.get_dependency_graph).waiting = name :: r.get_dependency_graph.keys.erase name := if_pos node
          have path := DepthFirst.before_first first node answer before
          exact .inr (Relation.TransGen.mono (fun a b edge => (r.edge_iff a b).mp edge) _ _ path)
        · cases resolved
        · cases resolved

/-- Where nothing is missing, the views agree exactly if every dependency is given by name, directly
    or through others. -/
theorem agrees_iff (r : ExtensionRegistry) (valid : r.validate_dependencies.keys = []) : r.Agrees ↔ r.GivenByName := by
  have registered : ∀ metadata ∈ r.get_all_extensions, r.Registered metadata.name := fun metadata member => ⟨metadata, member, rfl⟩
  constructor
  · intro agrees metadata member dependency listed needed found
    obtain ⟨other, found', ordered, dependent⟩ := agrees metadata member dependency listed
    cases found.symm.trans found'
    exact ⟨(r.leads_iff (registered metadata member) _).mpr ordered, (r.mem_get_dependents _ _).mp dependent⟩
  · intro named metadata member dependency listed
    obtain ⟨needed, found⟩ := nothing_missing valid member listed
    obtain ⟨leads, dependent⟩ := named metadata member dependency listed needed found
    exact ⟨needed, found, (r.leads_iff (registered metadata member) _).mp leads, (r.mem_get_dependents _ _).mpr dependent⟩

/-- A view that needs a core extension by its id. -/
def by_id_needed : ExtensionRegistry := [⟨"views", ["id-2"], "id-1"⟩, ⟨"core", [], "id-2"⟩].foldl register_extension empty

def by_name_needed : ExtensionRegistry := [⟨"views", ["core"], "id-1"⟩, ⟨"core", [], "id-2"⟩].foldl register_extension empty

theorem by_name_agrees : by_name_needed.validate_dependencies.keys = [] ∧ (by_name_needed.Agrees ↔ by_name_needed.GivenByName) :=
  ⟨by decide +kernel, agrees_iff _ (by decide +kernel)⟩

/-- Nothing is missing, and the view is loaded first and not known as a dependent. -/
theorem id_overlooked : by_id_needed.validate_dependencies.keys = [] ∧
    by_id_needed.resolve_load_order in_order in_order = some (.ok ["views", "core"]) ∧ by_id_needed.get_dependents "core" = [] ∧
    ¬ by_id_needed.Agrees := by
  have resolved : by_id_needed.resolve_load_order in_order in_order = some (.ok ["views", "core"]) := by decide +kernel
  refine ⟨by decide +kernel, resolved, by decide +kernel, fun agrees => ?_⟩
  obtain ⟨needed, found, ordered, -⟩ := agrees ⟨"views", ["id-2"], "id-1"⟩ (by decide +kernel) "id-2" (by decide)
  have core : by_id_needed.get_extension "id-2" = some ⟨"core", [], "id-2"⟩ := by decide +kernel
  cases core.symm.trans found
  exact absurd (ordered in_order in_order _ resolved) (by decide)

end RevitPy.ExtensionRegistry
