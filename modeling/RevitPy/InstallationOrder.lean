import RevitPy.Resolver

/-!
# The order of installation

The degrees are counted on the dependencies, so the sort emits a package before
what it depends on. Cycles are left out of the order, and no conflict reports
them: the stack that is searched for them is empty between requests.
-/

namespace RevitPy.DependencyResolver
variable {u : CaseTable}

/-- A resolved package names another one, or itself, among its dependencies. -/
def DependsOn (resolved_packages : Dict String (PackageSpec u)) (p d : String) : Prop :=
  ∃ spec dep_name, resolved_packages.get? p = some spec ∧ dep_name ∈ spec.dependencies.keys ∧
    PackageSpec.normalize_name u dep_name = d ∧ d ∈ resolved_packages.keys

/-- The packages resolved depend on each other in a cycle. -/
def Cyclic (resolved_packages : Dict String (PackageSpec u)) : Prop :=
  ∃ p, Relation.TransGen (DependsOn resolved_packages) p p

/-- Every resolved package is installed once, after all that it depends on. -/
def DependenciesFirst (result : ResolutionResult u) : Prop :=
  result.installation_order.Perm result.resolved_packages.keys ∧
    ∀ p d, DependsOn result.resolved_packages p d →
      result.installation_order.idxOf d < result.installation_order.idxOf p

theorem keys_dependency_graph (resolved_packages : Dict String (PackageSpec u)) :
    (dependency_graph resolved_packages).keys = resolved_packages.keys := by
  simp [dependency_graph, Dict.keys]

theorem edge_iff (resolved_packages : Dict String (PackageSpec u)) (p d : String) :
    Kahn.Edge (dependency_graph resolved_packages) p d ↔ DependsOn resolved_packages p d := by
  have next {spec : PackageSpec u} (found : resolved_packages.get? p = some spec) :
      Kahn.next (dependency_graph resolved_packages) p =
        (spec.dependencies.keys.map (PackageSpec.normalize_name u)).filter
          fun dep_name => dep_name ∈ resolved_packages.keys :=
    Kahn.next_of_mem (List.mem_map.mpr ⟨(p, spec), (resolved_packages.get?_some_iff p spec).mp found, rfl⟩)
  unfold Kahn.Edge
  rw [keys_dependency_graph]
  constructor
  · rintro ⟨node, target, listed⟩
    obtain ⟨spec, found⟩ := (resolved_packages.mem_keys_iff p).mp node
    rw [next found, List.mem_filter, List.mem_map] at listed
    obtain ⟨⟨dep_name, member, normal⟩, -⟩ := listed
    exact ⟨spec, dep_name, found, member, normal, target⟩
  · rintro ⟨spec, dep_name, found, member, normal, target⟩
    refine ⟨Dict.mem_keys_of_get? found, target, ?_⟩
    rw [next found, List.mem_filter, List.mem_map]
    exact ⟨⟨dep_name, member, normal⟩, by simpa using target⟩

theorem acyclic_iff (resolved_packages : Dict String (PackageSpec u)) :
    Kahn.Acyclic (dependency_graph resolved_packages) ↔ ¬Cyclic resolved_packages := by
  have same : Kahn.Edge (dependency_graph resolved_packages) = DependsOn resolved_packages := by
    funext p d
    exact propext (edge_iff resolved_packages p d)
  rw [Kahn.Acyclic, same, Cyclic, not_exists]

theorem order_of_answer {P : Packaging} {r : DependencyResolver u} {requirements : Dict String String}
    {extras : Dict String (List String)} {result : ResolutionResult u}
    (answer : r.resolve_dependencies P requirements extras = .ok result) :
    result.installation_order = calculate_installation_order result.resolved_packages := by
  obtain ⟨s, -, -, resolved, -, order⟩ := resolve_induction answer (fun _ => True) trivial (by simp)
  rw [order, resolved]

/-- The sort puts a package before its dependencies. -/
theorem dependencies_last (resolved_packages : Dict String (PackageSpec u)) {p d : String}
    (depends : DependsOn resolved_packages p d) (listed : d ∈ calculate_installation_order resolved_packages) :
    (calculate_installation_order resolved_packages).idxOf p < (calculate_installation_order resolved_packages).idxOf d :=
  (Kahn.order_before _ ((edge_iff resolved_packages p d).mpr depends) listed).2

/-- Where the packages resolved have no cycle, they are all installed, after
    their dependencies exactly when none of them depends on another. -/
theorem dependencies_first_iff (P : Packaging) (r : DependencyResolver u) (requirements : Dict String String)
    (extras : Dict String (List String)) (result : ResolutionResult u)
    (answer : r.resolve_dependencies P requirements extras = .ok result)
    (acyclic : ¬Cyclic result.resolved_packages) :
    DependenciesFirst result ↔ ∀ p d, ¬DependsOn result.resolved_packages p d := by
  have order := order_of_answer answer
  have complete : result.installation_order.Perm result.resolved_packages.keys := by
    rw [order, ← keys_dependency_graph]
    exact Kahn.order_perm_of_acyclic _ ((acyclic_iff _).mpr acyclic)
  constructor
  · rintro ⟨-, first⟩ p d depends
    have known : d ∈ result.resolved_packages.keys := by
      obtain ⟨_, _, _, _, _, known⟩ := depends
      exact known
    have listed : d ∈ calculate_installation_order result.resolved_packages := by
      rw [← order]
      exact complete.mem_iff.mpr known
    have last := dependencies_last _ depends listed
    rw [← order] at last
    exact Nat.lt_asymm (first p d depends) last
  · intro independent
    exact ⟨complete, fun p d depends => absurd depends (independent p d)⟩

/-- An application and the library that it needs. -/
def application : PackageSpec CaseTable.ascii :=
  PackageSpec.make CaseTable.ascii "app" "1.0" (Dict.ofList [("lib", "*")]) ∅

def library : PackageSpec CaseTable.ascii := PackageSpec.make CaseTable.ascii "lib" "1.0" ∅ ∅

def shop : DependencyResolver CaseTable.ascii :=
  ((init CaseTable.ascii "3.11.0" "2025" false true).register_available_package application).register_available_package
    library

theorem library_first :
    DependenciesFirst (u := CaseTable.ascii) ⟨Dict.ofList [("lib", library)], [], ["lib"]⟩ ↔
      ∀ p d, ¬DependsOn (Dict.ofList [("lib", library)]) p d :=
  dependencies_first_iff Packaging.releases shop (Dict.ofList [("lib", "*")]) ∅ _ rfl
    ((acyclic_iff _).mp ((Kahn.complete_iff_acyclic _).mp (by decide)))

/-- The application is installed before its library. -/
theorem application_first : ∃ result,
    shop.resolve_dependencies Packaging.releases (Dict.ofList [("app", "*")]) ∅ = .ok result ∧
      ¬Cyclic result.resolved_packages ∧ ¬DependenciesFirst result := by
  refine ⟨⟨Dict.ofList [("app", application), ("lib", library)], [], ["app", "lib"]⟩, rfl, ?_, ?_⟩
  · exact (acyclic_iff _).mp ((Kahn.complete_iff_acyclic _).mp (by decide))
  · rintro ⟨-, first⟩
    have less := first "app" "lib" ⟨application, "lib", rfl, by decide, by decide, by decide⟩
    revert less
    decide

/-! ## Cycles -/

/-- No request is found on the stack, so no cycle is reported. -/
theorem no_circular_dependency {P : Packaging} {r : DependencyResolver u} {requirements : Dict String String}
    {extras : Dict String (List String)} {result : ResolutionResult u}
    (answer : r.resolve_dependencies P requirements extras = .ok result) :
    ∀ c ∈ result.conflicts, c.type ≠ .CIRCULAR_DEPENDENCY := by
  obtain ⟨s, inv, -, -, conflicts, -⟩ := resolve_induction answer
    (fun s => ∀ c ∈ s.conflicts, c.type ≠ .CIRCULAR_DEPENDENCY) (by simp [start_state]) (by
      intro s t request rest inv _ fresh round
      cases round with
      | circular stacked => exact absurd stacked fresh
      | settled => exact inv
      | conflict | missing =>
        intro c member
        rcases List.mem_append.mp member with old | new
        · exact inv c old
        · rw [List.mem_singleton.mp new]
          simp [version_conflict, missing_dependency]
      | selected => exact inv)
  rw [conflicts]
  exact inv

/-- What is asked of a result: a cycle among the packages resolved is reported
    and fails the resolution, and a successful one installs every package. -/
def ReportsCycles (result : ResolutionResult u) : Prop :=
  (Cyclic result.resolved_packages →
    (∃ c ∈ result.conflicts, c.type = .CIRCULAR_DEPENDENCY) ∧ result.is_successful = false) ∧
  (result.is_successful = true → ∀ p ∈ result.resolved_packages.keys, p ∈ result.installation_order)

/-- Cycles are never reported, so the result is right exactly when the packages
    resolved have none. -/
theorem reports_cycles_iff (P : Packaging) (r : DependencyResolver u) (requirements : Dict String String)
    (extras : Dict String (List String)) (result : ResolutionResult u)
    (answer : r.resolve_dependencies P requirements extras = .ok result) :
    ReportsCycles result ↔ ¬Cyclic result.resolved_packages := by
  constructor
  · rintro ⟨reported, -⟩ cyclic
    obtain ⟨⟨c, member, type⟩, -⟩ := reported cyclic
    exact no_circular_dependency answer c member type
  · intro acyclic
    refine ⟨fun cyclic => absurd cyclic acyclic, fun _ => ?_⟩
    have complete := (Kahn.complete_iff_acyclic _).mpr ((acyclic_iff result.resolved_packages).mpr acyclic)
    rw [keys_dependency_graph] at complete
    rw [order_of_answer answer]
    exact complete

theorem library_reported :
    ReportsCycles (u := CaseTable.ascii) ⟨Dict.ofList [("lib", library)], [], ["lib"]⟩ ↔
      ¬Cyclic (Dict.ofList [("lib", library)]) :=
  reports_cycles_iff Packaging.releases shop (Dict.ofList [("lib", "*")]) ∅ _ rfl

/-- A package that depends on itself. -/
def ouroboros : PackageSpec CaseTable.ascii :=
  PackageSpec.make CaseTable.ascii "lib" "2.0" (Dict.ofList [("lib", "*")]) ∅

/-- A package that depends on itself is resolved without conflict and not installed. -/
theorem ouroboros_unreported : ∃ result,
    (shop.register_available_package ouroboros).resolve_dependencies Packaging.releases
        (Dict.ofList [("lib", "*")]) ∅ = .ok result ∧ ¬ReportsCycles result := by
  refine ⟨⟨Dict.ofList [("lib", ouroboros)], [], []⟩, rfl, ?_⟩
  rintro ⟨-, complete⟩
  have installed := complete (by decide) "lib" (by decide)
  revert installed
  decide

end RevitPy.DependencyResolver
