import RevitPy.DeferredEvaluation

/-!
# Projections

A projected builder runs the same plan with one operation more, but it has lost the
element type: it asks the provider for all elements. The projection is that of the
query where both answers of the provider lead to the same elements, or the given
cache manager already answers so.
-/

namespace RevitPy
variable {α κ : Type}

/-- A new builder, and what calls other than `select` derive from it one after the
    other. -/
inductive Chained (start : Heap α κ) (element_type : Option ElementType) (cache_manager : Option Nat) : Heap α κ → Nat → Prop
  | new_builder : Chained start element_type cache_manager (start.new_builder element_type cache_manager).2
      (start.new_builder element_type cache_manager).1
  | call {h h' : Heap α κ} {q q' : Nat} (chained : Chained start element_type cache_manager h q) (c : FluentCall α κ)
      (keeps : c.isSelect = false) (called : h.call q c = .ok (q', h')) : Chained start element_type cache_manager h' q'

/-- What the given cache manager answers for a type and a plan. -/
def held (query_hash : List (String × String) → String) (start : Heap α κ) (cache_manager : Option Nat) (element_type : Option ElementType)
    (operations : List (QueryOperation α κ)) : Option (Data α) :=
  (cache_manager.bind fun r =>
    ((start.caches.read r).get start.clock (Heap.cache_key query_hash element_type (QueryPlan.optimize ⟨operations, .MEMORY⟩))).1).filter
      fun results => !results.value.is_none

/-- The elements of a result, or the exception. -/
def listed (results : Except QueryException (Data α)) : Except QueryException (List α) := results.bind fun results => results.value.elements

/-! ## Chains -/

/-- A builder that has not been executed, whose caches are new or the one that was
    given. -/
structure Plain (start : Heap α κ) (element_type : Option ElementType) (cache_manager : Option Nat) (h : Heap α κ) (q : Nat) : Prop where
  type : (h.builders.read q).element_type = element_type
  executor_type : (h.builders.read q).executor.element_type = element_type
  results : (h.builders.read q).executor.results = none
  strategy : (h.plan q).cache_strategy = .MEMORY
  given : ∀ r ∈ [(h.builders.read q).cache_manager, (h.builders.read q).executor.cache_manager], ∀ key,
    ((h.caches.read r).get h.clock key).1 = cache_manager.bind fun r => ((start.caches.read r).get start.clock key).1

variable {start h : Heap α κ} {element_type : Option ElementType} {cache_manager : Option Nat} {q : Nat}

theorem plain_new_builder (start : Heap α κ) (element_type : Option ElementType) (cache_manager : Option Nat) :
    Plain start element_type cache_manager (start.new_builder element_type cache_manager).2
      (start.new_builder element_type cache_manager).1 := by
  cases cache_manager with
  | some r =>
    refine ⟨?_, ?_, ?_, ?_, ?_⟩ <;>
      simp [Heap.new_builder, Heap.alloc_builder, Heap.alloc_plan, Heap.plan]
  | none =>
    refine ⟨?_, ?_, ?_, ?_, ?_⟩
    · simp [Heap.new_builder, Heap.alloc_builder, Heap.alloc_plan]
    · simp [Heap.new_builder, Heap.alloc_builder, Heap.alloc_plan]
    · simp [Heap.new_builder, Heap.alloc_builder, Heap.alloc_plan]
    · simp [Heap.new_builder, Heap.alloc_builder, Heap.alloc_plan, Heap.plan]
    · -- Both caches were made with the builder, and are empty.
      have empty (r : Nat) (among : r = start.caches.next ∨ r = start.caches.next + 1) :
          (((start.caches.alloc {}).alloc {}).read r : CacheManager (Data α)) = {} := by
        rcases among with rfl | rfl
        · rw [Store.read_alloc_old _ _ (Nat.lt_succ_self _), Store.read_alloc_new]
        · exact Store.read_alloc_new (start.caches.alloc {}) {}
      intro r among key
      simp only [Heap.new_builder, Heap.alloc_builder, Heap.alloc_plan, Store.read_alloc_new, List.mem_cons, List.not_mem_nil,
        or_false] at among ⊢
      rw [empty r among]
      rfl

theorem Chained.plain (chained : Chained start element_type cache_manager h q) : Plain start element_type cache_manager h q := by
  induction chained with
  | new_builder => exact plain_new_builder start element_type cache_manager
  | @call h h' q q' _ c keeps called plain =>
    rcases h.call_spec q c with ⟨_, _, raised⟩ | ⟨operation, _, _, accepted, made, derived⟩
    · rw [raised] at called
      cases called
    · rw [made] at called
      cases called
      rw [keeps] at derived
      have type := derived.element_type.trans (if_neg Bool.false_ne_true)
      refine ⟨type.trans plain.type, derived.executor_type.trans (type.trans plain.type), derived.results,
        derived.strategy.trans plain.strategy, ?_⟩
      rw [derived.cache_manager, derived.executor_cache, derived.caches, derived.clock]
      intro r among
      exact plain.given r (by simpa using Or.inl among)

/-! ## Execution -/

section
variable [DecidableEq α] [LinearOrder κ] (provider : Provider α) (query_hash : List (String × String) → String)

/-- What the provider answers for a type, after the operations of a query. -/
def answer (h : Heap α κ) (element_type : Option ElementType) (through : List α → List α) : Except QueryException (List α) :=
  match h.get_elements provider element_type with
  | .error e => .error (.QueryError ("Failed to execute query: " ++ e))
  | .ok elements => .ok (through elements)

omit [DecidableEq α] [LinearOrder κ] in
theorem answer_map (h : Heap α κ) (element_type : Option ElementType) (through further : List α → List α) :
    (answer provider h element_type through).map further = answer provider h element_type fun elements => further (through elements) := by
  unfold answer
  cases h.get_elements provider element_type <;> rfl

omit [DecidableEq α] [LinearOrder κ] in
/-- The text around an exception of the provider hides nothing of it. -/
theorem answer_eq_iff (h : Heap α κ) (T T' : Option ElementType) (through through' : List α → List α) :
    answer provider h T through = answer provider h T' through' ↔
      (h.get_elements provider T).map through = (h.get_elements provider T').map through' := by
  unfold answer
  generalize h.get_elements provider T = first
  generalize h.get_elements provider T' = second
  cases first <;> cases second <;> simp [Except.map]

/-- A query that has not been executed answers what the given cache manager does, or
    the provider. -/
theorem listed_to_list {operations : List (QueryOperation α κ)} (unexecuted : (h.builders.read q).executor.results = none)
    (strategy : (h.plan q).cache_strategy = .MEMORY) (typed : (h.builders.read q).executor.element_type = element_type)
    (planned : h.operations q = operations)
    (given : ∀ key, ((h.caches.read (h.builders.read q).executor.cache_manager).get h.clock key).1 =
      cache_manager.bind fun r => ((start.caches.read r).get start.clock key).1) :
    listed (h.to_list provider query_hash q).1 = match held query_hash start cache_manager element_type operations with
      | some results => results.value.elements
      | none => answer provider h element_type (optimized operations) := by
  subst typed planned
  have looked : (h.cached query_hash q (h.plan q).optimize).1 =
      held query_hash start cache_manager (h.builders.read q).executor.element_type (h.operations q) := by
    have cacheable : (h.plan q).optimize.cache_strategy ≠ .NONE := by
      rw [show (h.plan q).optimize.cache_strategy = (h.plan q).cache_strategy from rfl, strategy]
      exact fun equal => by cases equal
    rw [Heap.cached, if_neg cacheable, held, ← given]
    rfl
  rw [Heap.to_list]
  cases hit : (h.cached query_hash q (h.plan q).optimize).1 with
  | some results =>
    rw [Heap.execute_hit provider query_hash unexecuted hit, ← looked, hit]
    rfl
  | none =>
    have asked (T : Option ElementType) : (h.cached query_hash q (h.plan q).optimize).2.get_elements provider T = h.get_elements provider T := by
      simp only [Heap.get_elements, Heap.reads_cached]
    rw [Heap.execute_miss provider query_hash unexecuted hit, Heap.fetch_fst, asked, Heap.builders_cached, ← looked, hit]
    simp only [answer]
    cases h.get_elements provider (h.builders.read q).executor.element_type <;> rfl

omit [DecidableEq α] [LinearOrder κ] in
/-- The optimizer leaves a projection that comes last where it is. -/
theorem optimize_projected (operations : List (QueryOperation α κ)) (selector : Callback α α) :
    (QueryPlan.optimize ⟨operations ++ [.select selector], .MEMORY⟩).operations =
      (QueryPlan.optimize ⟨operations, .MEMORY⟩).operations ++ [.select selector] := by
  simp [QueryPlan.optimize, List.filter_append, QueryOperation.isFilter, QueryOperation.isSelect]

theorem optimized_projected (operations : List (QueryOperation α κ)) (selector : Callback α α) (elements : List α) :
    optimized (operations ++ [.select selector]) elements = (optimized operations elements).map selector.call := by
  rw [optimized, optimize_projected, apply_operations, Reorder.run_append]
  rfl

/-- The projection of a query, asked in a state, is the projection of its elements in
    that state. -/
def ProjectionLaw (h : Heap α κ) (q : Nat) (selector : Callback α α) : Prop :=
  listed ((h.select q selector).2.to_list provider query_hash (h.select q selector).1).1 =
    (listed (h.to_list provider query_hash q).1).map (List.map selector.call)

/-- All elements that the provider has lead through the query and the selector to what
    the elements of the type lead to, or the provider raises the same. -/
def TypeIrrelevant (h : Heap α κ) (q : Nat) (selector : Callback α α) (T : ElementType) : Prop :=
  (provider.get_all_elements h.reads).map (fun elements => (optimized (h.operations q) elements).map selector.call) =
    (provider.get_elements_of_type h.reads T).map fun elements => (optimized (h.operations q) elements).map selector.call

/-- Where neither query is in the given cache manager, there is no element type or it
    makes no difference. Where one is, what is held for it is what the other leads to. -/
def Carried (start : Heap α κ) (element_type : Option ElementType) (cache_manager : Option Nat) (h : Heap α κ) (q : Nat)
    (selector : Callback α α) : Prop :=
  match held query_hash start cache_manager element_type (h.operations q),
    held query_hash start cache_manager none (h.operations q ++ [.select selector]) with
  | none, none => ∀ T, element_type = some T → TypeIrrelevant provider h q selector T
  | some results, none =>
    answer provider h none (fun elements => (optimized (h.operations q) elements).map selector.call) = results.value.elements.map (List.map selector.call)
  | none, some projected =>
    projected.value.elements = answer provider h element_type fun elements => (optimized (h.operations q) elements).map selector.call
  | some results, some projected => projected.value.elements = results.value.elements.map (List.map selector.call)

variable {provider query_hash}

/-- A projection is that of its query exactly where the query's type and what caches
    hold are carried over. -/
theorem projection_law_iff (chained : Chained start element_type cache_manager h q) (selector : Callback α α) :
    ProjectionLaw provider query_hash h q selector ↔ Carried provider query_hash start element_type cache_manager h q selector := by
  have plain := chained.plain
  have derived := h.select_derived q selector
  have source := listed_to_list provider query_hash plain.results plain.strategy plain.executor_type rfl (plain.given _ (by simp))
  have untyped := derived.executor_type.trans (derived.element_type.trans (if_pos rfl))
  have given := plain.given (h.builders.read q).cache_manager (by simp)
  rw [← derived.executor_cache, ← derived.caches, ← derived.clock] at given
  have projected := listed_to_list provider query_hash derived.results (derived.strategy.trans plain.strategy) untyped derived.operations given
  have asked : answer provider (h.select q selector).2 none (optimized (h.operations q ++ [.select selector])) =
      answer provider h none fun elements => (optimized (h.operations q) elements).map selector.call := by
    rw [answer, Heap.get_elements, derived.reads, funext (optimized_projected (h.operations q) selector)]
    rfl
  rw [asked] at projected
  unfold ProjectionLaw Carried
  rw [source, projected]
  cases held query_hash start cache_manager element_type (h.operations q) with
  | some results =>
    cases held query_hash start cache_manager none (h.operations q ++ [.select selector]) <;> exact Iff.rfl
  | none =>
    cases held query_hash start cache_manager none (h.operations q ++ [.select selector]) with
    | some projected => simp only [answer_map]
    | none =>
      simp only [answer_map, answer_eq_iff]
      cases element_type with
      | none => exact iff_of_true rfl fun T typed => by cases typed
      | some T =>
        constructor
        · intro same T' typed
          cases typed
          exact same
        · intro irrelevant
          exact irrelevant T rfl

end

/-- A model of a wall and a door, which is asked for its walls. -/
def house : Provider Nat := ⟨fun _ => .ok [1, 2], fun _ _ => .ok [1], fun _ _ => .ok none⟩

theorem wall_heights :
    let walls : Heap Nat Nat := (Heap.init.new_builder (some ⟨0, "Wall"⟩) none).2
    ProjectionLaw house (fun _ => "") walls 0 ⟨fun n => n + 1, "height"⟩ ↔
      Carried house (fun _ => "") Heap.init (some ⟨0, "Wall"⟩) none walls 0 ⟨fun n => n + 1, "height"⟩ :=
  projection_law_iff .new_builder ⟨fun n => n + 1, "height"⟩

/-- The heights of the walls include that of the door. -/
theorem door_projected :
    ¬∀ (provider : Provider Nat) (query_hash : List (String × String) → String) (start : Heap Nat Nat) (element_type : Option ElementType)
        (cache_manager : Option Nat) (h : Heap Nat Nat) (q : Nat) (selector : Callback Nat Nat),
      Chained start element_type cache_manager h q → ProjectionLaw provider query_hash h q selector := by
  intro law
  let walls : Heap Nat Nat := (Heap.init.new_builder (some ⟨0, "Wall"⟩) none).2
  let height : Callback Nat Nat := ⟨fun n => n + 1, "height"⟩
  have projected : ProjectionLaw house (fun _ => "") walls 0 height :=
    law house (fun _ => "") Heap.init (some ⟨0, "Wall"⟩) none _ _ height .new_builder
  have heights : listed ((walls.select 0 height).2.to_list house (fun _ => "") (walls.select 0 height).1).1 = .ok [2, 3] := by decide +kernel
  have listed_walls : listed (walls.to_list house (fun _ => "") 0).1 = .ok [1] := by decide +kernel
  rw [ProjectionLaw, heights, listed_walls] at projected
  cases projected

end RevitPy
