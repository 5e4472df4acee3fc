import RevitPy.ElementSet

/-!
# Deferred evaluation

A chain of calls on a set with a builder executes the query before every call.
As long as there are results the next call is deferred, and what is executed in
the end is an optimized plan. On a materialized set every call makes its list at
once. Either evaluation is that of a function on lists, without builders and
caches.
-/

namespace RevitPy

open QueryOperation

variable {α κ : Type} [DecidableEq α] [LinearOrder κ]

namespace FluentCall

/-- What a call makes of a list at once. -/
def eager : FluentCall α κ → List α → List α
  | .where predicate, elements => elements.filter predicate.call
  | .select selector, elements => elements.map selector.call
  | .order_by key_selector, elements => sorted key_selector.call false elements
  | .order_by_descending key_selector, elements => sorted key_selector.call true elements
  | .skip count, elements => elements.drop (slice_index elements.length count)
  | .take count, elements => elements.take (slice_index elements.length count)
  | .distinct none, elements => distinct_generator id [] elements
  | .distinct (some key_selector), elements => distinct_generator key_selector.call [] elements

/-- A call that a builder accepts does the same to a list as its operation. -/
theorem eager_operation {c : FluentCall α κ} {operation : QueryOperation α κ} (accepted : c.operation = .ok operation)
    (elements : List α) : c.eager elements = apply_operation operation elements := by
  cases c with
  | skip count =>
    simp only [FluentCall.operation] at accepted
    split at accepted
    · cases accepted
    · next unsigned =>
      cases accepted
      show elements.drop (slice_index elements.length count) = elements.drop count.toNat
      rw [slice_index, if_neg unsigned]
  | take count =>
    simp only [FluentCall.operation] at accepted
    split at accepted
    · cases accepted
    · next positive =>
      cases accepted
      show elements.take (slice_index elements.length count) = elements.take count.toNat
      rw [slice_index, if_neg (by omega)]
  | «where» | select | order_by | order_by_descending => cases accepted; rfl
  | distinct key_selector => cases accepted; cases key_selector <;> rfl

end FluentCall

/-- The list after all calls of a chain, one by one. -/
def eager_chain (cs : List (FluentCall α κ)) (elements : List α) : List α := cs.foldl (fun elements c => c.eager elements) elements

/-- The results of an optimized plan with these operations. -/
def optimized (operations : List (QueryOperation α κ)) (elements : List α) : List α :=
  apply_operations (QueryPlan.optimize ⟨operations, .MEMORY⟩).operations elements

/-- The chain on a set with a builder whose plan has these operations, with the
    executions replaced by what they result in. -/
def deferred_chain (elements : List α) : List (QueryOperation α κ) → List (FluentCall α κ) → Except QueryException (List α)
  | operations, [] => .ok (optimized operations elements)
  | operations, c :: rest =>
    if optimized operations elements = [] then .ok (eager_chain (c :: rest) [])
    else match c.operation with
      | .error e => .error e
      | .ok operation => deferred_chain elements (operations ++ [operation]) rest

/-! ## Evaluation on a materialized set -/

namespace ElementSet
variable (provider : Provider α) (query_hash : List (String × String) → String)

/-- All fluent methods are of one form. -/
theorem call_eq (s : ElementSet α) (h : Heap α κ) (c : FluentCall α κ) :
    s.call provider query_hash h c = s.fluent provider query_hash h (fun h b => h.call b c) c.eager := by
  cases c with
  | distinct key_selector => cases key_selector <;> rfl
  | _ => rfl

theorem evaluate_materialized (elements : List α) (h : Heap α κ) (cs : List (FluentCall α κ)) :
    (materialized elements).evaluate provider query_hash h cs = (.ok (eager_chain cs elements), h) := by
  induction cs generalizing elements with
  | nil => rfl
  | cons c rest ih =>
    rw [evaluate, call_eq]
    exact ih (c.eager elements)

end ElementSet

/-! ## Evaluation with a builder -/

/-- The provider answers every read with these elements. -/
def Provider.Returns (provider : Provider α) (elements : List α) : Prop :=
  ∀ n, provider.get_all_elements n = .ok elements ∧ ∀ element_type, provider.get_elements_of_type n element_type = .ok elements

omit [DecidableEq α] [LinearOrder κ] in
theorem Provider.Returns.get_elements {provider : Provider α} {elements : List α} (returns : provider.Returns elements)
    (h : Heap α κ) (element_type : Option ElementType) : h.get_elements provider element_type = .ok elements := by
  cases element_type with
  | none => exact (returns h.reads).1
  | some element_type => exact (returns h.reads).2 element_type

section
variable (query_hash : List (String × String) → String) (element_type : Option ElementType)

/-- The text under which the results of a plan with these operations are cached. -/
def plan_key (operations : List (QueryOperation α κ)) : String :=
  (Heap.cache_key query_hash element_type (QueryPlan.optimize ⟨operations, .MEMORY⟩)).str

/-- The operations of the plans that a chain executes, in order. -/
def plans_of : List (QueryOperation α κ) → List (FluentCall α κ) → List (List (QueryOperation α κ))
  | operations, [] => [operations]
  | operations, c :: rest => operations :: match c.operation with
    | .error _ => []
    | .ok operation => plans_of (operations ++ [operation]) rest

/-- Two plans have different cache keys, whether they keep the element type or have
    lost it to a projection. -/
def Apart (p q : List (QueryOperation α κ)) : Prop :=
  ∀ T ∈ [element_type, none], ∀ U ∈ [element_type, none], plan_key query_hash T p ≠ plan_key query_hash U q

/-- No two plans that the chain executes have the same cache key. -/
def CollisionFree (cs : List (FluentCall α κ)) : Prop := (plans_of [] cs).Pairwise (Apart query_hash element_type)

/-- A builder before its execution: none of the plans that are still to be executed
    has results in its caches. -/
structure Pending (h : Heap α κ) (b : Nat) (operations : List (QueryOperation α κ)) (cs : List (FluentCall α κ)) : Prop where
  listed : h.operations b = operations
  unexecuted : (h.builders.read b).executor.results = none
  builder_type : (h.builders.read b).element_type ∈ [element_type, none]
  executor_type : (h.builders.read b).executor.element_type ∈ [element_type, none]
  absent : ∀ r ∈ [(h.builders.read b).cache_manager, (h.builders.read b).executor.cache_manager],
    ∀ T ∈ [element_type, none], ∀ p ∈ plans_of operations cs, (h.caches.read r).lookup (plan_key query_hash T p) = none

end

section
variable {provider : Provider α} {query_hash : List (String × String) → String} {element_type : Option ElementType}
  {elements : List α} {h : Heap α κ} {b : Nat} {operations : List (QueryOperation α κ)} {cs : List (FluentCall α κ)}

omit [DecidableEq α] [LinearOrder κ] in
theorem mem_plans_of (operations : List (QueryOperation α κ)) (cs : List (FluentCall α κ)) :
    operations ∈ plans_of operations cs := by cases cs <;> simp [plans_of]

theorem optimized_plan (h : Heap α κ) (b : Nat) (elements : List α) :
    apply_operations (h.plan b).optimize.operations elements = optimized (h.operations b) elements := rfl

omit [DecidableEq α] [LinearOrder κ] in
theorem plan_key_plan (h : Heap α κ) (b : Nat) (T : Option ElementType) :
    (Heap.cache_key query_hash T (h.plan b).optimize).str = plan_key query_hash T (h.operations b) := rfl

/-- The execution of a pending builder asks the provider. -/
theorem Pending.execute (pending : Pending query_hash element_type h b operations cs) (returns : provider.Returns elements) :
    (h.execute provider query_hash b).1 = .ok ⟨.list (optimized operations elements), h.reads⟩ := by
  have executed := h.execute_executed provider query_hash b
  cases outcome : (h.execute provider query_hash b).1 with
  | error e =>
    obtain ⟨message, answer⟩ := executed.raised e outcome
    rw [returns.get_elements] at answer
    cases answer
  | ok results =>
    cases executed.source results outcome with
    | kept found =>
      rw [pending.unexecuted] at found
      cases found
    | cached _ entry found =>
      rw [plan_key_plan, pending.listed] at found
      rw [pending.absent _ (by simp) _ pending.executor_type _ (mem_plans_of operations cs)] at found
      cases found
    | fetched _ answered answer value =>
      rw [returns.get_elements] at answer
      cases answer
      rw [value, optimized_plan, pending.listed]

/-- The heap after the execution of a pending builder. -/
theorem Pending.kept (pending : Pending query_hash element_type h b operations cs) (returns : provider.Returns elements) :
    ((h.execute provider query_hash b).2.builders.read b).executor.results =
      some ⟨.list (optimized operations elements), h.reads⟩ := by
  obtain ⟨results, builder, same⟩ := (h.execute_executed provider query_hash b).builder
  rw [builder]
  exact (same _).mpr (pending.execute returns)

end

namespace ElementSet
variable {provider : Provider α} {query_hash : List (String × String) → String} {element_type : Option ElementType}
  {elements : List α} {h : Heap α κ} {b : Nat} {operations : List (QueryOperation α κ)} {cs : List (FluentCall α κ)}

theorem backed_kept {n : Nat} (kept : (h.builders.read b).executor.results = some ⟨.list elements, n⟩) :
    (from_query b).backed provider query_hash h = (.ok (if 0 < elements.length then some b else none), h) := by
  simp only [backed, from_query, Heap.count, Heap.execute_kept provider query_hash kept]
  rfl

theorem to_list_kept {n : Nat} (kept : (h.builders.read b).executor.results = some ⟨.list elements, n⟩) :
    (from_query b).to_list provider query_hash h = (.ok elements, h) := by
  rw [to_list, ensure_materialized, if_neg (by simp [from_query]), backed_kept kept]
  cases elements with
  | nil => rfl
  | cons first rest =>
    simp only [List.length_cons, Nat.zero_lt_succ, if_true, Heap.to_list, Heap.execute_kept provider query_hash kept]
    rfl

theorem fluent_kept_empty {n : Nat} (kept : (h.builders.read b).executor.results = some ⟨.list [], n⟩)
    (deferred : Heap α κ → Nat → Except QueryException (Nat × Heap α κ)) (eager : List α → List α) :
    (from_query b).fluent provider query_hash h deferred eager = (.ok (materialized (eager [])), h) := by
  rw [fluent, backed_kept kept]
  simp only [List.length_nil, Nat.lt_irrefl, if_false, ensure_materialized, backed_kept kept]
  rfl

theorem fluent_kept {n : Nat} (kept : (h.builders.read b).executor.results = some ⟨.list elements, n⟩)
    (nonempty : elements ≠ []) (deferred : Heap α κ → Nat → Except QueryException (Nat × Heap α κ)) (eager : List α → List α) :
    (from_query b).fluent provider query_hash h deferred eager = match deferred h b with
      | .error e => (.error e, h)
      | .ok (new_builder, h) => (.ok (from_query new_builder), h) := by
  have positive := List.length_pos_of_ne_nil nonempty
  cases made : deferred h b with
  | error e => simp only [fluent, backed_kept kept, if_pos positive, made]
  | ok result => simp only [fluent, backed_kept kept, if_pos positive, made]

/-- The first look at a pending builder executes it; after that it is kept. -/
theorem backed_pending (pending : Pending query_hash element_type h b operations cs) (returns : provider.Returns elements) :
    (from_query b).backed provider query_hash h =
      (from_query b).backed provider query_hash (h.execute provider query_hash b).2 := by
  have first : h.count provider query_hash b = (.ok (optimized operations elements).length, (h.execute provider query_hash b).2) := by
    simp only [Heap.count, pending.execute returns]
    rfl
  rw [backed_kept (pending.kept returns)]
  simp only [backed, from_query, first]
  rfl

end ElementSet

/-- The heap after the execution of a pending builder and a call that derives
    another one from it: that one is pending. -/
theorem Pending.derived {provider : Provider α} {query_hash : List (String × String) → String}
    {element_type : Option ElementType} {h h' : Heap α κ} {b b' : Nat}
    {operations : List (QueryOperation α κ)} {cs : List (FluentCall α κ)} {c : FluentCall α κ} {operation : QueryOperation α κ}
    (pending : Pending query_hash element_type h b operations (c :: cs)) (accepted : c.operation = .ok operation)
    (free : (plans_of operations (c :: cs)).Pairwise (Apart query_hash element_type))
    (derived : Heap.Derived (h.execute provider query_hash b).2 b c.isSelect operation b' h') :
    Pending query_hash element_type h' b' (operations ++ [operation]) cs := by
  have executed := h.execute_executed provider query_hash b
  obtain ⟨results, builder, _⟩ := executed.builder
  have same : (h.execute provider query_hash b).2.operations b = operations := by
    rw [← pending.listed]
    simp only [Heap.operations, Heap.plan, builder, executed.plans]
  have type : (h'.builders.read b').element_type ∈ [element_type, none] := by
    rw [derived.element_type]
    split
    · simp
    · rw [builder]
      exact pending.builder_type
  have later : ∀ p ∈ plans_of (operations ++ [operation]) cs, p ∈ plans_of operations (c :: cs) ∧
      Apart query_hash element_type operations p := by
    intro p member
    simp only [plans_of, accepted] at free ⊢
    exact ⟨List.mem_cons_of_mem _ member, (List.pairwise_cons.mp free).1 p member⟩
  refine ⟨by rw [derived.operations, same], derived.results, type, derived.executor_type ▸ type, ?_⟩
  intro r listed T member p future
  have manager : r = (h.builders.read b).cache_manager := by
    rw [derived.cache_manager, derived.executor_cache, builder] at listed
    simpa using listed
  rw [derived.caches]
  cases found : ((h.execute provider query_hash b).2.caches.read r).lookup (plan_key query_hash T p) with
  | none => rfl
  | some entry =>
    rcases executed.caches r _ entry found with ⟨old, stored, _⟩ | ⟨_, key, _⟩
    · rw [pending.absent r (by simp [manager]) T member p (later p future).1] at stored
      cases stored
    · rw [plan_key_plan, pending.listed] at key
      exact absurd key.symm ((later p future).2 _ pending.executor_type T member)

/-- Evaluation with a builder, without its objects and caches. -/
theorem evaluate_deferred {provider : Provider α} {query_hash : List (String × String) → String}
    {element_type : Option ElementType} {elements : List α} (returns : provider.Returns elements) (cs : List (FluentCall α κ))
    {h : Heap α κ} {b : Nat} {operations : List (QueryOperation α κ)}
    (free : (plans_of operations cs).Pairwise (Apart query_hash element_type))
    (pending : Pending query_hash element_type h b operations cs) :
    ((ElementSet.from_query b).evaluate provider query_hash h cs).1 = deferred_chain elements operations cs := by
  have kept := pending.kept returns
  have looked := ElementSet.backed_pending pending returns
  induction cs generalizing h b operations with
  | nil =>
    have same : (ElementSet.from_query b).to_list provider query_hash h =
        (ElementSet.from_query b).to_list provider query_hash (h.execute provider query_hash b).2 := by
      have unmaterialized : ¬(ElementSet.from_query b : ElementSet α).is_materialized = true := Bool.false_ne_true
      simp only [ElementSet.to_list, ElementSet.ensure_materialized, looked, if_neg unmaterialized]
    rw [ElementSet.evaluate, same, ElementSet.to_list_kept kept]
    rfl
  | cons c rest ih =>
    have same : (ElementSet.from_query b).call provider query_hash h c =
        (ElementSet.from_query b).fluent provider query_hash (h.execute provider query_hash b).2 (fun h b => h.call b c) c.eager := by
      simp only [ElementSet.call_eq, ElementSet.fluent, looked]
    rw [ElementSet.evaluate, same, deferred_chain]
    by_cases empty : optimized operations elements = []
    · rw [empty] at kept
      rw [ElementSet.fluent_kept_empty kept, if_pos empty]
      simp only [ElementSet.evaluate_materialized]
      rfl
    · rw [ElementSet.fluent_kept kept empty, if_neg empty]
      rcases (h.execute provider query_hash b).2.call_spec b c with ⟨e, refused, raised⟩ | ⟨operation, b', h', accepted, made, derived⟩
      · simp only [refused, raised]
      · have free' : (plans_of (operations ++ [operation]) rest).Pairwise (Apart query_hash element_type) := by
          simp only [plans_of, accepted] at free
          exact (List.pairwise_cons.mp free).2
        have pending' := pending.derived accepted free derived
        simp only [accepted, made]
        exact ih free' pending' (pending'.kept returns) (ElementSet.backed_pending pending' returns)

omit [DecidableEq α] [LinearOrder κ] in
/-- A new builder is pending where its cache manager, if it is given one, is empty. -/
theorem pending_new (query_hash : List (String × String) → String) (element_type : Option ElementType) (h : Heap α κ)
    (cache_manager : Option Nat) (empty : ∀ r ∈ cache_manager, (h.caches.read r).size = 0) (cs : List (FluentCall α κ)) :
    Pending query_hash element_type (h.new_builder element_type cache_manager).2 (h.new_builder element_type cache_manager).1 []
      cs := by
  refine ⟨?_, ?_, ?_, ?_, fun r listed T _ p _ => ?_⟩
  · cases cache_manager <;> simp [Heap.new_builder, Heap.alloc_builder, Heap.alloc_plan, Heap.operations, Heap.plan]
  · cases cache_manager <;> simp [Heap.new_builder, Heap.alloc_builder, Heap.alloc_plan]
  · cases cache_manager <;> simp [Heap.new_builder, Heap.alloc_builder, Heap.alloc_plan]
  · cases cache_manager <;> simp [Heap.new_builder, Heap.alloc_builder, Heap.alloc_plan]
  · cases cache_manager with
    | none =>
      have new : ((h.caches.alloc {}).alloc {}).read r = {} := by
        simp only [Heap.new_builder, Heap.alloc_builder, Heap.alloc_plan, Store.read_alloc_new, List.mem_cons, List.not_mem_nil,
          or_false] at listed
        rcases listed with rfl | rfl
        · rw [Store.read_alloc_old _ _ (Nat.lt_succ_self _), Store.read_alloc_new]
        · exact Store.read_alloc_new _ _
      simp only [Heap.new_builder, Heap.alloc_builder, Heap.alloc_plan, new]
      rfl
    | some c =>
      simp only [Heap.new_builder, Heap.alloc_builder, Heap.alloc_plan, Store.read_alloc_new, List.mem_cons, List.not_mem_nil,
        or_false, or_self] at listed
      have none_stored : (h.caches.read r).backend.cache.entries = [] := List.length_eq_zero_iff.mp (empty r (listed ▸ rfl))
      show Dict.find (h.caches.read r).backend.cache.entries _ = none
      rw [none_stored]
      rfl

end RevitPy
