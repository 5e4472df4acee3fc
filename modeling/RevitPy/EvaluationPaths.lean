import RevitPy.DeferredEvaluation

/-!
# The two evaluations of an element set

A chain of calls on a set with a builder and on a materialized set have the same
outcome as long as builders accept the counts and no operation clashes with a
later one.
-/

namespace RevitPy

open QueryOperation

variable {α κ : Type} [DecidableEq α] [LinearOrder κ]

/-! ## Agreement -/

/-- The sort of the operation, or why a builder refuses the count. -/
inductive FluentCall.Shape
  | accepted (kind : Kind)
  | negative_skip
  | unpositive_take

def FluentCall.shape : FluentCall α κ → Shape
  | .where _ => .accepted .filter
  | .select _ => .accepted .select
  | .order_by _ | .order_by_descending _ => .accepted .order_by
  | .skip count => if count < 0 then .negative_skip else .accepted .skip
  | .take count => if count ≤ 0 then .unpositive_take else .accepted .take
  | .distinct none => .accepted .distinct_identity
  | .distinct (some _) => .accepted .distinct_key

omit [DecidableEq α] [LinearOrder κ] in
theorem operation_of_shape {c : FluentCall α κ} {kind : Kind} (shape : c.shape = .accepted kind) :
    ∃ operation : QueryOperation α κ, c.operation = .ok operation ∧ operation.kind = kind := by
  cases c with
  | skip count =>
    simp only [FluentCall.shape] at shape
    split at shape
    · cases shape
    · next unsigned =>
      cases shape
      exact ⟨.skip count.toNat, if_neg unsigned, rfl⟩
  | take count =>
    simp only [FluentCall.shape] at shape
    split at shape
    · cases shape
    · next positive =>
      cases shape
      exact ⟨.take count.toNat, if_neg positive, rfl⟩
  | «where» | select | order_by | order_by_descending => cases shape; exact ⟨_, rfl, rfl⟩
  | distinct key_selector => cases key_selector <;> cases shape <;> exact ⟨_, rfl, rfl⟩

/-- Where no operation clashes with a later one, the deferred chain gives what the
    eager one gives. -/
theorem deferred_sound (elements : List α) (cs : List (FluentCall α κ)) (operations : List (QueryOperation α κ)) (kinds : List Kind)
    (shapes : cs.map FluentCall.shape = kinds.map .accepted)
    (sound : (operations.map QueryOperation.kind ++ kinds).Pairwise fun a b => ¬Clash a b) :
    deferred_chain elements operations cs = .ok (eager_chain cs (apply_operations operations elements)) := by
  have executed : optimized operations elements = apply_operations operations elements :=
    optimize_sound ⟨operations, .MEMORY⟩ (sound.sublist (List.sublist_append_left _ _)) elements
  induction cs generalizing operations kinds with
  | nil => rw [deferred_chain, executed]; rfl
  | cons c rest ih =>
    cases kinds with
    | nil => cases shapes
    | cons kind kinds =>
      obtain ⟨shape, shapes'⟩ := List.cons.inj shapes
      obtain ⟨operation, accepted, rfl⟩ := operation_of_shape shape
      rw [deferred_chain, executed]
      split
      · next empty => rw [empty]
      · have sound' : ((operations ++ [operation]).map QueryOperation.kind ++ kinds).Pairwise fun a b => ¬Clash a b := by
          simpa using sound
        have executed' := optimize_sound ⟨operations ++ [operation], .MEMORY⟩ (sound'.sublist (List.sublist_append_left _ _)) elements
        simp only [accepted, ih _ kinds shapes' sound' executed', eager_chain, List.foldl_cons, c.eager_operation accepted]
        rw [apply_operations, Reorder.run_append]
        rfl

/-! ## Disagreement -/

/-- The fluent call that adds an operation. -/
def QueryOperation.call : QueryOperation α κ → FluentCall α κ
  | .filter predicate => .where predicate
  | .select selector => .select selector
  | .order_by key_selector reverse => if reverse then .order_by_descending key_selector else .order_by key_selector
  | .skip count => .skip count
  | .take count => .take count
  | .distinct key_selector => .distinct key_selector

/-- Builders refuse to take no element. -/
def QueryOperation.Callable : QueryOperation α κ → Prop
  | .take count => 0 < count
  | _ => True

omit [DecidableEq α] [LinearOrder κ] in
theorem call_operation {operation : QueryOperation α κ} (callable : operation.Callable) :
    operation.call.operation = .ok operation ∧ operation.call.shape = .accepted operation.kind := by
  cases operation with
  | filter | select => exact ⟨rfl, rfl⟩
  | order_by key_selector reverse => cases reverse <;> exact ⟨rfl, rfl⟩
  | skip count =>
    have unsigned : ¬(count : Int) < 0 := by omega
    refine ⟨?_, ?_⟩
    · rw [QueryOperation.call, FluentCall.operation, if_neg unsigned, Int.toNat_natCast]
    · rw [QueryOperation.call, FluentCall.shape, if_neg unsigned, kind]
  | take count =>
    have positive : ¬(count : Int) ≤ 0 := by
      have := callable
      simp only [Callable] at this
      omega
    refine ⟨?_, ?_⟩
    · rw [QueryOperation.call, FluentCall.operation, if_neg positive, Int.toNat_natCast]
    · rw [QueryOperation.call, FluentCall.shape, if_neg positive, kind]
  | distinct key_selector => cases key_selector <;> exact ⟨rfl, rfl⟩

theorem eager_calls (operations : List (QueryOperation α κ)) (callable : ∀ operation ∈ operations, operation.Callable)
    (elements : List α) : eager_chain (operations.map QueryOperation.call) elements = apply_operations operations elements := by
  induction operations generalizing elements with
  | nil => rfl
  | cons operation rest ih =>
    rw [List.map_cons, eager_chain, List.foldl_cons,
      FluentCall.eager_operation (call_operation (callable operation (by simp))).1]
    exact ih (fun other member => callable other (List.mem_cons_of_mem _ member)) _

section
variable {xs ys : List Nat} {operations : List (QueryOperation Nat Nat)}

theorem neutral_callable (k : Kind) : (neutral k).Callable := by cases k <;> first | trivial | exact Nat.two_pos

theorem clashing_callable (a b : Kind) : (clashing a b).1.Callable ∧ (clashing a b).2.Callable := by
  cases a <;> cases b <;> exact ⟨by first | trivial | exact Nat.one_pos, by first | trivial | exact Nat.two_pos⟩

theorem planted_callable {A B : QueryOperation Nat Nat} (left : A.Callable) (right : B.Callable) (before middle after : List Kind) :
    ∀ operation ∈ planted A B before middle after, operation.Callable := by
  intro operation member
  simp only [planted, List.mem_append, List.mem_cons, List.mem_map] at member
  rcases member with ⟨k, _, rfl⟩ | rfl | ⟨k, _, rfl⟩ | rfl | ⟨k, _, rfl⟩
  · exact neutral_callable k
  · exact left
  · exact neutral_callable k
  · exact right
  · exact neutral_callable k

theorem shape_calls (callable : ∀ operation ∈ operations, operation.Callable) :
    (operations.map QueryOperation.call).map FluentCall.shape = (operations.map QueryOperation.kind).map .accepted := by
  rw [List.map_map, List.map_map]
  exact List.map_congr_left fun operation member => (call_operation (callable operation member)).2

/-- Calls of neutral operations are passed where the results stay the same. -/
theorem deferred_neutral (ks : List Kind) (rest : List (FluentCall Nat Nat))
    (same : ∀ ks : List Kind, optimized (operations ++ ks.map neutral) xs = ys) (nonempty : ys ≠ []) :
    deferred_chain xs operations (ks.map (fun k => (neutral k).call) ++ rest) =
      deferred_chain xs (operations ++ ks.map neutral) rest := by
  induction ks generalizing operations with
  | nil => simp
  | cons k ks ih =>
    have start : optimized operations xs = ys := by simpa using same []
    have same' (js : List Kind) : optimized (operations ++ [neutral k] ++ js.map neutral) xs = ys := by
      simpa using same (k :: js)
    rw [List.map_cons, List.cons_append, deferred_chain, start, if_neg nonempty]
    simp only [(call_operation (neutral_callable k)).1, ih same']
    simp

/-- At the end of a chain such calls may also work on the empty list. -/
theorem deferred_neutral_end (ks : List Kind) (same : ∀ ks : List Kind, optimized (operations ++ ks.map neutral) xs = ys) :
    deferred_chain xs operations (ks.map fun k => (neutral k).call) = .ok ys := by
  by_cases empty : ys = []
  · subst empty
    have start : optimized operations xs = [] := by simpa using same []
    cases ks with
    | nil => rw [List.map_nil, deferred_chain, start]
    | cons k ks =>
      have eager := eager_calls ((k :: ks).map neutral) (by simp [neutral_callable]) []
      rw [List.map_map] at eager
      rw [List.map_cons, deferred_chain, if_pos start]
      exact congrArg Except.ok (eager.trans (run_neutral (Nat.zero_le 2) fun _ => List.nodup_nil))
  · rw [← List.append_nil (ks.map fun k => (neutral k).call), deferred_neutral ks [] same empty, deferred_chain, same ks]

end

/-- A chain with two operations that clash results in the swapped operations. -/
theorem deferred_planted {A B : QueryOperation Nat Nat} (differing : Differing A B) (left : A.Callable) (right : B.Callable)
    (before middle after : List Kind) :
    deferred_chain [1, 2] [] ((planted A B before middle after).map QueryOperation.call) =
      .ok (apply_operation A (apply_operation B [1, 2])) := by
  have later : A.isFilter = false := differing.moved.elim (fun moved => moved.2.1) fun moved => moved.2.1
  have neutrals (ks : List Kind) : optimized ([] ++ ks.map neutral) [1, 2] = [1, 2] := optimize_neutral ks (by decide) (by decide)
  have single (ks : List Kind) : optimized (before.map neutral ++ [A] ++ ks.map neutral) [1, 2] = apply_operation A [1, 2] := by
    rw [List.append_assoc]
    exact optimize_single before ks later (by decide) (by decide) differing.left_short differing.left_nodup
  have swapped (ks : List Kind) : optimized (before.map neutral ++ [A] ++ middle.map neutral ++ [B] ++ ks.map neutral) [1, 2] =
      apply_operation A (apply_operation B [1, 2]) := by
    simp only [List.append_assoc]
    exact differing.run_swapped before middle ks
  simp only [planted, List.map_append, List.map_cons, List.map_map]
  show deferred_chain [1, 2] [] (before.map (fun k => (neutral k).call) ++ A.call ::
    (middle.map (fun k => (neutral k).call) ++ B.call :: after.map fun k => (neutral k).call)) = _
  rw [deferred_neutral before _ neutrals (by decide), deferred_chain, neutrals, if_neg (by decide)]
  simp only [(call_operation left).1, List.nil_append]
  rw [deferred_neutral middle _ single differing.left_nonempty, deferred_chain, single, if_neg differing.left_nonempty]
  simp only [(call_operation right).1]
  exact deferred_neutral_end after swapped

/-- A chain of neutral operations raises where a builder refuses a count. -/
theorem deferred_refused (kinds : List Kind) {c : FluentCall Nat Nat} {e : QueryException} (refused : c.operation = .error e)
    (rest : List (FluentCall Nat Nat)) :
    deferred_chain [1, 2] [] (kinds.map (fun k => (neutral k).call) ++ c :: rest) = .error e := by
  have neutrals (ks : List Kind) : optimized ([] ++ ks.map neutral) [1, 2] = [1, 2] := optimize_neutral ks (by decide) (by decide)
  rw [deferred_neutral kinds _ neutrals (by decide), deferred_chain, neutrals, if_neg (by decide)]
  simp only [refused]

/-- A call of a given shape. -/
def FluentCall.of_shape : FluentCall.Shape → FluentCall Nat Nat
  | .accepted kind => (neutral kind).call
  | .negative_skip => .skip (-1)
  | .unpositive_take => .take 0

theorem shape_of_shape (shape : FluentCall.Shape) : (FluentCall.of_shape shape).shape = shape := by
  cases shape with
  | accepted kind =>
    have same := (call_operation (neutral_callable kind)).2
    rwa [neutral_kind] at same
  | negative_skip | unpositive_take => rfl

/-- Builders accept all counts of a chain, or there is a first one they refuse. -/
theorem accepted_or_refused (shapes : List FluentCall.Shape) : (∃ kinds : List Kind, shapes = kinds.map .accepted) ∨
    ∃ (kinds : List Kind) (shape : FluentCall.Shape) (rest : List FluentCall.Shape) (e : QueryException),
      shapes = kinds.map .accepted ++ shape :: rest ∧ (FluentCall.of_shape shape).operation = .error e := by
  induction shapes with
  | nil => exact Or.inl ⟨[], rfl⟩
  | cons shape shapes ih =>
    cases shape with
    | accepted kind =>
      rcases ih with ⟨kinds, rfl⟩ | ⟨kinds, shape, rest, e, rfl, refused⟩
      · exact Or.inl ⟨kind :: kinds, rfl⟩
      · exact Or.inr ⟨kind :: kinds, shape, rest, e, rfl, refused⟩
    | negative_skip => exact Or.inr ⟨[], _, shapes, _, rfl, rfl⟩
    | unpositive_take => exact Or.inr ⟨[], _, shapes, _, rfl, rfl⟩

/-! ### A digest without collisions -/

/-- As many letters as there are operations, and one more. -/
def length_hash (texts : List (String × String)) : String := String.ofList (List.replicate (texts.length + 1) 'x')

omit [DecidableEq α] [LinearOrder κ] in
theorem length_optimize (plan : QueryPlan α κ) : plan.optimize.operations.length = plan.operations.length := by
  obtain ⟨operations, _⟩ := plan
  show (operations.filter _ ++ operations.filter _ ++ operations.filter _).length = _
  simp only [List.length_append]
  induction operations with
  | nil => rfl
  | cons operation rest ih =>
    cases operation <;> simp [isFilter, isSelect] at ih ⊢ <;> omega

omit [DecidableEq α] [LinearOrder κ] in
theorem plan_key_length (operations : List (QueryOperation α κ)) :
    (plan_key length_hash none operations).length = 15 + operations.length := by
  have hashed : length_hash ((QueryPlan.optimize ⟨operations, .MEMORY⟩).operations.map QueryOperation.details) =
      String.ofList (List.replicate (operations.length + 1) 'x') := by
    rw [length_hash, List.length_map, length_optimize]
  have nonempty : String.ofList (List.replicate (operations.length + 1) 'x') ≠ "" := by
    intro empty
    have lengths := congrArg String.length empty
    simp at lengths
  have key : plan_key length_hash none operations =
      "Element" ++ "|" ++ ("query:" ++ String.ofList (List.replicate (operations.length + 1) 'x')) := by
    simp only [plan_key, Heap.cache_key, hashed, CacheKey.str, CacheKey.part, CacheKey.id_part, if_pos nonempty]
    rfl
  rw [key]
  simp only [String.length_append, String.length_ofList, List.length_replicate]
  show 7 + 1 + (6 + (operations.length + 1)) = _
  omega

omit [DecidableEq α] [LinearOrder κ] in
/-- Every plan of a chain is longer than the one before. -/
theorem plans_of_increase (operations : List (QueryOperation α κ)) (cs : List (FluentCall α κ)) :
    (plans_of operations cs).Pairwise (fun p q => p.length < q.length) ∧
      ∀ p ∈ plans_of operations cs, operations.length ≤ p.length := by
  induction cs generalizing operations with
  | nil => simp [plans_of]
  | cons c rest ih =>
    rw [plans_of]
    cases c.operation with
    | error e => simp
    | ok operation =>
      obtain ⟨increase, longer⟩ := ih (operations ++ [operation])
      rw [List.length_append, List.length_singleton] at longer
      refine ⟨List.pairwise_cons.mpr ⟨fun p member => Nat.lt_of_succ_le (longer p member), increase⟩, ?_⟩
      intro p member
      rcases List.mem_cons.mp member with rfl | later
      · exact Nat.le_refl _
      · exact Nat.le_of_succ_le (longer p later)

omit [DecidableEq α] [LinearOrder κ] in
theorem collision_free_length (cs : List (FluentCall α κ)) : CollisionFree length_hash none cs := by
  refine (plans_of_increase [] cs).1.imp fun {p q} shorter T member U member' same => ?_
  have lengths := congrArg String.length same
  simp only [List.mem_cons, List.not_mem_nil, or_false, or_self] at member member'
  rw [member, member', plan_key_length, plan_key_length] at lengths
  omega

/-! ## The claim about all chains of a shape -/

/-- Both raise, or both give the same list. -/
def Agree : Except QueryException (List α) → Except QueryException (List α) → Prop
  | .ok xs, .ok ys => xs = ys
  | .error _, .error _ => True
  | _, _ => False

/-- The outcome of a chain on `ElementSet.from_query(QueryBuilder(provider, …))`. -/
def evaluate_query (provider : Provider α) (query_hash : List (String × String) → String) (h : Heap α κ)
    (element_type : Option ElementType) (cache_manager : Option Nat) (cs : List (FluentCall α κ)) :
    Except QueryException (List α) :=
  let (builder, h) := h.new_builder element_type cache_manager
  ((ElementSet.from_query builder).evaluate provider query_hash h cs).1

/-- The outcome of a chain on `ElementSet(elements, lazy=False)`. -/
def evaluate_list (provider : Provider α) (query_hash : List (String × String) → String) (h : Heap α κ) (elements : List α)
    (cs : List (FluentCall α κ)) : Except QueryException (List α) :=
  ((ElementSet.materialized elements).evaluate provider query_hash h cs).1

theorem evaluate_list_eq (provider : Provider α) (query_hash : List (String × String) → String) (h : Heap α κ)
    (elements : List α) (cs : List (FluentCall α κ)) :
    evaluate_list provider query_hash h elements cs = .ok (eager_chain cs elements) := by
  rw [evaluate_list, ElementSet.evaluate_materialized]

theorem evaluate_query_eq {provider : Provider α} {query_hash : List (String × String) → String} {h : Heap α κ}
    {element_type : Option ElementType} {cache_manager : Option Nat} {elements : List α} {cs : List (FluentCall α κ)}
    (returns : provider.Returns elements) (empty : ∀ r ∈ cache_manager, (h.caches.read r).size = 0)
    (free : CollisionFree query_hash element_type cs) :
    evaluate_query provider query_hash h element_type cache_manager cs = deferred_chain elements [] cs :=
  evaluate_deferred returns cs free (pending_new query_hash element_type h cache_manager empty cs)

end RevitPy
