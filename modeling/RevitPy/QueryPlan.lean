import Mathlib.Order.Lattice.Nat
import RevitPy.Reorder

/-!
# Query plans

A plan lists operations in the order of the fluent calls. Before it is executed
all filters are moved to its front and all projections to its end, past whatever
stands between.
-/

namespace RevitPy

inductive CachePolicy
  | NONE
  | MEMORY
  | PERSISTENT
  | AGGRESSIVE
  deriving DecidableEq

/-- A function given to a query, and the text that `str` makes of it. -/
structure Callback (α β : Type) where
  call : α → β
  text : String

/-- The operations of a plan with their details. Elements are object references,
    keys are values of a totally ordered type. -/
inductive QueryOperation (α κ : Type)
  | filter (predicate : Callback α Bool)
  | select (selector : Callback α α)
  | order_by (key_selector : Callback α κ) (reverse : Bool)
  | skip (count : Nat)
  | take (count : Nat)
  | distinct (key_selector : Option (Callback α κ))

structure QueryPlan (α κ : Type) where
  operations : List (QueryOperation α κ) := []
  cache_strategy : CachePolicy := .MEMORY

variable {α κ : Type}

namespace QueryOperation

def isFilter : QueryOperation α κ → Bool
  | .filter _ => true
  | _ => false

def isSelect : QueryOperation α κ → Bool
  | .select _ => true
  | _ => false

end QueryOperation

namespace QueryPlan

def add_operation (plan : QueryPlan α κ) (operation : QueryOperation α κ) : QueryPlan α κ :=
  { plan with operations := plan.operations ++ [operation] }

/-- Optimize the query plan. -/
def optimize (plan : QueryPlan α κ) : QueryPlan α κ :=
  let filters := plan.operations.filter fun op => op.isFilter
  let projections := plan.operations.filter fun op => op.isSelect
  let others := plan.operations.filter fun op => !(op.isFilter || op.isSelect)
  { operations := filters ++ others ++ projections, cache_strategy := plan.cache_strategy }

end QueryPlan

/-! ## Execution -/

/-- Yield distinct elements, by the keys already seen. -/
def distinct_generator {ι : Type} [DecidableEq ι] (key : α → ι) : List ι → List α → List α
  | _, [] => []
  | seen, elem :: elements =>
    if key elem ∈ seen then distinct_generator key seen elements
    else elem :: distinct_generator key (key elem :: seen) elements

/-- `sorted(elements, key=key_selector, reverse=reverse)`: equal keys keep their
    order, also in reverse. -/
def sorted [LinearOrder κ] (key_selector : α → κ) (reverse : Bool) (elements : List α) : List α :=
  if reverse then elements.insertionSort fun a b => key_selector b ≤ key_selector a
  else elements.insertionSort fun a b => key_selector a ≤ key_selector b

variable [DecidableEq α] [LinearOrder κ]

/-- Apply a single query operation to elements. Without a key, distinct elements
    are told apart by identity. -/
def apply_operation : QueryOperation α κ → List α → List α
  | .filter predicate, elements => elements.filter predicate.call
  | .select selector, elements => elements.map selector.call
  | .order_by key_selector reverse, elements => sorted key_selector.call reverse elements
  | .skip count, elements => elements.drop count
  | .take count, elements => elements.take count
  | .distinct none, elements => distinct_generator id [] elements
  | .distinct (some key_selector), elements => distinct_generator key_selector.call [] elements

/-- The elements after all operations, one by one. -/
def apply_operations (operations : List (QueryOperation α κ)) (elements : List α) : List α :=
  Reorder.run apply_operation operations elements

/-! ## Operations that commute -/

namespace QueryOperation

/-- The sort of an operation, without its details. -/
inductive Kind
  | filter | select | order_by | skip | take | distinct_identity | distinct_key
  deriving DecidableEq

def kind : QueryOperation α κ → Kind
  | .filter _ => .filter
  | .select _ => .select
  | .order_by _ _ => .order_by
  | .skip _ => .skip
  | .take _ => .take
  | .distinct none => .distinct_identity
  | .distinct (some _) => .distinct_key

/-- The second operation is moved before the first, and this may change the result. -/
def Clash (a b : Kind) : Prop :=
  a = .select ∧ b ∈ [Kind.filter, .order_by, .distinct_identity, .distinct_key] ∨
    a ∈ [Kind.skip, .take, .distinct_key] ∧ b = .filter

instance (a b : Kind) : Decidable (Clash a b) := inferInstanceAs (Decidable (_ ∨ _))

end QueryOperation

open QueryOperation

omit [DecidableEq α] in
theorem filter_sorted (p : α → Bool) (key_selector : α → κ) (reverse : Bool) (elements : List α) :
    (sorted key_selector reverse elements).filter p = sorted key_selector reverse (elements.filter p) := by
  unfold sorted
  split
  · have total : Std.Total fun a b => key_selector b ≤ key_selector a := ⟨fun a b => le_total (key_selector b) _⟩
    have trans : IsTrans α fun a b => key_selector b ≤ key_selector a := ⟨fun _ _ _ left right => le_trans right left⟩
    exact Reorder.filter_insertionSort _ p elements
  · have total : Std.Total fun a b => key_selector a ≤ key_selector b := ⟨fun a b => le_total (key_selector a) _⟩
    have trans : IsTrans α fun a b => key_selector a ≤ key_selector b := ⟨fun _ _ _ left right => le_trans left right⟩
    exact Reorder.filter_insertionSort _ p elements

/-- Elements that are filtered out need not have been seen. -/
theorem filter_distinct (p : α → Bool) (seen seen' elements : List α)
    (same : ∀ elem, p elem = true → (elem ∈ seen ↔ elem ∈ seen')) :
    (distinct_generator id seen elements).filter p = distinct_generator id seen' (elements.filter p) := by
  induction elements generalizing seen seen' with
  | nil => rfl
  | cons elem rest ih =>
    simp only [distinct_generator, id_eq]
    cases kept : p elem with
    | false =>
      rw [List.filter_cons_of_neg (by simp [kept])]
      split
      · exact ih seen seen' same
      · rw [List.filter_cons_of_neg (by simp [kept])]
        refine ih (elem :: seen) seen' fun other passes => ?_
        have different : other ≠ elem := by rintro rfl; simp [kept] at passes
        simp [different, same other passes]
    | true =>
      rw [List.filter_cons_of_pos kept]
      simp only [distinct_generator, id_eq, ← same elem kept]
      split
      · exact ih seen seen' same
      · rw [List.filter_cons_of_pos kept]
        refine congrArg (elem :: ·) (ih (elem :: seen) (elem :: seen') fun other passes => ?_)
        simp [same other passes]

/-- A filter commutes with every operation that it does not clash with, unless
    that is a projection. -/
theorem filter_commute {a b : QueryOperation α κ} (front : b.isFilter = true) (later : a.isFilter = false)
    (sound : ¬Clash a.kind b.kind) : Reorder.Commute apply_operation a b := by
  intro elements
  cases b with
  | filter predicate =>
    cases a with
    | filter => simp [isFilter] at later
    | select | skip | take => exact absurd (by simp [kind, Clash]) sound
    | order_by key_selector reverse => exact (filter_sorted predicate.call key_selector.call reverse elements).symm
    | distinct key_selector =>
      cases key_selector with
      | none => exact (filter_distinct predicate.call [] [] elements fun _ _ => Iff.rfl).symm
      | some key_selector => exact absurd (by simp [kind, Clash]) sound
  | select | order_by | skip | take | distinct => simp [isFilter] at front

/-- A projection commutes with the operations between filters and projections
    that it does not clash with. -/
theorem select_commute {a b : QueryOperation α κ} (projection : a.isSelect = true) (front : b.isSelect = false)
    (sound : ¬Clash a.kind b.kind) : Reorder.Commute apply_operation a b := by
  intro elements
  cases a with
  | select selector =>
    cases b with
    | select => simp [isSelect] at front
    | filter | order_by => exact absurd (by simp [kind, Clash]) sound
    | skip count => exact List.map_drop
    | take count => exact List.map_take
    | distinct key_selector => cases key_selector <;> exact absurd (by simp [kind, Clash]) sound
  | filter | order_by | skip | take | distinct => simp [isSelect] at projection

/-- Where no operation clashes with a later one, the optimized plan has the same
    result. -/
theorem optimize_sound (plan : QueryPlan α κ)
    (sound : (plan.operations.map kind).Pairwise fun a b => ¬Clash a b) (elements : List α) :
    apply_operations plan.optimize.operations elements = apply_operations plan.operations elements := by
  have pairs := List.pairwise_map.mp sound
  have filters : Reorder.run apply_operation (plan.operations.filter (fun op => op.isFilter) ++
      plan.operations.filter fun op => !op.isFilter) elements = Reorder.run apply_operation plan.operations elements :=
    Reorder.run_partition _ (pairs.imp fun sound later front => filter_commute front later sound) elements
  let rest := plan.operations.filter fun op => !op.isFilter
  have projections (elements : List α) : Reorder.run apply_operation (rest.filter (fun op => !op.isSelect) ++
      rest.filter fun op => !!op.isSelect) elements = Reorder.run apply_operation rest elements :=
    Reorder.run_partition _ ((pairs.sublist List.filter_sublist).imp fun sound projection front =>
      select_commute (by simpa using projection) (by simpa using front) sound) elements
  have others : rest.filter (fun op => !op.isSelect) = plan.operations.filter fun op => !(op.isFilter || op.isSelect) := by
    rw [List.filter_filter]
    apply List.filter_congr
    intro op _
    cases op <;> rfl
  have selects : rest.filter (fun op => !!op.isSelect) = plan.operations.filter fun op => op.isSelect := by
    rw [List.filter_filter]
    apply List.filter_congr
    intro op _
    cases op <;> rfl
  rw [others, selects] at projections
  rw [Reorder.run_append, ← projections, ← Reorder.run_append] at filters
  rw [apply_operations, apply_operations, ← filters, QueryPlan.optimize, List.append_assoc]

/-! ## Operations that clash -/

/-- An operation of a given sort that changes no list of two distinct numbers. -/
def neutral : Kind → QueryOperation Nat Nat
  | .filter => .filter ⟨fun _ => true, ""⟩
  | .select => .select ⟨id, ""⟩
  | .order_by => .order_by ⟨fun _ => 0, ""⟩ false
  | .skip => .skip 0
  | .take => .take 2
  | .distinct_identity => .distinct none
  | .distinct_key => .distinct (some ⟨id, ""⟩)

private theorem sorted_constant (xs : List Nat) : sorted (fun _ => (0 : Nat)) false xs = xs := by
  unfold sorted
  exact List.Pairwise.insertionSort_eq (List.pairwise_of_forall fun _ _ => Nat.le_refl 0)

private theorem distinct_nodup (seen xs : List Nat) (fresh : ∀ x ∈ xs, x ∉ seen) (nodup : xs.Nodup) :
    distinct_generator id seen xs = xs := by
  induction xs generalizing seen with
  | nil => rfl
  | cons x rest ih =>
    obtain ⟨absent, later⟩ := List.nodup_cons.mp nodup
    have unseen : id x ∉ seen := fresh x (by simp)
    rw [distinct_generator, if_neg unseen, ih (id x :: seen) _ later]
    intro y member
    have other : y ≠ x := fun equal => absent (equal ▸ member)
    simp [other, fresh y (by simp [member])]

theorem neutral_kind (k : Kind) : (neutral k).kind = k := by cases k <;> rfl

theorem apply_neutral {k : Kind} {xs : List Nat} (short : xs.length ≤ 2)
    (nodup : k ∈ [Kind.distinct_identity, .distinct_key] → xs.Nodup) : apply_operation (neutral k) xs = xs := by
  cases k with
  | filter => exact List.filter_true xs
  | select => exact List.map_id xs
  | order_by => exact sorted_constant xs
  | skip => rfl
  | take => exact List.take_of_length_le short
  | distinct_identity | distinct_key => exact distinct_nodup [] xs (by simp) (nodup (by simp))

theorem run_neutral {ks : List Kind} {xs : List Nat} (short : xs.length ≤ 2)
    (nodup : (∃ k ∈ ks, k ∈ [Kind.distinct_identity, .distinct_key]) → xs.Nodup) :
    Reorder.run apply_operation (ks.map neutral) xs = xs := by
  induction ks with
  | nil => rfl
  | cons k rest ih =>
    rw [List.map_cons, Reorder.run_cons, apply_neutral short fun keyed => nodup ⟨k, by simp, keyed⟩]
    exact ih fun ⟨j, member, keyed⟩ => nodup ⟨j, by simp [member], keyed⟩

/-- Operations of two clashing sorts that do not commute on the list `[1, 2]`. -/
def clashing : Kind → Kind → QueryOperation Nat Nat × QueryOperation Nat Nat
  | .select, .filter => (.select ⟨fun n => n + 2, ""⟩, .filter ⟨fun n => n ≤ 2, ""⟩)
  | .select, .order_by => (.select ⟨fun n => 3 - n, ""⟩, .order_by ⟨id, ""⟩ false)
  | .select, b => (.select ⟨fun _ => 0, ""⟩, neutral b)
  | .skip, _ => (.skip 1, .filter ⟨fun n => n ≠ 1, ""⟩)
  | .take, _ => (.take 1, .filter ⟨fun n => n ≠ 1, ""⟩)
  | _, _ => (.distinct (some ⟨fun _ => 0, ""⟩), .filter ⟨fun n => n ≠ 1, ""⟩)

section
variable {A B : QueryOperation Nat Nat} {before middle after : List Kind} {f : QueryOperation Nat Nat → Bool}
  {xs : List Nat}

/-- A plan of neutral operations with two others among them. -/
def planted (A B : QueryOperation Nat Nat) (before middle after : List Kind) : List (QueryOperation Nat Nat) :=
  before.map neutral ++ A :: (middle.map neutral ++ B :: after.map neutral)

theorem run_neutral_nodup (ks : List Kind) (short : xs.length ≤ 2) (nodup : xs.Nodup) :
    Reorder.run apply_operation (ks.map neutral) xs = xs := run_neutral short fun _ => nodup

theorem run_neutral_filter (ks : List Kind) (short : xs.length ≤ 2)
    (nodup : f (neutral .distinct_identity) = true ∨ f (neutral .distinct_key) = true → xs.Nodup) :
    Reorder.run apply_operation ((ks.map neutral).filter f) xs = xs := by
  rw [List.filter_map]
  refine run_neutral short ?_
  rintro ⟨k, member, keyed⟩
  have kept : f (neutral k) = true := (List.mem_filter.mp member).2
  simp only [List.mem_cons, List.not_mem_nil, or_false] at keyed
  rcases keyed with rfl | rfl
  · exact nodup (Or.inl kept)
  · exact nodup (Or.inr kept)

private theorem run_neither (left : f A = false) (right : f B = false) (short : xs.length ≤ 2)
    (nodup : f (neutral .distinct_identity) = true ∨ f (neutral .distinct_key) = true → xs.Nodup) :
    Reorder.run apply_operation ((planted A B before middle after).filter f) xs = xs := by
  simp only [planted, List.filter_append, List.filter_cons, left, right, Bool.false_eq_true, ↓reduceIte, Reorder.run_append,
    run_neutral_filter _ short nodup]

private theorem run_left (left : f A = true) (right : f B = false) (short : xs.length ≤ 2) (nodup : xs.Nodup)
    (short' : (apply_operation A xs).length ≤ 2)
    (nodup' : f (neutral .distinct_identity) = true ∨ f (neutral .distinct_key) = true → (apply_operation A xs).Nodup) :
    Reorder.run apply_operation ((planted A B before middle after).filter f) xs = apply_operation A xs := by
  simp only [planted, List.filter_append, List.filter_cons, left, right, Bool.false_eq_true, ↓reduceIte, Reorder.run_append,
    Reorder.run_cons, run_neutral_filter _ short fun _ => nodup, run_neutral_filter _ short' nodup']

private theorem run_right (left : f A = false) (right : f B = true) (short : xs.length ≤ 2) (nodup : xs.Nodup)
    (short' : (apply_operation B xs).length ≤ 2) (nodup' : (apply_operation B xs).Nodup) :
    Reorder.run apply_operation ((planted A B before middle after).filter f) xs = apply_operation B xs := by
  simp only [planted, List.filter_append, List.filter_cons, left, right, Bool.false_eq_true, ↓reduceIte, Reorder.run_append,
    Reorder.run_cons, run_neutral_filter _ short fun _ => nodup, run_neutral_filter _ short' fun _ => nodup']

theorem run_planted (short : xs.length ≤ 2) (nodup : xs.Nodup) (short' : (apply_operation A xs).length ≤ 2)
    (nodup' : (∃ k ∈ middle, k ∈ [Kind.distinct_identity, .distinct_key]) → (apply_operation A xs).Nodup)
    (short'' : (apply_operation B (apply_operation A xs)).length ≤ 2)
    (nodup'' : (apply_operation B (apply_operation A xs)).Nodup) :
    apply_operations (planted A B before middle after) xs = apply_operation B (apply_operation A xs) := by
  simp only [apply_operations, planted, Reorder.run_append, Reorder.run_cons, run_neutral_nodup _ short nodup,
    run_neutral short' nodup', run_neutral_nodup _ short'' nodup'']

end

theorem run_optimize (operations : List (QueryOperation Nat Nat)) (xs : List Nat) :
    apply_operations (QueryPlan.optimize ⟨operations, .MEMORY⟩).operations xs =
      Reorder.run apply_operation (operations.filter fun op => op.isSelect)
        (Reorder.run apply_operation (operations.filter fun op => !(op.isFilter || op.isSelect))
          (Reorder.run apply_operation (operations.filter fun op => op.isFilter) xs)) := by
  simp only [apply_operations, QueryPlan.optimize, Reorder.run_append]

/-- The optimized plan applies the two operations in the other order. -/
theorem optimize_planted {A B : QueryOperation Nat Nat} {before middle after : List Kind} {xs : List Nat}
    (moved : A.isSelect = true ∧ A.isFilter = false ∧ B.isSelect = false ∨
      A.isSelect = false ∧ A.isFilter = false ∧ B.isSelect = false ∧ B.isFilter = true)
    (short : xs.length ≤ 2) (nodup : xs.Nodup) (short' : (apply_operation B xs).length ≤ 2)
    (nodup' : (apply_operation B xs).Nodup) (short'' : (apply_operation A (apply_operation B xs)).length ≤ 2)
    (nodup'' : A.isSelect = false → (apply_operation A (apply_operation B xs)).Nodup) :
    apply_operations (QueryPlan.optimize ⟨planted A B before middle after, .MEMORY⟩).operations xs =
      apply_operation A (apply_operation B xs) := by
  rw [run_optimize]
  rcases moved with ⟨select, later, other⟩ | ⟨other, later, other', front⟩
  · cases front : B.isFilter with
    | true =>
      rw [run_right later front short nodup short' nodup', run_neither (by simp [select]) (by simp [front]) short' fun _ => nodup',
        run_left select other short' nodup' short'' (by simp [neutral, isSelect])]
    | false =>
      rw [run_neither later front short fun _ => nodup,
        run_right (by simp [select]) (by simp [front, other]) short nodup short' nodup',
        run_left select other short' nodup' short'' (by simp [neutral, isSelect])]
  · rw [run_right later front short nodup short' nodup',
      run_left (by simp [other, later]) (by simp [front]) short' nodup' short'' (fun _ => nodup'' other),
      run_neither other other' short'' fun _ => nodup'' other]

/-- Neutral operations stay without effect. -/
theorem optimize_neutral (ks : List Kind) {xs : List Nat} (short : xs.length ≤ 2) (nodup : xs.Nodup) :
    apply_operations (QueryPlan.optimize ⟨ks.map neutral, .MEMORY⟩).operations xs = xs := by
  simp only [run_optimize, run_neutral_filter _ short fun _ => nodup]

/-- One operation among neutral ones. -/
theorem optimize_single {A : QueryOperation Nat Nat} (before after : List Kind) {xs : List Nat} (later : A.isFilter = false)
    (short : xs.length ≤ 2) (nodup : xs.Nodup) (short' : (apply_operation A xs).length ≤ 2)
    (nodup' : A.isSelect = false → (apply_operation A xs).Nodup) :
    apply_operations (QueryPlan.optimize ⟨before.map neutral ++ A :: after.map neutral, .MEMORY⟩).operations xs =
      apply_operation A xs := by
  cases select : A.isSelect with
  | true =>
    have keep : (fun op : QueryOperation Nat Nat => op.isSelect) (neutral .distinct_identity) = true ∨
        (fun op : QueryOperation Nat Nat => op.isSelect) (neutral .distinct_key) = true → (apply_operation A xs).Nodup := by
      simp [neutral, isSelect]
    simp only [run_optimize, List.filter_append, List.filter_cons, later, select, Bool.false_or, Bool.not_true, Bool.false_eq_true,
      ↓reduceIte, Reorder.run_append, Reorder.run_cons, run_neutral_filter _ short fun _ => nodup, run_neutral_filter _ short' keep]
  | false =>
    simp only [run_optimize, List.filter_append, List.filter_cons, later, select, Bool.or_self, Bool.not_false, Bool.false_eq_true,
      ↓reduceIte, Reorder.run_append, Reorder.run_cons, run_neutral_filter _ short fun _ => nodup,
      run_neutral_filter _ short' fun _ => nodup' select]

theorem kind_planted (A B : QueryOperation Nat Nat) (before middle after : List Kind) :
    (planted A B before middle after).map kind = before ++ A.kind :: (middle ++ B.kind :: after) := by
  have kinds (ks : List Kind) : (ks.map neutral).map kind = ks := by
    rw [List.map_map]
    exact (List.map_congr_left fun k _ => neutral_kind k).trans (List.map_id ks)
  simp only [planted, List.map_append, List.map_cons, kinds]

/-- What makes the two operations of `clashing` a witness: both keep `[1, 2]` short
    in either order, and the order shows. -/
structure Differing (A B : QueryOperation Nat Nat) : Prop where
  moved : A.isSelect = true ∧ A.isFilter = false ∧ B.isSelect = false ∨
    A.isSelect = false ∧ A.isFilter = false ∧ B.isSelect = false ∧ B.isFilter = true
  left_short : (apply_operation A [1, 2]).length ≤ 2
  left_nodup : A.isSelect = false → (apply_operation A [1, 2]).Nodup
  left_nonempty : apply_operation A [1, 2] ≠ []
  right_short : (apply_operation B [1, 2]).length ≤ 2
  right_nodup : (apply_operation B [1, 2]).Nodup
  called_short : (apply_operation B (apply_operation A [1, 2])).length ≤ 2
  called_nodup : (apply_operation B (apply_operation A [1, 2])).Nodup
  swapped_short : (apply_operation A (apply_operation B [1, 2])).length ≤ 2
  swapped_nodup : A.isSelect = false → (apply_operation A (apply_operation B [1, 2])).Nodup
  differ : apply_operation A (apply_operation B [1, 2]) ≠ apply_operation B (apply_operation A [1, 2])

theorem clashing_spec {a b : Kind} (clash : Clash a b) :
    (clashing a b).1.kind = a ∧ (clashing a b).2.kind = b ∧ Differing (clashing a b).1 (clashing a b).2 := by
  rcases clash with ⟨rfl, listed⟩ | ⟨listed, rfl⟩ <;> simp only [List.mem_cons, List.not_mem_nil, or_false] at listed
  · rcases listed with rfl | rfl | rfl | rfl <;>
      exact ⟨rfl, rfl, Or.inl ⟨rfl, rfl, rfl⟩, by decide, by decide, by decide, by decide, by decide, by decide, by decide,
        by decide, by decide, by decide⟩
  · rcases listed with rfl | rfl | rfl <;>
      exact ⟨rfl, rfl, Or.inr ⟨rfl, rfl, rfl, rfl⟩, by decide, by decide, by decide, by decide, by decide, by decide, by decide,
        by decide, by decide, by decide⟩

/-- The operations called in order. A projection may make equal elements, but then
    no removal of duplicates stands in the middle. -/
theorem Differing.run_called {A B : QueryOperation Nat Nat} (differing : Differing A B) (before : List Kind) {middle : List Kind}
    (first : ∀ c ∈ middle, ¬Clash A.kind c) (after : List Kind) :
    apply_operations (planted A B before middle after) [1, 2] = apply_operation B (apply_operation A [1, 2]) := by
  refine run_planted (by decide) (by decide) differing.left_short ?_ differing.called_short differing.called_nodup
  rintro ⟨k, member, keyed⟩
  cases select : A.isSelect with
  | false => exact differing.left_nodup select
  | true =>
    have kind : A.kind = .select := by cases A <;> first | rfl | cases select
    refine absurd (Or.inl ⟨kind, ?_⟩) (first k member)
    simp only [List.mem_cons, List.not_mem_nil, or_false] at keyed ⊢
    exact Or.inr (Or.inr keyed)

theorem Differing.run_swapped {A B : QueryOperation Nat Nat} (differing : Differing A B) (before middle after : List Kind) :
    apply_operations (QueryPlan.optimize ⟨planted A B before middle after, .MEMORY⟩).operations [1, 2] =
      apply_operation A (apply_operation B [1, 2]) :=
  optimize_planted differing.moved (by decide) (by decide) differing.right_short differing.right_nodup differing.swapped_short
    differing.swapped_nodup

private theorem clashing_differ {a b : Kind} (clash : Clash a b) (before : List Kind) {middle : List Kind}
    (first : ∀ c ∈ middle, ¬Clash a c) (after : List Kind) : ∃ operations : List (QueryOperation Nat Nat),
      operations.map kind = before ++ a :: (middle ++ b :: after) ∧
      apply_operations (QueryPlan.optimize ⟨operations, .MEMORY⟩).operations [1, 2] ≠ apply_operations operations [1, 2] := by
  obtain ⟨left, right, differing⟩ := clashing_spec clash
  refine ⟨planted (clashing a b).1 (clashing a b).2 before middle after, ?_, ?_⟩
  · rw [kind_planted, left, right]
  · rw [differing.run_swapped, differing.run_called before (by rwa [left])]
    exact differing.differ

end RevitPy
