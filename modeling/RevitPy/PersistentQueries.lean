import RevitPy.QueryBuilder

/-!
# Builders as values

Other queries are derived from a builder by fluent calls on it and on what was
derived before. The operations of the builder stay as they are as long as none of
the calls is a `select` on the builder itself: `select` appends to the plan object
it was called on.
-/

namespace RevitPy

variable {α κ : Type}

namespace Heap.Derived
variable {h h' : Heap α κ} {b b' : Nat} {projects : Bool} {operation : QueryOperation α κ}

theorem builder_old (derived : Derived h b projects operation b' h') {r : Nat} (known : r < h.builders.next) :
    r < h'.builders.next := by
  have next := derived.next
  omega

theorem builder_new (derived : Derived h b projects operation b' h') : b' < h'.builders.next := by
  have fresh := derived.fresh
  have next := derived.next
  omega

/-- A fluent call changes the operations of those builders only that share the
    plan of a projected builder. -/
theorem operations_old (derived : Derived h b projects operation b' h') {r : Nat} (known : r < h.builders.next) :
    h'.operations r = if projects = true ∧ (h.builders.read r).query_plan = (h.builders.read b).query_plan
      then h.operations r ++ [operation] else h.operations r := by
  split
  · next shared =>
    have target : (h'.builders.read r).query_plan = (h'.builders.read b').query_plan := by
      rw [derived.builders r known, derived.query_plan, if_pos shared.1, shared.2]
    have same : h'.operations r = h'.operations b' := by simp only [Heap.operations, Heap.plan, target]
    have source : h.operations r = h.operations b := by simp only [Heap.operations, Heap.plan, shared.2]
    rw [same, derived.operations, source]
  · next apart =>
    have kept := derived.plans (h.builders.read r).query_plan (h.plan_known r) fun isSelect same => apart ⟨isSelect, same⟩
    simp only [Heap.operations, Heap.plan, derived.builders r known, kept]

end Heap.Derived

/-- The queries derived from a builder so far, in the order in which they were
    made. -/
structure Derivation (α κ : Type) where
  heap : Heap α κ
  builder : Nat
  derived : List Nat
  known : ∀ b ∈ builder :: derived, b < heap.builders.next

namespace Derivation

/-- No query has been derived from the builder yet. -/
def start (h : Heap α κ) (q : h.builders.Ref) : Derivation α κ where
  heap := h
  builder := q
  derived := []
  known := by simp

/-- The builder is number 0, the first query derived from it number 1. -/
def query? (d : Derivation α κ) (number : Nat) : Option Nat := (d.builder :: d.derived)[number]?

/-- A fluent call on one of the queries. Nothing happens where there is none of
    that number, and where the call raises. -/
def step (d : Derivation α κ) (s : Nat × FluentCall α κ) : Derivation α κ :=
  match d.query? s.1 with
  | none => d
  | some b => match made : d.heap.call b s.2 with
    | .error _ => d
    | .ok (b', h') =>
      { heap := h'
        builder := d.builder
        derived := d.derived ++ [b']
        known := by
          rcases d.heap.call_spec b s.2 with ⟨_, _, raised⟩ | ⟨_, _, _, _, same, derived⟩
          · rw [raised] at made
            cases made
          · rw [same] at made
            cases made
            intro r listed
            rw [← List.cons_append] at listed
            rcases List.mem_append.mp listed with old | new
            · exact derived.builder_old (d.known r old)
            · exact List.mem_singleton.mp new ▸ derived.builder_new }

def run (d : Derivation α κ) (steps : List (Nat × FluentCall α κ)) : Derivation α κ := steps.foldl step d

/-- A step does nothing, and then it projects no query, or it derives a query. -/
theorem step_cases (d : Derivation α κ) (s : Nat × FluentCall α κ) :
    d.step s = d ∧ (∀ b, d.query? s.1 = some b → s.2.isSelect = false) ∨
      ∃ b operation b', d.query? s.1 = some b ∧ (d.step s).builder = d.builder ∧ (d.step s).derived = d.derived ++ [b'] ∧
        Heap.Derived d.heap b s.2.isSelect operation b' (d.step s).heap := by
  unfold step
  split
  · next absent => exact Or.inl ⟨rfl, fun b found => by rw [absent] at found; cases found⟩
  · next b found =>
    have spec := d.heap.call_spec b s.2
    split
    · next exception raised =>
      refine Or.inl ⟨rfl, fun _ _ => ?_⟩
      rcases spec with ⟨_, refused, _⟩ | ⟨_, _, _, _, made, _⟩
      · cases call : s.2 with
        | select => rw [call] at refused; cases refused
        | «where» | order_by | order_by_descending | skip | take | distinct => rfl
      · rw [made] at raised
        cases raised
    · next b' h' made =>
      rcases spec with ⟨_, _, raised⟩ | ⟨operation, _, _, _, made', derived⟩
      · rw [raised] at made
        cases made
      · rw [made'] at made
        cases made
        exact Or.inr ⟨b, operation, b', found, rfl, rfl, derived⟩

/-! ## Without a projection of the builder -/

/-- What holds while `select` has not been called on the builder: nothing that
    its results depend on has changed since the heap `h`, and no derived query
    shares its plan. -/
structure Kept (h : Heap α κ) (d : Derivation α κ) : Prop where
  builder : d.heap.builders.read d.builder = h.builders.read d.builder
  plan : d.heap.plan d.builder = h.plan d.builder
  caches : d.heap.caches = h.caches
  clock : d.heap.clock = h.clock
  reads : d.heap.reads = h.reads
  apart : ∀ b ∈ d.derived, (d.heap.builders.read b).query_plan ≠ (d.heap.builders.read d.builder).query_plan

theorem Kept.step {h : Heap α κ} {d : Derivation α κ} (kept : Kept h d) {s : Nat × FluentCall α κ}
    (unprojected : ¬(s.1 = 0 ∧ s.2.isSelect = true)) : Kept h (d.step s) := by
  rcases d.step_cases s with ⟨same, _⟩ | ⟨b, operation, b', found, source, listed, derived⟩
  · rwa [same]
  · have known := d.known d.builder (by simp)
    have separate (isSelect : s.2.isSelect = true) :
        (d.heap.builders.read b).query_plan ≠ (d.heap.builders.read d.builder).query_plan := by
      obtain ⟨position, calls⟩ := s
      cases position with
      | zero => exact absurd ⟨rfl, isSelect⟩ unprojected
      | succ position => exact kept.apart b (List.mem_of_getElem? found)
    have builder := derived.builders d.builder known
    have plan := derived.plans _ (d.heap.plan_known _) fun isSelect => (separate isSelect).symm
    refine ⟨?_, ?_, derived.caches.trans kept.caches, derived.clock.trans kept.clock, derived.reads.trans kept.reads, ?_⟩
    · rw [source, builder, kept.builder]
    · rw [source, ← kept.plan]
      simp only [Heap.plan, builder, plan]
    · rw [source, listed, builder]
      intro r member
      rcases List.mem_append.mp member with old | new
      · rw [derived.builders r (d.known r (List.mem_cons_of_mem _ old))]
        exact kept.apart r old
      · rw [List.mem_singleton.mp new, derived.query_plan]
        split
        · next isSelect => exact separate isSelect
        · exact (Nat.ne_of_lt (d.heap.plan_known _)).symm

theorem Kept.run {h : Heap α κ} {d : Derivation α κ} (kept : Kept h d) (steps : List (Nat × FluentCall α κ))
    (unprojected : ∀ s ∈ steps, ¬(s.1 = 0 ∧ s.2.isSelect = true)) : Kept h (d.run steps) := by
  refine List.foldlRecOn (motive := Kept h) steps Derivation.step kept ?_
  intro d kept s member
  exact kept.step (unprojected s member)

/-! ## With one -/

theorem builder_step (d : Derivation α κ) (s : Nat × FluentCall α κ) : (d.step s).builder = d.builder := by
  rcases d.step_cases s with ⟨same, _⟩ | ⟨_, _, _, _, source, _⟩
  · rw [same]
  · exact source

theorem builder_run (d : Derivation α κ) (steps : List (Nat × FluentCall α κ)) : (d.run steps).builder = d.builder :=
  List.foldlRecOn (motive := fun e : Derivation α κ => e.builder = d.builder) steps step rfl
    fun e same s _ => (e.builder_step s).trans same

/-- The number of operations of the builder. -/
def length (d : Derivation α κ) : Nat := (d.heap.operations d.builder).length

/-- A step adds operations to the builder or leaves them; a projection of the
    builder adds one. -/
theorem length_step (d : Derivation α κ) (s : Nat × FluentCall α κ) :
    d.length ≤ (d.step s).length ∧ (s.1 = 0 → s.2.isSelect = true → d.length < (d.step s).length) := by
  rcases d.step_cases s with ⟨same, idle⟩ | ⟨b, operation, b', found, source, _, derived⟩
  · rw [same]
    refine ⟨Nat.le_refl _, fun first isSelect => ?_⟩
    have unprojected := idle d.builder (by rw [first]; rfl)
    rw [unprojected] at isSelect
    cases isSelect
  · have grown := derived.operations_old (d.known d.builder (by simp))
    rw [length, length, source, grown]
    constructor
    · split <;> simp
    · intro first isSelect
      have same : d.builder = b := by rw [first] at found; exact Option.some.inj found
      rw [if_pos ⟨isSelect, by rw [same]⟩]
      simp

theorem length_run (d : Derivation α κ) (steps : List (Nat × FluentCall α κ)) : d.length ≤ (d.run steps).length :=
  List.foldlRecOn (motive := fun e : Derivation α κ => d.length ≤ e.length) steps step (Nat.le_refl _)
    fun e grown s _ => grown.trans (e.length_step s).1

theorem length_run_projected (d : Derivation α κ) (steps : List (Nat × FluentCall α κ))
    (projected : ∃ s ∈ steps, s.1 = 0 ∧ s.2.isSelect = true) : d.length < (d.run steps).length := by
  induction steps generalizing d with
  | nil => simp at projected
  | cons s rest ih =>
    obtain ⟨t, member, first, isSelect⟩ := projected
    rcases List.mem_cons.mp member with rfl | later
    · exact Nat.lt_of_lt_of_le ((d.length_step t).2 first isSelect) ((d.step t).length_run rest)
    · exact Nat.lt_of_le_of_lt (d.length_step s).1 (ih (d.step s) ⟨t, later, first, isSelect⟩)

end Derivation

section
variable [DecidableEq α] [LinearOrder κ] (provider : Provider α) (query_hash : List (String × String) → String)

/-- A builder has the operations and the results it had, whatever is derived from
    it, exactly when `select` is not called on the builder itself. -/
theorem builder_persists_iff (h : Heap α κ) (q : h.builders.Ref) (steps : List (Nat × FluentCall α κ)) :
    (((Derivation.start h q).run steps).heap.operations q = h.operations q ∧
      (((Derivation.start h q).run steps).heap.to_list provider query_hash q).1 = (h.to_list provider query_hash q).1) ↔
    ∀ s ∈ steps, ¬(s.1 = 0 ∧ s.2.isSelect = true) := by
  have source := (Derivation.start h q).builder_run steps
  constructor
  · rintro ⟨same, _⟩ s member ⟨first, isSelect⟩
    have longer := (Derivation.start h q).length_run_projected steps ⟨s, member, first, isSelect⟩
    rw [Derivation.length, Derivation.length, source] at longer
    exact absurd (congrArg List.length same) (Nat.ne_of_gt longer)
  · intro unprojected
    have start : Derivation.Kept h (Derivation.start h q) := ⟨rfl, rfl, rfl, rfl, rfl, by simp [Derivation.start]⟩
    have kept := start.run steps unprojected
    have builder := kept.builder
    have plan := kept.plan
    rw [source] at builder plan
    exact ⟨congrArg QueryPlan.operations plan, Heap.to_list_congr provider query_hash builder plan kept.caches kept.clock kept.reads⟩

end

/-- A query over one element is projected, and has the projected result itself. -/
theorem select_changes_builder :
    ¬∀ (provider : Provider Nat) (query_hash : List (String × String) → String) (h : Heap Nat Nat) (q : h.builders.Ref)
        (steps : List (Nat × FluentCall Nat Nat)),
      ((Derivation.start h q).run steps).heap.operations q = h.operations q ∧
        (((Derivation.start h q).run steps).heap.to_list provider query_hash q).1 = (h.to_list provider query_hash q).1 := by
  intro persists
  let provider : Provider Nat := ⟨fun _ => .ok [1], fun _ _ => .ok [1], fun _ _ => .ok none⟩
  let h : Heap Nat Nat := (Heap.init.new_builder none none).2
  let steps : List (Nat × FluentCall Nat Nat) := [(0, .select ⟨fun n => n + 1, "lambda n: n + 1"⟩)]
  have before : (h.to_list provider (fun _ => "") 0).1 = .ok ⟨.list [1], 0⟩ := by decide +kernel
  have after : (((Derivation.start h ⟨0, Nat.one_pos⟩).run steps).heap.to_list provider (fun _ => "") 0).1 =
      .ok ⟨.list [2], 0⟩ := by decide +kernel
  have same := (persists provider (fun _ => "") h ⟨0, Nat.one_pos⟩ steps).2
  rw [after, before] at same
  cases same

end RevitPy
