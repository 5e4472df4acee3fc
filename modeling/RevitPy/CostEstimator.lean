import Mathlib.Algebra.BigOperators.Group.List.Basic
import Mathlib.Algebra.Order.Ring.Rat
import Mathlib.Data.List.Infix
import RevitPy.Dict
import RevitPy.Strings

/-!
# Cost estimates

The unit cost of a category is looked up in three stages: as it is written, whatever the
case, and by a part of it. In each stage the first entry of the database that fits is
taken, so that its order matters where entries of the stage that decides differ.
-/

namespace RevitPy

inductive QuantityType
  | AREA
  | VOLUME
  | LENGTH
  | COUNT
  | WEIGHT
  deriving DecidableEq

def QuantityType.value : QuantityType → String
  | .AREA => "area"
  | .VOLUME => "volume"
  | .LENGTH => "length"
  | .COUNT => "count"
  | .WEIGHT => "weight"

inductive CostSource
  | CSV_FILE
  | JSON_FILE
  | YAML_FILE
  | MANUAL
  deriving DecidableEq

/-- A single extracted quantity from an element. -/
structure QuantityItem (ρ : Type) where
  element_name : String
  category : String
  quantity_type : QuantityType
  value : ρ
  unit : String
  level : String := ""
  system : String := ""

/-- A single cost line item. -/
structure CostItem (ρ : Type) where
  description : String
  quantity : ρ
  unit : String
  unit_cost : ρ
  total_cost : ρ
  source : CostSource := .MANUAL
  category : String := ""
  system : String := ""

/-- Summary of cost estimation results. -/
structure CostSummary (ρ : Type) where
  items : List (CostItem ρ) := []
  total_cost : ρ
  by_category : Dict String ρ := ∅
  by_system : Dict String ρ := ∅
  by_level : Dict String ρ := ∅
  currency : String := "USD"

structure CostEstimator (ρ : Type) where
  _database : Dict String ρ := ∅
  _source : CostSource := .MANUAL

section
variable {ρ : Type}

namespace CostEstimator
variable (u : CaseTable) (self : CostEstimator ρ)

/-- `part in whole` -/
def within (part whole : String) : Bool := decide (part.toList <:+: whole.toList)

def same_name (category key : String) : Bool := u.lower key = u.lower category

def part_name (category key : String) : Bool := within (u.lower key) (u.lower category) || within (u.lower category) (u.lower key)

/-- Look up unit cost for a quantity item. -/
def _lookup_cost (qty : QuantityItem ρ) : Option ρ :=
  match self._database.get? qty.category with
  | some cost => some cost
  | none => match self._database.entries.find? fun entry => same_name u qty.category entry.1 with
    | some entry => some entry.2
    | none => match self._database.entries.find? fun entry => part_name u qty.category entry.1 with
      | some entry => some entry.2
      | none => none

end CostEstimator

section
variable [Zero ρ] [Add ρ] [Mul ρ]

/-- `totals[key] += cost`, where what is missing counts as zero. -/
def add_cost (totals : Dict String ρ) (key : String) (cost : ρ) : Dict String ρ := totals.set key (totals.getD key 0 + cost)

def CostSummary.add (summary : CostSummary ρ) (source : CostSource) (qty : QuantityItem ρ) (unit_cost : ρ) : CostSummary ρ :=
  let line_cost := qty.value * unit_cost
  { summary with
    items := summary.items ++ [{
      description := qty.element_name ++ " - " ++ qty.quantity_type.value
      quantity := qty.value
      unit := qty.unit
      unit_cost
      total_cost := line_cost
      source
      category := qty.category
      system := qty.system }]
    total_cost := summary.total_cost + line_cost
    by_category := add_cost summary.by_category qty.category line_cost
    by_system := if qty.system = "" then summary.by_system else add_cost summary.by_system qty.system line_cost
    by_level := if qty.level = "" then summary.by_level else add_cost summary.by_level qty.level line_cost }

/-- A quantity without a cost is skipped. -/
def CostEstimator.add_quantity (u : CaseTable) (self : CostEstimator ρ) (summary : CostSummary ρ) (qty : QuantityItem ρ) : CostSummary ρ :=
  match self._lookup_cost u qty with
  | none => summary
  | some unit_cost => summary.add self._source qty unit_cost

/-- Map quantities to costs and produce a summary. -/
def CostEstimator.estimate (u : CaseTable) (self : CostEstimator ρ) (quantities : List (QuantityItem ρ)) : CostSummary ρ :=
  quantities.foldl (self.add_quantity u) { total_cost := 0 }

end

/-! ## Stages -/

/-- What the first predicate that any of the entries fits lets through. -/
def stage (entries : List (String × ρ)) : List (String → Bool) → List ρ
  | [] => []
  | fits :: later =>
    if entries.any fun entry => fits entry.1 then (entries.filter fun entry => fits entry.1).map Prod.snd
    else stage entries later

theorem stage_perm {entries others : List (String × ρ)} (perm : entries.Perm others) (stages : List (String → Bool)) :
    (stage entries stages).Perm (stage others stages) := by
  induction stages with
  | nil => exact .refl _
  | cons fits later ih =>
    have same : (entries.any fun entry => fits entry.1) = others.any fun entry => fits entry.1 := perm.any_eq
    simp only [stage, same]
    split
    · exact (perm.filter _).map _
    · exact ih

/-- Each of the costs that are let through comes first in some order of the entries. -/
theorem first_in_some_order {entries : List (String × ρ)} {stages : List (String → Bool)} {cost : ρ}
    (member : cost ∈ stage entries stages) : ∃ others, others.Perm entries ∧ (stage others stages).head? = some cost := by
  induction stages with
  | nil => cases member
  | cons fits later ih =>
    rw [stage] at member
    split at member
    · obtain ⟨entry, inside, rfl⟩ := List.mem_map.mp member
      obtain ⟨known, fitting⟩ := List.mem_filter.mp inside
      obtain ⟨before, after, rfl⟩ := List.append_of_mem known
      refine ⟨entry :: (before ++ after), List.perm_middle.symm, ?_⟩
      simp [stage, fitting]
    · next nobody =>
      obtain ⟨others, perm, first⟩ := ih member
      have same : (others.any fun entry => fits entry.1) = entries.any fun entry => fits entry.1 := perm.any_eq
      exact ⟨others, perm, by rw [stage, same, if_neg nobody, first]⟩

namespace CostEstimator
variable (u : CaseTable) (self : CostEstimator ρ)

/-- The costs among which the order of the database decides. -/
def candidates (database : Dict String ρ) (category : String) : List ρ :=
  stage database.entries [fun key => key = category, same_name u category, part_name u category]

theorem get?_eq_find? (database : Dict String ρ) (category : String) :
    database.get? category = (database.entries.find? fun entry => entry.1 = category).map Prod.snd := by
  rw [Dict.get?]
  induction database.entries with
  | nil => rfl
  | cons entry rest ih =>
    by_cases same : entry.1 = category
    · simp [Dict.find, same]
    · simp [Dict.find, same, ih]

/-- The first entry that fits is the first of the stage, if the stage decides. -/
theorem head?_stage (entries : List (String × ρ)) (fits : String → Bool) (later : List (String → Bool)) :
    (stage entries (fits :: later)).head? =
      match entries.find? fun entry => fits entry.1 with
      | some entry => some entry.2
      | none => (stage entries later).head? := by
  rw [stage]
  cases found : entries.find? fun entry => fits entry.1 with
  | none =>
    have nobody : ¬ (entries.any fun entry => fits entry.1) = true := by
      rw [List.any_eq_true]
      rintro ⟨entry, member, fitting⟩
      exact List.find?_eq_none.mp found entry member fitting
    rw [if_neg nobody]
  | some entry =>
    have fitting : (entries.any fun entry => fits entry.1) = true :=
      List.any_eq_true.mpr ⟨entry, List.mem_of_find?_eq_some found, List.find?_some (p := fun entry : String × ρ => fits entry.1) found⟩
    rw [if_pos fitting, List.head?_map, List.head?_filter, found, Option.map_some]

theorem _lookup_cost_eq (qty : QuantityItem ρ) : self._lookup_cost u qty = (candidates u self._database qty.category).head? := by
  rw [_lookup_cost, candidates, head?_stage, head?_stage, head?_stage, get?_eq_find?]
  cases self._database.entries.find? fun entry => decide (entry.1 = qty.category) with
  | some entry => rfl
  | none => rfl

/-- All entries of the stage that decides have one cost. -/
def Unambiguous (database : Dict String ρ) (category : String) : Prop :=
  ∀ cost ∈ candidates u database category, ∀ cost' ∈ candidates u database category, cost = cost'

/-- The cost of a line, if there is a unit cost. -/
def line_cost [Mul ρ] (qty : QuantityItem ρ) : Option ρ := (self._lookup_cost u qty).map (qty.value * ·)

end CostEstimator

/-! ## What is reported -/

/-- The line costs and totals of two summaries are the same. -/
structure SameCosts (a b : CostSummary ρ) : Prop where
  lines : a.items.map CostItem.total_cost = b.items.map CostItem.total_cost
  total_cost : a.total_cost = b.total_cost
  by_category : a.by_category = b.by_category
  by_system : a.by_system = b.by_system
  by_level : a.by_level = b.by_level

/-- The categories and the lines add up to the total. -/
structure AddsUp [Zero ρ] [Add ρ] (summary : CostSummary ρ) : Prop where
  categories : summary.by_category.values.sum = summary.total_cost
  lines : (summary.items.map CostItem.total_cost).sum = summary.total_cost

section
variable [Semiring ρ] {u : CaseTable} {self other : CostEstimator ρ}

theorem SameCosts.add {a b : CostSummary ρ} (same : SameCosts a b) {source source' : CostSource} {qty : QuantityItem ρ} {cost cost' : ρ}
    (line : qty.value * cost = qty.value * cost') : SameCosts (a.add source qty cost) (b.add source' qty cost') := by
  refine ⟨?_, ?_, ?_, ?_, ?_⟩
  · simp [CostSummary.add, same.lines, line]
  · simp [CostSummary.add, same.total_cost, line]
  · simp [CostSummary.add, same.by_category, line]
  · simp [CostSummary.add, same.by_system, line]
  · simp [CostSummary.add, same.by_level, line]

theorem SameCosts.add_quantity {a b : CostSummary ρ} (same : SameCosts a b) {qty : QuantityItem ρ}
    (line : self.line_cost u qty = other.line_cost u qty) : SameCosts (self.add_quantity u a qty) (other.add_quantity u b qty) := by
  unfold CostEstimator.line_cost at line
  unfold CostEstimator.add_quantity
  cases here : self._lookup_cost u qty with
  | none =>
    cases there : other._lookup_cost u qty with
    | none => exact same
    | some cost' => simp [here, there] at line
  | some cost =>
    cases there : other._lookup_cost u qty with
    | none => simp [here, there] at line
    | some cost' => exact same.add (by simpa [here, there] using line)

/-- What is reported depends on the line costs alone. -/
theorem same_costs {quantities : List (QuantityItem ρ)} (same : ∀ qty ∈ quantities, self.line_cost u qty = other.line_cost u qty) :
    SameCosts (self.estimate u quantities) (other.estimate u quantities) := by
  have after (a b : CostSummary ρ) (start : SameCosts a b) :
      SameCosts (quantities.foldl (self.add_quantity u) a) (quantities.foldl (other.add_quantity u) b) := by
    induction quantities generalizing a b with
    | nil => exact start
    | cons qty rest ih =>
      exact ih (fun later member => same later (List.mem_cons_of_mem _ member)) _ _ (start.add_quantity (same qty List.mem_cons_self))
  exact after _ _ ⟨rfl, rfl, rfl, rfl, rfl⟩

/-- The lines are those of the quantities that have a cost. -/
theorem lines_estimate (quantities : List (QuantityItem ρ)) :
    (self.estimate u quantities).items.map CostItem.total_cost = quantities.filterMap (self.line_cost u) := by
  have after (a : CostSummary ρ) : (quantities.foldl (self.add_quantity u) a).items.map CostItem.total_cost =
      a.items.map CostItem.total_cost ++ quantities.filterMap (self.line_cost u) := by
    induction quantities generalizing a with
    | nil => simp
    | cons qty rest ih =>
      rw [List.foldl_cons, ih, CostEstimator.add_quantity, List.filterMap_cons, CostEstimator.line_cost]
      cases self._lookup_cost u qty with
      | none => rfl
      | some cost => simp [CostSummary.add]
  exact after _

theorem sum_add_cost (totals : Dict String ρ) (key : String) (cost : ρ) :
    (add_cost totals key cost).values.sum = totals.values.sum + cost := by
  have put (items : List (String × ρ)) (distinct : (items.map Prod.fst).Nodup) :
      ((Dict.put items key ((Dict.find items key).getD 0 + cost)).map Prod.snd).sum = (items.map Prod.snd).sum + cost := by
    induction items with
    | nil => simp [Dict.put, Dict.find]
    | cons item rest ih =>
      obtain ⟨fresh, distinct⟩ := List.nodup_cons.mp distinct
      by_cases same : item.1 = key
      · simp [Dict.put, Dict.find, same, add_right_comm]
      · simp [Dict.put, Dict.find, same, ih distinct, add_assoc]
  exact put totals.entries totals.nodup

theorem AddsUp.add_quantity {summary : CostSummary ρ} (sums : AddsUp summary) (qty : QuantityItem ρ) :
    AddsUp (self.add_quantity u summary qty) := by
  unfold CostEstimator.add_quantity
  cases self._lookup_cost u qty with
  | none => exact sums
  | some cost =>
    constructor
    · simp only [CostSummary.add, sum_add_cost, sums.categories]
    · simp [CostSummary.add, sums.lines]

theorem adds_up (quantities : List (QuantityItem ρ)) : AddsUp (self.estimate u quantities) :=
  List.foldlRecOn (motive := AddsUp) quantities (self.add_quantity u) ⟨rfl, rfl⟩ fun _ sums qty _ => sums.add_quantity qty

end

/-! ## The order of the database -/

/-- The entries of a database in another order. -/
def Reordered (database : Dict String ρ) (other : Dict String ρ) : Prop := other.entries.Perm database.entries

theorem candidates_perm (u : CaseTable) {database other : Dict String ρ} (order : Reordered database other) (category : String) :
    (CostEstimator.candidates u other category).Perm (CostEstimator.candidates u database category) := stage_perm order _

/-- Each candidate is found in some order. -/
theorem found_in_some_order {u : CaseTable} {self : CostEstimator ρ} {qty : QuantityItem ρ} {cost : ρ}
    (member : cost ∈ CostEstimator.candidates u self._database qty.category) :
    ∃ other, Reordered self._database other ∧ { self with _database := other }._lookup_cost u qty = some cost := by
  obtain ⟨others, perm, first⟩ := first_in_some_order member
  have distinct : (others.map Prod.fst).Nodup := (perm.map _).nodup_iff.mpr self._database.nodup
  exact ⟨⟨others, distinct⟩, perm, by rw [CostEstimator._lookup_cost_eq]; exact first⟩

/-- Whether there is a cost does not depend on the order. -/
theorem isSome_lookup (u : CaseTable) {self : CostEstimator ρ} {other : Dict String ρ} (order : Reordered self._database other)
    (qty : QuantityItem ρ) : ({ self with _database := other }._lookup_cost u qty).isSome = (self._lookup_cost u qty).isSome := by
  rw [CostEstimator._lookup_cost_eq, CostEstimator._lookup_cost_eq, Bool.eq_iff_iff, List.isSome_head?, List.isSome_head?]
  have perm := candidates_perm u order qty.category
  exact not_congr ⟨fun empty => List.perm_nil.mp (empty ▸ perm.symm), fun empty => List.perm_nil.mp (empty ▸ perm)⟩

theorem eq_of_filterMap_eq {α β : Type} {f g : α → Option β} {l : List α} (same : l.filterMap f = l.filterMap g)
    (known : ∀ a ∈ l, (f a).isSome = (g a).isSome) : ∀ a ∈ l, f a = g a := by
  induction l with
  | nil => simp
  | cons a rest ih =>
    have here := known a List.mem_cons_self
    have later := fun b member => known b (List.mem_cons_of_mem a member)
    cases first : f a with
    | none =>
      have second : g a = none := by simpa [first] using here.symm
      rw [List.filterMap_cons_none first, List.filterMap_cons_none second] at same
      rintro b (_ | ⟨_, member⟩)
      · rw [first, second]
      · exact ih same later b member
    | some x =>
      obtain ⟨y, second⟩ := Option.isSome_iff_exists.mp (here.symm.trans (by rw [first]; rfl))
      rw [List.filterMap_cons_some first, List.filterMap_cons_some second, List.cons.injEq] at same
      rintro b (_ | ⟨_, member⟩)
      · rw [first, second, same.1]
      · exact ih same.2 later b member

section
variable {u : CaseTable} {self : CostEstimator ℚ} {quantities : List (QuantityItem ℚ)}

/-- In an order that reports the same, the cost found for a quantity comes to the same. -/
theorem line_cost_of_same_costs {other : Dict String ℚ} (order : Reordered self._database other)
    (same : SameCosts ({ self with _database := other }.estimate u quantities) (self.estimate u quantities)) :
    ∀ qty ∈ quantities, { self with _database := other }.line_cost u qty = self.line_cost u qty := by
  have lines := same.lines
  rw [lines_estimate, lines_estimate] at lines
  refine eq_of_filterMap_eq lines fun qty _ => ?_
  simp only [CostEstimator.line_cost, Option.isSome_map]
  exact isSome_lookup u order qty

theorem unambiguous_of_same_costs (same : ∀ other, Reordered self._database other →
      SameCosts ({ self with _database := other }.estimate u quantities) (self.estimate u quantities))
    {qty : QuantityItem ℚ} (member : qty ∈ quantities) (counts : qty.value ≠ 0) :
    CostEstimator.Unambiguous u self._database qty.category := by
  have comes_to (cost : ℚ) (candidate : cost ∈ CostEstimator.candidates u self._database qty.category) :
      self.line_cost u qty = some (qty.value * cost) := by
    obtain ⟨other, order, found⟩ := found_in_some_order candidate
    rw [← line_cost_of_same_costs order (same other order) qty member, CostEstimator.line_cost, found, Option.map_some]
  intro cost candidate cost' candidate'
  have equal := (comes_to cost candidate).symm.trans (comes_to cost' candidate')
  exact mul_left_cancel₀ counts (Option.some.inj equal)

theorem line_cost_of_unambiguous {other : Dict String ℚ} (order : Reordered self._database other) {qty : QuantityItem ℚ}
    (clear : qty.value ≠ 0 → CostEstimator.Unambiguous u self._database qty.category) :
    { self with _database := other }.line_cost u qty = self.line_cost u qty := by
  have known := isSome_lookup u order qty
  unfold CostEstimator.line_cost
  cases here : self._lookup_cost u qty with
  | none => simpa [here] using known
  | some cost =>
    obtain ⟨cost', there⟩ := Option.isSome_iff_exists.mp (known.trans (by rw [here]; rfl))
    rw [there, Option.map_some, Option.map_some, Option.some.injEq]
    by_cases counts : qty.value = 0
    · rw [counts, zero_mul, zero_mul]
    · rw [CostEstimator._lookup_cost_eq] at here there
      have candidate := List.mem_of_head? here
      have candidate' := (candidates_perm u order qty.category).mem_iff.mp (List.mem_of_head? there)
      rw [clear counts cost' candidate' cost candidate]

end

/-- The order of the database does not show in line costs and totals exactly if, for each quantity that
    is not zero, all entries of the stage that decides have one cost. The totals always add up. -/
theorem estimate_reordered_iff (u : CaseTable) (self : CostEstimator ℚ) (quantities : List (QuantityItem ℚ)) :
    ((∀ other, Reordered self._database other →
        SameCosts ({ self with _database := other }.estimate u quantities) (self.estimate u quantities)) ↔
      ∀ qty ∈ quantities, qty.value ≠ 0 → CostEstimator.Unambiguous u self._database qty.category) ∧
    AddsUp (self.estimate u quantities) := by
  refine ⟨⟨fun same qty member counts => unambiguous_of_same_costs same member counts, fun clear other order => ?_⟩, adds_up quantities⟩
  exact same_costs fun qty member => line_cost_of_unambiguous order (clear qty member)

/-- Two walls in one order and in the other, and a quantity of the category `wall`. -/
theorem walls_reordered : ∃ (database other : Dict String ℚ) (qty : QuantityItem ℚ), Reordered database other ∧
    ¬ SameCosts (CostEstimator.estimate .ascii { _database := other } [qty]) (CostEstimator.estimate .ascii { _database := database } [qty]) := by
  refine ⟨.ofList [("Brick Wall", 1), ("Wood Wall", 2)], .ofList [("Wood Wall", 2), ("Brick Wall", 1)],
    ⟨"Wall-1", "wall", .AREA, 1, "m2", "", ""⟩, ?_, fun same => ?_⟩
  · exact List.Perm.swap ..
  · exact absurd same.total_cost (by decide +kernel)

end
end RevitPy
