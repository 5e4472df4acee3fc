import Mathlib.Algebra.BigOperators.Group.List.Basic
import Mathlib.Algebra.Order.Ring.Rat
import RevitPy.Grouping

/-!
# Material takeoff

Quantities are aggregated by the name of the material. An aggregated quantity keeps the
category and the classification of the first one of its name.
-/

namespace RevitPy

/-- Material quantity data extracted from elements. -/
structure MaterialQuantity (ρ : Type) where
  material_name : String
  category : String
  volume : ρ
  area : ρ
  mass : ρ
  classification_code : String := ""
  classification_system : String := ""
  deriving DecidableEq

namespace MaterialTakeoff
variable {ρ : Type} [AddMonoid ρ]

/-- The quantity of a name after another one of this name. -/
def combine (existing mat : MaterialQuantity ρ) : MaterialQuantity ρ where
  material_name := existing.material_name
  category := existing.category
  volume := existing.volume + mat.volume
  area := existing.area + mat.area
  mass := existing.mass + mat.mass
  classification_code := existing.classification_code
  classification_system := existing.classification_system

def by_name : Grouping.Rule String (MaterialQuantity ρ) := ⟨MaterialQuantity.material_name, combine, fun _ _ => rfl⟩

/-- Aggregate material quantities by material name. -/
def aggregate (materials : List (MaterialQuantity ρ)) : List (MaterialQuantity ρ) :=
  (materials.foldl (fun (aggregated : Dict String (MaterialQuantity ρ)) mat =>
    match aggregated.get? mat.material_name with
    | some existing => aggregated.set mat.material_name (combine existing mat)
    | none => aggregated.set mat.material_name mat) ∅).values

theorem aggregate_eq (materials : List (MaterialQuantity ρ)) : aggregate materials = (Grouping.group by_name materials).values := by
  rw [aggregate, Grouping.group]
  congr 2
  funext aggregated mat
  rw [Grouping.insert]
  change _ = aggregated.set mat.material_name (Grouping.joined by_name (aggregated.get? mat.material_name) mat)
  cases aggregated.get? mat.material_name <;> rfl

theorem combine_assoc (a b c : MaterialQuantity ρ) : combine (combine a b) c = combine a (combine b c) := by
  simp only [combine, add_assoc]

/-- The names stand in the order in which they first occur. -/
theorem names_aggregate (materials : List (MaterialQuantity ρ)) :
    (aggregate materials).map MaterialQuantity.material_name = (materials.map MaterialQuantity.material_name).eraseDups := by
  have keyed : Grouping.Keyed by_name (Grouping.group by_name materials) := Grouping.keyed_group materials
  rw [aggregate_eq]
  exact (Grouping.keys_values keyed).trans (Grouping.keys_group materials)

theorem aggregate_append (xs ys : List (MaterialQuantity ρ)) : aggregate (aggregate xs ++ aggregate ys) = aggregate (xs ++ ys) := by
  simp only [aggregate_eq]
  rw [Grouping.group_append combine_assoc]

/-- The quantities of an aggregated material are the sums over the materials of its name, and the
    first of these gives the rest. -/
structure Aggregates (materials : List (MaterialQuantity ρ)) (m : MaterialQuantity ρ) : Prop where
  volume : m.volume = (materials.map MaterialQuantity.volume).sum
  area : m.area = (materials.map MaterialQuantity.area).sum
  mass : m.mass = (materials.map MaterialQuantity.mass).sum
  category : materials.head?.map MaterialQuantity.category = some m.category
  classification_code : materials.head?.map MaterialQuantity.classification_code = some m.classification_code
  classification_system : materials.head?.map MaterialQuantity.classification_system = some m.classification_system

theorem aggregates (materials : List (MaterialQuantity ρ)) (m : MaterialQuantity ρ) (member : m ∈ aggregate materials) :
    Aggregates (materials.filter fun mat => mat.material_name = m.material_name) m := by
  rw [aggregate_eq] at member
  have made := Grouping.gathered_of_mem member
  constructor
  · exact Grouping.sum_gathered (fun _ _ => rfl) made
  · exact Grouping.sum_gathered (fun _ _ => rfl) made
  · exact Grouping.sum_gathered (fun _ _ => rfl) made
  · exact Grouping.first_gathered (fun _ _ => rfl) made
  · exact Grouping.first_gathered (fun _ _ => rfl) made
  · exact Grouping.first_gathered (fun _ _ => rfl) made

/-- Aggregation is a homomorphism, and gives one quantity a name, which adds up those of the name. -/
theorem aggregate_hom (xs ys : List (MaterialQuantity ρ)) :
    aggregate (xs ++ ys) = aggregate (aggregate xs ++ aggregate ys) ∧
      (aggregate xs).map MaterialQuantity.material_name = (xs.map MaterialQuantity.material_name).eraseDups ∧
      ∀ m ∈ aggregate xs, Aggregates (xs.filter fun mat => mat.material_name = m.material_name) m :=
  ⟨(aggregate_append xs ys).symm, names_aggregate xs, aggregates xs⟩

end MaterialTakeoff
end RevitPy
