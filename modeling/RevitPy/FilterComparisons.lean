import RevitPy.Scalars

/-!
# Comparisons of a filter

The six comparisons of a filter agree with each other where both values are there:
two values meet as texts or as numbers. Without one of them every comparison has the
answer of an equality, a filter for inequality too.
-/

namespace RevitPy.Api

variable {ρ : Type} [LinearOrder ρ] {α : Type} (numbers : Numbers ρ) (texts : TextLibrary ρ)
  (source : ElementSource α (Scalar ρ))

/-- Comparisons that fit together. -/
structure Coherent (holds : FilterOperator → Bool) : Prop where
  not_equals : holds .NOT_EQUALS ↔ ¬holds .EQUALS
  greater_than : holds .EQUALS → ¬holds .GREATER_THAN
  less_than : holds .EQUALS → ¬holds .LESS_THAN
  greater_equal : holds .GREATER_EQUAL ↔ holds .GREATER_THAN ∨ holds .EQUALS
  less_equal : holds .LESS_EQUAL ↔ holds .LESS_THAN ∨ holds .EQUALS

/-- The operator for a comparison. -/
def Comparison.operator : Comparison → FilterOperator
  | .eq => .EQUALS
  | .ne => .NOT_EQUALS
  | .gt => .GREATER_THAN
  | .lt => .LESS_THAN
  | .ge => .GREATER_EQUAL
  | .le => .LESS_EQUAL

/-- The comparisons of a linear order fit together. -/
theorem coherent_of_holds {β : Type} [LinearOrder β] {a b : β} {holds : FilterOperator → Bool}
    (compared : ∀ comparison : Comparison, holds comparison.operator = comparison.holds a b) : Coherent holds := by
  have eq := compared .eq
  have ne := compared .ne
  have gt := compared .gt
  have lt := compared .lt
  have ge := compared .ge
  have le := compared .le
  simp only [Comparison.operator, Comparison.holds] at eq ne gt lt ge le
  constructor
  · simp [eq, ne]
  · simp only [eq, gt, decide_eq_true_eq]
    exact fun same => same ▸ lt_irrefl a
  · simp only [eq, lt, decide_eq_true_eq]
    exact fun same => same ▸ lt_irrefl a
  · simp only [eq, gt, ge, decide_eq_true_eq, ge_iff_le, gt_iff_lt]
    rw [le_iff_lt_or_eq, eq_comm]
  · simp only [eq, lt, le, decide_eq_true_eq]
    exact le_iff_lt_or_eq

namespace FilterCriteria

/-- The answers of a filter on an element, by its operator. -/
def answers (property_name : String) (value : Option (Scalar ρ)) (case_sensitive : Bool) (element : α)
    (operator : FilterOperator) : Bool :=
  (FilterCriteria.mk property_name operator value case_sensitive).apply (Objects.scalars numbers texts) source element

/-- A comparison of two values that are there is one of texts or one of numbers. -/
theorem compare_values_some (a b : Scalar ρ) :
    (∃ s t : String, ∀ comparison, _compare_values (Objects.scalars numbers texts) (some a) (some b)
      ((Objects.scalars numbers texts).compare comparison) = .ok (comparison.holds s t)) ∨
    ∃ m n : ρ, ∀ comparison, _compare_values (Objects.scalars numbers texts) (some a) (some b)
      ((Objects.scalars numbers texts).compare comparison) = .ok (comparison.holds m n) := by
  cases a with
  | str s => cases b with
    | str t => exact .inl ⟨s, t, fun _ => rfl⟩
    | num n => exact .inl ⟨s, numbers.str n, fun _ => rfl⟩
  | num m => cases b with
    | str t => exact .inl ⟨numbers.str m, t, fun _ => rfl⟩
    | num n => exact .inr ⟨m, n, fun _ => rfl⟩

/-- Without one of the values every comparison tells whether both are missing. -/
theorem compare_values_none {a b : Option (Scalar ρ)} (missing : a = none ∨ b = none)
    (comparator : Scalar ρ → Scalar ρ → Except Fault Bool) :
    _compare_values (Objects.scalars numbers texts) a b comparator = .ok (a.isNone ∧ b.isNone) := by
  rcases missing with rfl | rfl
  · rfl
  · cases a <;> rfl

variable {numbers texts source}

/-- An operator that compares answers what the comparison of the values answers. -/
theorem answers_operator {property_name : String} {value element_value : Option (Scalar ρ)} {case_sensitive : Bool} {element : α}
    (readable : source.get_parameter_value element property_name = .ok element_value) (comparison : Comparison) {answer : Bool}
    (compared : _compare_values (Objects.scalars numbers texts) element_value value
      ((Objects.scalars numbers texts).compare comparison) = .ok answer) :
    answers numbers texts source property_name value case_sensitive element comparison.operator = answer := by
  cases comparison <;> simp only [answers, apply, readable, test, Comparison.operator, compared]

theorem not_coherent_of_none {property_name : String} {value element_value : Option (Scalar ρ)} {case_sensitive : Bool} {element : α}
    (readable : source.get_parameter_value element property_name = .ok element_value) (missing : element_value = none ∨ value = none) :
    ¬Coherent (answers numbers texts source property_name value case_sensitive element) := by
  intro coherent
  have all (comparison : Comparison) : answers numbers texts source property_name value case_sensitive element comparison.operator
      = decide (element_value.isNone ∧ value.isNone) :=
    answers_operator readable comparison (compare_values_none numbers texts missing _)
  have := coherent.not_equals
  rw [show FilterOperator.EQUALS = Comparison.eq.operator from rfl, show FilterOperator.NOT_EQUALS = Comparison.ne.operator from rfl,
    all, all] at this
  exact iff_not_self this

/-- The comparisons of a filter fit together exactly where neither value is missing. -/
theorem coherent_iff {property_name : String} {value element_value : Option (Scalar ρ)} {case_sensitive : Bool} {element : α}
    (readable : source.get_parameter_value element property_name = .ok element_value) :
    Coherent (answers numbers texts source property_name value case_sensitive element) ↔ element_value ≠ none ∧ value ≠ none := by
  constructor
  · intro coherent
    refine ⟨fun missing => ?_, fun missing => ?_⟩
    · exact not_coherent_of_none readable (.inl missing) coherent
    · exact not_coherent_of_none readable (.inr missing) coherent
  · rintro ⟨there, there'⟩
    obtain ⟨a, rfl⟩ := Option.ne_none_iff_exists'.mp there
    obtain ⟨b, rfl⟩ := Option.ne_none_iff_exists'.mp there'
    rcases compare_values_some numbers texts a b with ⟨s, t, compared⟩ | ⟨m, n, compared⟩
    · exact coherent_of_holds fun comparison => answers_operator readable comparison (compared comparison)
    · exact coherent_of_holds fun comparison => answers_operator readable comparison (compared comparison)

/-- An element with the number 7, on which a filter for the text "7" is asked. -/
theorem coherent_on_seven :
    let source : ElementSource Unit (Scalar Int) := ⟨.ok [()], fun _ => .ok [], fun _ _ => .ok (some (.num 7))⟩
    Coherent (answers integers plain_texts source "Mark" (some (.str "7")) true ()) :=
  (coherent_iff rfl).mpr ⟨by decide, by decide⟩

/-- An element without comments passes the filters for comments that are none and that are not. -/
theorem none_equals_and_not :
    let source : ElementSource Unit (Scalar Int) := ⟨.ok [()], fun _ => .ok [], fun _ _ => .ok none⟩
    answers integers plain_texts source "Comments" none true () .EQUALS = true ∧
      answers integers plain_texts source "Comments" none true () .NOT_EQUALS = true ∧
      ¬Coherent (answers integers plain_texts source "Comments" none true ()) :=
  ⟨rfl, rfl, fun coherent => coherent.not_equals.mp rfl rfl⟩

end FilterCriteria

end RevitPy.Api
