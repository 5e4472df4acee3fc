import RevitPy.Scalars

/-!
# The order of a query's result

A query sorts by one tuple of keys for each element. For a descending criterion a number
is negated, which turns the order of numbers round, and a text is written backwards, which
does not do so for texts. So the criteria order the result only where the texts that decide
happen to compare the other way when they are read backwards.
-/

namespace RevitPy.Api

open StableSort

variable {ρ : Type} [LinearOrder ρ] {α : Type} (numbers : Numbers ρ) (texts : TextLibrary ρ)
  (source : ElementSource α (Scalar ρ))

namespace SortCriteria

/-- The sort key of an element. -/
def key (c : SortCriteria) (x : α) : Scalar ρ := c.get_sort_key (Objects.scalars numbers texts) source x

/-- The sort key as the code directs it. -/
def directed (c : SortCriteria) (x : α) : Scalar ρ := c.directed_key (Objects.scalars numbers texts) source x

/-- What the criterion asks for: `x` may stand before `y`. -/
def in_order (c : SortCriteria) (x y : α) : Bool :=
  match c.direction with
  | .ASCENDING => (c.key numbers texts source x).le (c.key numbers texts source y)
  | .DESCENDING => (c.key numbers texts source y).le (c.key numbers texts source x)

/-- What the code compares. -/
def keyed (c : SortCriteria) (x y : α) : Bool :=
  (c.directed numbers texts source x).le (c.directed numbers texts source y)

/-- The values of the property are all texts or all numbers. -/
def Uniform (c : SortCriteria) (elements : List α) : Prop :=
  (∀ x ∈ elements, ∃ s, c.key numbers texts source x = .str s) ∨ ∀ x ∈ elements, ∃ n, c.key numbers texts source x = .num n

/-- If `c` asks for descending texts, the texts of the two compare the other way when read backwards. -/
def TurnsRound (c : SortCriteria) (x y : α) : Prop :=
  c.direction = .DESCENDING → ∀ s t, c.key numbers texts source x = .str s → c.key numbers texts source y = .str t →
    (reversed s < reversed t ↔ t < s)

theorem in_order_totalPreorder (c : SortCriteria) : TotalPreorder (c.in_order numbers texts source) := by
  have ordered := Scalar.le_totalPreorder.on (c.key numbers texts source)
  unfold in_order
  cases c.direction with
  | ASCENDING => exact ordered
  | DESCENDING => exact ordered.flip

theorem keyed_totalPreorder (c : SortCriteria) : TotalPreorder (c.keyed numbers texts source) :=
  Scalar.le_totalPreorder.on (c.directed numbers texts source)

variable {numbers texts source}

theorem eq_of_in_order {c : SortCriteria} {x y : α} (first : c.in_order numbers texts source x y = true)
    (second : c.in_order numbers texts source y x = true) : c.key numbers texts source x = c.key numbers texts source y := by
  unfold in_order at first second
  cases direction : c.direction with
  | ASCENDING =>
    rw [direction] at first second
    exact Scalar.eq_of_le_of_le first second
  | DESCENDING =>
    rw [direction] at first second
    exact Scalar.eq_of_le_of_le second first

theorem directed_ascending {c : SortCriteria} (ascending : c.direction = .ASCENDING) (x : α) :
    c.directed numbers texts source x = c.key numbers texts source x := by
  simp only [directed, directed_key, ascending, key]

theorem directed_descending_str {c : SortCriteria} (descending : c.direction = .DESCENDING) {x : α} {s : String}
    (text : c.key numbers texts source x = .str s) : c.directed numbers texts source x = .str (reversed s) := by
  unfold key at text
  simp only [directed, directed_key, descending, text]
  by_cases empty : s = ""
  · subst empty
    simp [Objects.scalars, reversed]
  · simp [Objects.scalars, empty]

theorem directed_descending_num {c : SortCriteria} (descending : c.direction = .DESCENDING) {x : α} {n : ρ}
    (number : c.key numbers texts source x = .num n) : c.directed numbers texts source x = .num (numbers.neg n) := by
  unfold key at number
  simp only [directed, directed_key, descending, number]
  simp [Objects.scalars]

variable (numbers texts source) in
/-- The keys of two elements are two texts or two numbers. -/
def Comparable (c : SortCriteria) (x y : α) : Prop :=
  (∃ s t, c.key numbers texts source x = .str s ∧ c.key numbers texts source y = .str t) ∨
    ∃ m n, c.key numbers texts source x = .num m ∧ c.key numbers texts source y = .num n

theorem Uniform.comparable {c : SortCriteria} {elements : List α} (uniform : c.Uniform numbers texts source elements)
    {x y : α} (hx : x ∈ elements) (hy : y ∈ elements) : c.Comparable numbers texts source x y := by
  rcases uniform with all_texts | all_numbers
  · obtain ⟨s, hs⟩ := all_texts x hx
    obtain ⟨t, ht⟩ := all_texts y hy
    exact .inl ⟨s, t, hs, ht⟩
  · obtain ⟨m, hm⟩ := all_numbers x hx
    obtain ⟨n, hn⟩ := all_numbers y hy
    exact .inr ⟨m, n, hm, hn⟩

theorem Comparable.directed_sameKind {c : SortCriteria} {x y : α} (h : c.Comparable numbers texts source x y) :
    Scalar.SameKind (c.directed numbers texts source x) (c.directed numbers texts source y) := by
  cases direction : c.direction with
  | ASCENDING =>
    rw [directed_ascending direction, directed_ascending direction]
    rcases h with ⟨s, t, hs, ht⟩ | ⟨m, n, hm, hn⟩
    · simp [hs, ht, Scalar.SameKind]
    · simp [hm, hn, Scalar.SameKind]
  | DESCENDING =>
    rcases h with ⟨s, t, hs, ht⟩ | ⟨m, n, hm, hn⟩
    · rw [directed_descending_str direction hs, directed_descending_str direction ht]
      trivial
    · rw [directed_descending_num direction hm, directed_descending_num direction hn]
      trivial

/-- No direction makes keys equal or unequal. -/
theorem Comparable.directed_eq_iff {c : SortCriteria} {x y : α} (h : c.Comparable numbers texts source x y) :
    c.directed numbers texts source x = c.directed numbers texts source y ↔
      c.key numbers texts source x = c.key numbers texts source y := by
  cases direction : c.direction with
  | ASCENDING => rw [directed_ascending direction, directed_ascending direction]
  | DESCENDING =>
    rcases h with ⟨s, t, hs, ht⟩ | ⟨m, n, hm, hn⟩
    · rw [directed_descending_str direction hs, directed_descending_str direction ht, hs, ht]
      simp [reversed_inj]
    · rw [directed_descending_num direction hm, directed_descending_num direction hn, hm, hn]
      simp [numbers.neg_inj]

/-- For two keys that differ the code agrees with the criterion where the direction turns them round. -/
theorem Comparable.keyed_eq_in_order_iff {c : SortCriteria} {x y : α} (h : c.Comparable numbers texts source x y)
    (differ : c.key numbers texts source x ≠ c.key numbers texts source y) :
    c.keyed numbers texts source x y = c.in_order numbers texts source x y ↔ c.TurnsRound numbers texts source x y := by
  unfold keyed in_order TurnsRound
  cases direction : c.direction with
  | ASCENDING => simp [directed_ascending direction]
  | DESCENDING =>
    rcases h with ⟨s, t, hs, ht⟩ | ⟨m, n, hm, hn⟩
    · have unequal : s ≠ t := fun same => differ (by rw [hs, ht, same])
      have unequal' : reversed s ≠ reversed t := fun same => unequal (reversed_inj.mp same)
      rw [directed_descending_str direction hs, directed_descending_str direction ht, hs, ht]
      simp [Scalar.le, unequal'.le_iff_lt, unequal.symm.le_iff_lt]
    · rw [directed_descending_num direction hm, directed_descending_num direction hn, hm, hn]
      simp [Scalar.le, numbers.neg_le_neg]

/-- Where the keys differ the code needs no other criterion. -/
theorem Comparable.keyed_alone {c : SortCriteria} {x y : α} (h : c.Comparable numbers texts source x y)
    (differ : c.key numbers texts source x ≠ c.key numbers texts source y) (rest : Bool) :
    (c.keyed numbers texts source x y && (!c.keyed numbers texts source y x || rest)) = c.keyed numbers texts source x y :=
  decides_alone fun first second => differ (h.directed_eq_iff.mp (Scalar.eq_of_le_of_le first second))

theorem in_order_alone {c : SortCriteria} {x y : α} (differ : c.key numbers texts source x ≠ c.key numbers texts source y) (rest : Bool) :
    (c.in_order numbers texts source x y && (!c.in_order numbers texts source y x || rest)) = c.in_order numbers texts source x y :=
  decides_alone fun first second => differ (eq_of_in_order first second)

end SortCriteria

/-- The first criterion that tells two elements apart turns their keys round if it is to. -/
def Told (sorts : List SortCriteria) (x y : α) : Prop :=
  match sorts with
  | [] => True
  | c :: rest =>
    if c.key numbers texts source x = c.key numbers texts source y then Told rest x y
    else c.TurnsRound numbers texts source x y

variable {numbers texts source}

/-- Where no criterion differs the others decide, for the code and for the criteria. -/
theorem lexicographic_eq_iff {sorts : List SortCriteria} {x y : α}
    (comparable : ∀ c ∈ sorts, c.Comparable numbers texts source x y) :
    lexicographic (sorts.map (·.keyed numbers texts source)) x y = lexicographic (sorts.map (·.in_order numbers texts source)) x y ↔
      Told numbers texts source sorts x y := by
  induction sorts with
  | nil => simp [lexicographic, Told]
  | cons c rest ih =>
    have here := comparable c (by simp)
    have ih := ih fun c' member => comparable c' (by simp [member])
    simp only [List.map_cons, lexicographic, Told]
    by_cases same : c.key numbers texts source x = c.key numbers texts source y
    · have keyed_same : c.keyed numbers texts source x y = true ∧ c.keyed numbers texts source y x = true := by
        simp only [SortCriteria.keyed, here.directed_eq_iff.mpr same, Scalar.le_totalPreorder.refl, and_self]
      have in_order_same : c.in_order numbers texts source x y = true ∧ c.in_order numbers texts source y x = true := by
        simp only [SortCriteria.in_order, same, Scalar.le_totalPreorder.refl]
        cases c.direction <;> exact ⟨rfl, rfl⟩
      simpa [keyed_same, in_order_same, same] using ih
    · rw [here.keyed_alone same, SortCriteria.in_order_alone same, if_neg same]
      exact here.keyed_eq_in_order_iff same

/-- The tuples of the code compare as its criteria do, one after the other. -/
theorem tuple_lt_eq {sorts : List SortCriteria} {x y : α} (comparable : ∀ c ∈ sorts, c.Comparable numbers texts source x y) :
    Scalar.tuple_lt (sorts.map fun c => c.directed numbers texts source y) (sorts.map fun c => c.directed numbers texts source x) =
      .ok (!lexicographic (sorts.map (·.keyed numbers texts source)) x y) := by
  induction sorts with
  | nil => rfl
  | cons c rest ih =>
    have here := comparable c (by simp)
    have ih := ih fun c' member => comparable c' (by simp [member])
    simp only [List.map_cons, Scalar.tuple_lt, lexicographic]
    by_cases same : c.directed numbers texts source y = c.directed numbers texts source x
    · rw [if_pos same, ih]
      simp [SortCriteria.keyed, same, Scalar.le_totalPreorder.refl]
    · have differ : c.key numbers texts source x ≠ c.key numbers texts source y := fun equal => same (here.directed_eq_iff.mpr equal).symm
      rw [if_neg same, Scalar.compare_lt here.directed_sameKind.symm, here.keyed_alone differ]
      rfl

namespace QueryBuilder

/-- The sort of the code is the stable sort by what it compares. -/
theorem ordered_eq {q : QueryBuilder (Scalar ρ)} {elements : List α}
    (uniform : ∀ c ∈ q._sorts, c.Uniform numbers texts source elements) :
    q.ordered (Objects.scalars numbers texts) source elements =
      .ok (elements.mergeSort (lexicographic (q._sorts.map (·.keyed numbers texts source)))) := by
  have lt {x y : α} (hx : x ∈ elements) (hy : y ∈ elements) := tuple_lt_eq fun c member => (uniform c member).comparable hx hy
  unfold ordered
  by_cases unsorted : q._sorts = []
  · rw [if_pos unsorted, unsorted]
    exact congrArg Except.ok (List.mergeSort_of_pairwise (List.pairwise_of_forall fun _ _ => rfl)).symm
  · rw [if_neg unsorted]
    let keyed_element (element : α) := (q._sorts.map fun c => c.directed numbers texts source element, element)
    have quiet : ((elements.map keyed_element).any fun x => (elements.map keyed_element).any fun y =>
        !(Scalar.tuple_lt x.1 y.1).isOk) = false := by
      simp only [List.any_map, List.any_eq_false]
      intro x hx
      simp only [Function.comp, List.any_eq_true, not_exists, not_and]
      intro y hy
      simp [keyed_element, lt hy hx, Except.isOk, Except.toBool]
    have sorted : ((elements.map keyed_element).mergeSort fun x y => Scalar.stays x.1 y.1).map Prod.snd =
        elements.mergeSort (lexicographic (q._sorts.map (·.keyed numbers texts source))) := by
      rw [List.map_mergeSort (s := lexicographic (q._sorts.map (·.keyed numbers texts source)))]
      · simp [keyed_element, Function.comp_def]
      · intro a ha b hb
        obtain ⟨x, hx, rfl⟩ := List.mem_map.mp ha
        obtain ⟨y, hy, rfl⟩ := List.mem_map.mp hb
        simp [keyed_element, Scalar.stays, lt hx hy]
    show Scalar.sorted (elements.map keyed_element) = _
    rw [Scalar.sorted, quiet, sorted]
    rfl

/-- The query without distinct, skip and take. -/
def whole (q : QueryBuilder (Scalar ρ)) : QueryBuilder (Scalar ρ) :=
  { q with _skip_count := 0, _take_count := none, _distinct_property := none }

theorem whole_execute (q : QueryBuilder (Scalar ρ)) {elements : List α} (found : q.elements source = .ok elements) :
    q.whole.execute (Objects.scalars numbers texts) source =
      q.ordered (Objects.scalars numbers texts) source (q.filtered (Objects.scalars numbers texts) source elements) := by
  have found' : q.whole.elements source = .ok elements := found
  have same : q.whole.ordered (Objects.scalars numbers texts) source (q.whole.filtered (Objects.scalars numbers texts) source elements) =
    q.ordered (Objects.scalars numbers texts) source (q.filtered (Objects.scalars numbers texts) source elements) := rfl
  rw [execute, prepared, found']
  simp only [same]
  cases q.ordered (Objects.scalars numbers texts) source (q.filtered (Objects.scalars numbers texts) source elements) with
  | error e => rfl
  | ok sorted => simp [thinned, whole, slice, end_index, bound]

/-- Distinct, skip and take come after the sort. -/
theorem execute_whole (q : QueryBuilder (Scalar ρ)) :
    q.execute (Objects.scalars numbers texts) source = (q.whole.execute (Objects.scalars numbers texts) source).map fun sorted =>
      slice (q.thinned (Objects.scalars numbers texts) source sorted) q._skip_count q.end_index := by
  cases found : q.elements source with
  | error e =>
    have found' : q.whole.elements source = .error e := found
    rw [execute, prepared, found, execute, prepared, found']
    rfl
  | ok elements =>
    rw [whole_execute q found, execute, prepared, found]
    simp only
    cases q.ordered (Objects.scalars numbers texts) source (q.filtered (Objects.scalars numbers texts) source elements) <;> rfl

variable (numbers texts source) in
/-- The result is in the order of the criteria, and elements that no criterion tells apart stand as before. -/
def Sorts (q : QueryBuilder (Scalar ρ)) (elements : List α) : Prop :=
  ∃ sorted, q.whole.execute (Objects.scalars numbers texts) source = .ok sorted ∧
    StablySorts (lexicographic (q._sorts.map (·.in_order numbers texts source)))
      (q.filtered (Objects.scalars numbers texts) source elements) sorted

/-- A query sorts its elements exactly when of every two the texts that decide compare the other way
backwards, where they are to descend. -/
theorem sorts_iff {q : QueryBuilder (Scalar ρ)} {elements : List α} (found : q.elements source = .ok elements)
    (uniform : ∀ c ∈ q._sorts, c.Uniform numbers texts source (q.filtered (Objects.scalars numbers texts) source elements)) :
    q.Sorts numbers texts source elements ↔
      ∀ x y, [x, y].Sublist (q.filtered (Objects.scalars numbers texts) source elements) → Told numbers texts source q._sorts x y := by
  have keyed : TotalPreorder (lexicographic (q._sorts.map (·.keyed numbers texts source))) := by
    refine lexicographic_totalPreorder fun le member => ?_
    obtain ⟨c, -, rfl⟩ := List.mem_map.mp member
    exact c.keyed_totalPreorder numbers texts source
  have in_order : TotalPreorder (lexicographic (q._sorts.map (·.in_order numbers texts source))) := by
    refine lexicographic_totalPreorder fun le member => ?_
    obtain ⟨c, -, rfl⟩ := List.mem_map.mp member
    exact c.in_order_totalPreorder numbers texts source
  have executed : q.Sorts numbers texts source elements ↔
      (q.filtered (Objects.scalars numbers texts) source elements).mergeSort
          (lexicographic (q._sorts.map (·.keyed numbers texts source))) =
        (q.filtered (Objects.scalars numbers texts) source elements).mergeSort
          (lexicographic (q._sorts.map (·.in_order numbers texts source))) := by
    simp only [Sorts, whole_execute q found, ordered_eq uniform, Except.ok.injEq, stablySorts_iff in_order, exists_eq_left']
  rw [executed, mergeSort_eq_iff keyed in_order]
  refine forall_congr' fun x => forall_congr' fun y => imp_congr_right fun before => ?_
  have hx := before.subset (List.mem_cons_self (a := x))
  have hy : y ∈ q.filtered (Objects.scalars numbers texts) source elements := before.subset (by simp)
  exact lexicographic_eq_iff fun c member => (uniform c member).comparable hx hy

/-- Walls by their marks and names, which are their first and second part. -/
def walls (found : List (Int × String)) : ElementSource (Int × String) (Scalar Int) where
  get_all_elements := .ok found
  get_elements_of_type _ := .ok []
  get_parameter_value wall property_name :=
    if property_name = "Mark" then .ok (some (.num wall.1)) else .ok (some (.str wall.2))

theorem marks_uniform (found elements : List (Int × String)) (direction : SortDirection) :
    SortCriteria.Uniform integers plain_texts (walls found) ⟨"Mark", direction⟩ elements :=
  .inr fun wall _ => ⟨wall.1, rfl⟩

theorem names_uniform (found elements : List (Int × String)) (direction : SortDirection) :
    SortCriteria.Uniform integers plain_texts (walls found) ⟨"Name", direction⟩ elements :=
  .inl fun wall _ => ⟨wall.2, rfl⟩

/-- Walls sorted by descending marks, and by their names where marks are equal. -/
theorem marks_descend :
    QueryBuilder.Sorts integers plain_texts (walls [(1, "B"), (2, "A"), (1, "A")])
      { _sorts := [⟨"Mark", .DESCENDING⟩, ⟨"Name", .ASCENDING⟩] } [(1, "B"), (2, "A"), (1, "A")] := by
  refine (sorts_iff rfl fun c member => ?_).mpr fun x y before => ?_
  · rcases List.mem_cons.mp member with rfl | member
    · exact marks_uniform _ _ _
    · rcases List.mem_cons.mp member with rfl | member
      · exact names_uniform _ _ _
      · cases member
  · have numbers_turn (a b : Int × String) : SortCriteria.TurnsRound integers plain_texts
        (walls [(1, "B"), (2, "A"), (1, "A")]) ⟨"Mark", .DESCENDING⟩ a b := by
      intro _ s t text
      cases text
    have ascends (a b : Int × String) : SortCriteria.TurnsRound integers plain_texts
        (walls [(1, "B"), (2, "A"), (1, "A")]) ⟨"Name", .ASCENDING⟩ a b := by
      intro descending
      cases descending
    simp only [Told]
    split
    · split
      · trivial
      · exact ascends x y
    · exact numbers_turn x y

/-- Names in descending order come out in ascending order. -/
theorem names_ascend :
    SortCriteria.Uniform integers plain_texts (walls [(1, "A"), (2, "B")]) ⟨"Name", .DESCENDING⟩ [(1, "A"), (2, "B")] ∧
      QueryBuilder.execute (Objects.scalars integers plain_texts) (walls [(1, "A"), (2, "B")])
        { _sorts := [⟨"Name", .DESCENDING⟩] } = .ok [(1, "A"), (2, "B")] ∧
      ¬QueryBuilder.Sorts integers plain_texts (walls [(1, "A"), (2, "B")])
        { _sorts := [⟨"Name", .DESCENDING⟩] } [(1, "A"), (2, "B")] := by
  have found : QueryBuilder.elements (walls [(1, "A"), (2, "B")]) { _sorts := [⟨"Name", .DESCENDING⟩] } = .ok [(1, "A"), (2, "B")] := rfl
  have executed : QueryBuilder.execute (Objects.scalars integers plain_texts) (walls [(1, "A"), (2, "B")])
      { _sorts := [⟨"Name", .DESCENDING⟩] } = .ok [(1, "A"), (2, "B")] := by
    refine (whole_execute _ found).trans ((ordered_eq ?_).trans ?_)
    · intro c member
      rcases List.mem_singleton.mp member with rfl
      exact names_uniform _ _ _
    · exact congrArg Except.ok (List.mergeSort_of_pairwise (by decide +kernel))
  refine ⟨names_uniform _ _ _, executed, ?_⟩
  rintro ⟨sorted, executed', sorts⟩
  have same : sorted = [(1, "A"), (2, "B")] := Except.ok.inj (executed'.symm.trans executed)
  subst same
  have := sorts.ordered
  revert this
  decide +kernel

end QueryBuilder

end RevitPy.Api
