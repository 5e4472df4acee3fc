import RevitPy.Comparisons
import RevitPy.PyObjects

/-!
# Sorting the rows of a schedule

The rows are sorted once for each column, the first column last. A row that has no
value in a column goes behind the others; but the key of a row without the column
is the empty text there, and that of a row with `None` is `None`, and Python does not
compare the two.
-/

namespace RevitPy.Extract

open StableSort Comparisons

variable {ω : Type}

/-! ## Comparisons of Python -/

inductive PyError
  | TypeError (message : String)
  | raised (type message : String)
  deriving DecidableEq

/-- What other objects do when they are compared. -/
structure OrderMethods (ω : Type) extends ObjectMethods ω where
  __lt__ : ω → PyObject ω → Except PyError Bool
  __gt__ : ω → PyObject ω → Except PyError Bool
  type_name : ω → String

variable (py : OrderMethods ω)

def type_name : PyObject ω → String
  | .None => "NoneType"
  | .int _ => "int"
  | .str _ => "str"
  | .other o => py.type_name o

/-- `a < b` -/
def lt : PyObject ω → PyObject ω → Except PyError Bool
  | .int a, .int b => .ok (a < b)
  | .str a, .str b => .ok (a < b)
  | .other a, b => py.__lt__ a b
  | a, .other b => py.__gt__ b a
  | a, b => .error (.TypeError ("'<' not supported between instances of '" ++ type_name py a ++ "' and '" ++ type_name py b ++ "'"))

/-- `a < b` for pairs: the first members that differ are compared. -/
def tuple_lt (a b : Bool × PyObject ω) : Except PyError Bool :=
  if a.1 ≠ b.1 then .ok (!a.1 && b.1)
  else if a.2.eq py.toObjectMethods b.2 then .ok false
  else lt py a.2 b.2

/-! ## `sort_data` -/

/-- `row.get(c) is None` -/
def is_none : PyObject ω → Bool
  | .None => true
  | _ => false

/-- The key of a row for one column. -/
def sort_key (c : String) (row : Members ω) : Bool × PyObject ω := (is_none (row.get c), row.getD c (.str ""))

/-- `col_spec.startswith("-")` -/
def startswith_dash (col_spec : String) : Bool := col_spec.toList.head? = some '-'
/-- `col_spec.lstrip("-")` -/
def lstrip_dash (col_spec : String) : String := String.ofList (col_spec.toList.dropWhile (· = '-'))

/-- A comparison, or the reversed one. -/
def directed {α β : Type} (descending : Bool) (compare : α → α → β) (a b : α) : β :=
  if descending then compare b a else compare a b

variable (sorting : Sorting)

/-- `result.sort(key=..., reverse=descending)` for one column. -/
def sort_column (result : List (Members ω)) (col_spec : String) : Except PyError (List (Members ω)) :=
  sorting.sort (directed (startswith_dash col_spec) fun a b =>
    tuple_lt py (sort_key (lstrip_dash col_spec) a) (sort_key (lstrip_dash col_spec) b)) result

def sort_data (data : List (Members ω)) (sort_by : List String) : Except PyError (List (Members ω)) :=
  sort_by.reverse.foldlM (sort_column py sorting) data

/-! ## The order of the rows -/

/-- What a row has in a column; `None` is nothing. -/
def cell (c : String) (row : Members ω) : Option (PyObject ω) :=
  match row.get c with
  | .None => none
  | v => some v

/-- A row that has nothing in a column goes behind the others. -/
def cell_le (le : PyObject ω → PyObject ω → Bool) : Option (PyObject ω) → Option (PyObject ω) → Bool
  | _, none => true
  | none, some _ => false
  | some a, some b => le a b

/-- A column to sort by, with a name that does not begin with a dash. -/
structure ColumnSpec where
  column : String
  descending : Bool
  plain : startswith_dash column = false

/-- The column as it is given in `sort_by`. -/
def ColumnSpec.text (spec : ColumnSpec) : String := if spec.descending then "-" ++ spec.column else spec.column

/-- What the column asks for: `a` may stand before `b`. -/
def ColumnSpec.in_order (spec : ColumnSpec) (order : String → PyObject ω → PyObject ω → Bool) : Members ω → Members ω → Bool :=
  directed spec.descending fun a b => cell_le (order spec.column) (cell spec.column a) (cell spec.column b)

/-- `<` and `==` follow an order on the values. -/
structure MutuallyComparable (le : PyObject ω → PyObject ω → Bool) (values : Set (PyObject ω)) : Prop where
  order : TotalPreorder le
  less : ∀ a ∈ values, ∀ b ∈ values, lt py a b = .ok (!le b a)
  same : ∀ a ∈ values, ∀ b ∈ values, a.eq py.toObjectMethods b = (le a b && le b a)

/-- What the rows have in a column. -/
def column_values (rows : List (Members ω)) (c : String) : Set (PyObject ω) := {v | ∃ row ∈ rows, cell c row = some v}

/-- Some row does not have the column, and another has `None` there. -/
def Mixed (rows : List (Members ω)) (c : String) : Prop :=
  (∃ row ∈ rows, row.get? c = none) ∧ ∃ row ∈ rows, row.get? c = some .None

namespace ColumnSpec

theorem startswith_text (spec : ColumnSpec) : startswith_dash spec.text = spec.descending := by
  cases descending : spec.descending with
  | false => simpa [text, descending] using spec.plain
  | true => simp [text, descending, startswith_dash]

theorem lstrip_text (spec : ColumnSpec) : lstrip_dash spec.text = spec.column := by
  have plain := spec.plain
  have kept : spec.column.toList.dropWhile (· = '-') = spec.column.toList := by
    cases chars : spec.column.toList with
    | nil => rfl
    | cons first rest =>
      have no_dash : first ≠ '-' := by simpa [startswith_dash, chars] using plain
      simp [no_dash]
  cases descending : spec.descending with
  | false => simp [text, descending, lstrip_dash, kept]
  | true => simp [text, descending, lstrip_dash, kept]

end ColumnSpec

section
variable {α β : Type}

theorem directed_totalPreorder {le : α → α → Bool} (order : TotalPreorder le) (descending : Bool) :
    TotalPreorder (directed descending le) := by
  cases descending with
  | false => exact order
  | true => exact order.flip

end

theorem cell_le_totalPreorder {le : PyObject ω → PyObject ω → Bool} (order : TotalPreorder le) : TotalPreorder (cell_le le) := by
  constructor
  · intro a b c first second
    cases a <;> cases b <;> cases c <;> simp_all [cell_le]
    exact order.trans _ _ _ first second
  · intro a b
    cases a <;> cases b <;> simp [cell_le]
    simpa using order.total _ _

section
variable {py} {c : String} {le : PyObject ω → PyObject ω → Bool} {rows : List (Members ω)}

/-- A row has something in the column, or does not have the column, or has `None` there. -/
theorem cell_cases (c : String) (row : Members ω) :
    (∃ v, cell c row = some v ∧ sort_key c row = (false, v)) ∨
      cell c row = none ∧ row.get? c = none ∧ sort_key c row = (true, .str "") ∨
      cell c row = none ∧ row.get? c = some .None ∧ sort_key c row = (true, .None) := by
  cases found : row.get? c with
  | none => exact .inr (.inl (by simp [cell, sort_key, Members.get, Dict.getD, found, is_none]))
  | some v =>
    cases v with
    | None => exact .inr (.inr (by simp [cell, sort_key, Members.get, Dict.getD, found, is_none]))
    | int n => exact .inl ⟨.int n, by simp [cell, sort_key, Members.get, Dict.getD, found, is_none]⟩
    | str t => exact .inl ⟨.str t, by simp [cell, sort_key, Members.get, Dict.getD, found, is_none]⟩
    | other o => exact .inl ⟨.other o, by simp [cell, sort_key, Members.get, Dict.getD, found, is_none]⟩

/-- Between rows that have nothing in the column: those without it before or behind those with `None`. -/
def without_first (c : String) (first : Bool) (a b : Members ω) : Bool :=
  if first then !(a.get? c).isSome || (b.get? c).isSome else (a.get? c).isSome || !(b.get? c).isSome

/-- The rows in order, with those without the column before or behind those with `None`. -/
def refined (c : String) (le : PyObject ω → PyObject ω → Bool) (first : Bool) : Members ω → Members ω → Bool :=
  lexicographic [fun a b => cell_le le (cell c a) (cell c b), without_first c first]

theorem without_first_totalPreorder (c : String) (first : Bool) : TotalPreorder (without_first (ω := ω) c first) := by
  constructor
  · intro a b d
    simp only [without_first]
    cases first <;> cases (a.get? c).isSome <;> cases (b.get? c).isSome <;> cases (d.get? c).isSome <;> simp
  · intro a b
    simp only [without_first]
    cases first <;> cases (a.get? c).isSome <;> cases (b.get? c).isSome <;> rfl

theorem refined_totalPreorder (order : TotalPreorder le) (c : String) (first : Bool) : TotalPreorder (refined c le first) := by
  refine lexicographic_totalPreorder fun le' member => ?_
  simp only [List.mem_cons, List.not_mem_nil, or_false] at member
  rcases member with rfl | rfl
  · exact (cell_le_totalPreorder order).on (cell c)
  · exact without_first_totalPreorder c first

/-- Only rows without the column and rows with `None` are told apart in addition. -/
theorem refined_eq {a b : Members ω} (alike : cell c a = none → cell c b = none → (a.get? c).isSome = (b.get? c).isSome)
    (first : Bool) : refined c le first a b = cell_le le (cell c a) (cell c b) := by
  have present {row : Members ω} {v : PyObject ω} (found : cell c row = some v) : (row.get? c).isSome = true := by
    cases absent : row.get? c with
    | none => simp [cell, Members.get, Dict.getD, absent] at found
    | some _ => rfl
  cases ca : cell c a with
  | none =>
    cases cb : cell c b with
    | none =>
      simp only [refined, lexicographic, ca, cb, without_first, alike ca cb]
      cases first <;> cases (b.get? c).isSome <;> rfl
    | some w => simp [refined, lexicographic, cell_le, ca, cb]
  | some v =>
    cases cb : cell c b with
    | none => simp [refined, lexicographic, cell_le, ca, cb]
    | some w => simp [refined, lexicographic, cell_le, ca, cb, without_first, present ca, present cb]

/-- What is not told apart is left in place, and rows with nothing in the column are told apart by nothing. -/
theorem tuple_lt_of_answer (comparable : MutuallyComparable py le (column_values rows c)) {a b : Members ω} (ha : a ∈ rows)
    (hb : b ∈ rows) {answer : Bool} (answered : tuple_lt py (sort_key c a) (sort_key c b) = .ok answer) :
    (!cell_le le (cell c b) (cell c a)) = answer ∧
      (cell c a = none → cell c b = none → (a.get? c).isSome = (b.get? c).isSome) := by
  rcases cell_cases c a with ⟨v, fa, ka⟩ | ⟨fa, ga, ka⟩ | ⟨fa, ga, ka⟩ <;>
  rcases cell_cases c b with ⟨w, fb, kb⟩ | ⟨fb, gb, kb⟩ | ⟨fb, gb, kb⟩ <;> rw [ka, kb] at answered
  · have hv : v ∈ column_values rows c := ⟨a, ha, fa⟩
    have hw : w ∈ column_values rows c := ⟨b, hb, fb⟩
    simp only [tuple_lt, comparable.same v hv w hw, comparable.less v hv w hw] at answered
    cases vw : le v w <;> cases wv : le w v <;> simp_all [cell_le]
  all_goals simp_all [tuple_lt, cell_le, PyObject.eq, lt]

/-- The key of one of the rows is compared with that of another, unless one is missing and the other `None`. -/
theorem tuple_lt_of_alike (comparable : MutuallyComparable py le (column_values rows c)) {a b : Members ω} (ha : a ∈ rows)
    (hb : b ∈ rows) (alike : cell c a = none → cell c b = none → (a.get? c).isSome = (b.get? c).isSome) :
    tuple_lt py (sort_key c a) (sort_key c b) = .ok (!cell_le le (cell c b) (cell c a)) := by
  suffices defined : ∃ answer, tuple_lt py (sort_key c a) (sort_key c b) = .ok answer by
    obtain ⟨answer, answered⟩ := defined
    rw [answered, (tuple_lt_of_answer comparable ha hb answered).1]
  rcases cell_cases c a with ⟨v, fa, ka⟩ | ⟨fa, ga, ka⟩ | ⟨fa, ga, ka⟩ <;>
  rcases cell_cases c b with ⟨w, fb, kb⟩ | ⟨fb, gb, kb⟩ | ⟨fb, gb, kb⟩ <;> rw [ka, kb]
  · have hv : v ∈ column_values rows c := ⟨a, ha, fa⟩
    have hw : w ∈ column_values rows c := ⟨b, hb, fb⟩
    simp only [tuple_lt, comparable.less v hv w hw]
    split
    · exact ⟨_, rfl⟩
    · split <;> exact ⟨_, rfl⟩
  all_goals simp_all [tuple_lt, PyObject.eq]

/-- Rows with nothing in an unmixed column are alike there. -/
theorem alike_of_unmixed (unmixed : ¬Mixed rows c) {a b : Members ω} (ha : a ∈ rows) (hb : b ∈ rows)
    (na : cell c a = none) (nb : cell c b = none) : (a.get? c).isSome = (b.get? c).isSome := by
  rcases cell_cases c a with ⟨v, fa, -⟩ | ⟨-, ga, -⟩ | ⟨-, ga, -⟩
  · simp [fa] at na
  · rcases cell_cases c b with ⟨w, fb, -⟩ | ⟨-, gb, -⟩ | ⟨-, gb, -⟩
    · simp [fb] at nb
    · simp [ga, gb]
    · exact absurd ⟨⟨a, ha, ga⟩, b, hb, gb⟩ unmixed
  · rcases cell_cases c b with ⟨w, fb, -⟩ | ⟨-, gb, -⟩ | ⟨-, gb, -⟩
    · simp [fb] at nb
    · exact absurd ⟨⟨b, hb, gb⟩, a, ha, ga⟩ unmixed
    · simp [ga, gb]

end

/-! ## One column -/

variable {py} {sorting} {rows : List (Members ω)} {order : String → PyObject ω → PyObject ω → Bool}

theorem sort_column_of_unmixed (stable : sorting.Stable) {spec : ColumnSpec} {result : List (Members ω)}
    (comparable : MutuallyComparable py (order spec.column) (column_values rows spec.column)) (part : ∀ row ∈ result, row ∈ rows)
    (unmixed : ¬Mixed rows spec.column) :
    sort_column py sorting result spec.text = .ok (result.mergeSort (spec.in_order order)) := by
  rw [sort_column, spec.startswith_text, spec.lstrip_text]
  have ordered := (cell_le_totalPreorder comparable.order).on (cell spec.column)
  refine Sorting.sort_of_order stable (directed_totalPreorder ordered spec.descending) fun a ha b hb => ?_
  have ha := part a ha
  have hb := part b hb
  cases spec.descending with
  | false => exact tuple_lt_of_alike comparable ha hb (alike_of_unmixed unmixed ha hb)
  | true => exact tuple_lt_of_alike comparable hb ha (alike_of_unmixed unmixed hb ha)

/-- A sort by a mixed column comes to compare a missing key with `None`. -/
theorem sort_column_of_mixed (stable : sorting.Stable) {spec : ColumnSpec} {result : List (Members ω)}
    (comparable : MutuallyComparable py (order spec.column) (column_values result spec.column))
    (mixed : Mixed result spec.column) : ∃ e, sort_column py sorting result spec.text = .error e := by
  rw [sort_column, spec.startswith_text, spec.lstrip_text]
  obtain ⟨⟨a, ha, missing⟩, b, hb, none⟩ := mixed
  have refines (first : Bool) := refined_totalPreorder comparable.order spec.column first
  have cells : cell spec.column a = .none ∧ cell spec.column b = .none := by
    simp [cell, Members.get, Dict.getD, missing, none]
  have alike {a b : Members ω} (ha : a ∈ result) (hb : b ∈ result) {answer : Bool}
      (answered : tuple_lt py (sort_key spec.column a) (sort_key spec.column b) = .ok answer) (first : Bool) :
      (!refined spec.column (order spec.column) first b a) = answer := by
    have := tuple_lt_of_answer comparable ha hb answered
    rw [refined_eq fun nb na => (this.2 na nb).symm, this.1]
  have told (first : Bool) : refined spec.column (order spec.column) first a b = first ∧
      refined spec.column (order spec.column) first b a = !first := by
    cases first <;> simp [refined, lexicographic, cell_le, cells, without_first, missing, none]
  cases spec.descending with
  | false =>
    exact Sorting.sort_fails stable (refines true) (refines false)
      (fun x hx y hy answer answered => ⟨alike hx hy answered true, alike hx hy answered false⟩) ha hb
      (told true).1 (told true).2 (told false).2 (told false).1
  | true =>
    exact Sorting.sort_fails stable (refines true).flip (refines false).flip
      (fun x hx y hy answer answered => ⟨alike hy hx answered true, alike hy hx answered false⟩) hb ha
      (told true).1 (told true).2 (told false).2 (told false).1
/-! ## All columns -/

theorem in_order_totalPreorder {spec : ColumnSpec} (preorder : TotalPreorder (order spec.column)) :
    TotalPreorder (spec.in_order order) :=
  directed_totalPreorder ((cell_le_totalPreorder preorder).on (cell spec.column)) spec.descending

theorem in_orders_totalPreorder {specs : List ColumnSpec} (preorders : ∀ spec ∈ specs, TotalPreorder (order spec.column)) :
    TotalPreorder (lexicographic (specs.map (·.in_order order))) := by
  refine lexicographic_totalPreorder fun le chosen => ?_
  obtain ⟨spec, member, rfl⟩ := List.mem_map.mp chosen
  exact in_order_totalPreorder (preorders spec member)

theorem sort_data_cons (data : List (Members ω)) (spec : String) (rest : List String) :
    sort_data py sorting data (spec :: rest) =
      sort_data py sorting data rest >>= fun result => sort_column py sorting result spec := by
  simp [sort_data]

theorem sort_data_of_unmixed (stable : sorting.Stable) {specs : List ColumnSpec}
    (comparable : ∀ spec ∈ specs, MutuallyComparable py (order spec.column) (column_values rows spec.column))
    (unmixed : ∀ spec ∈ specs, ¬Mixed rows spec.column) :
    sort_data py sorting rows (specs.map ColumnSpec.text) =
      .ok (rows.mergeSort (lexicographic (specs.map (·.in_order order)))) := by
  induction specs with
  | nil => exact congrArg Except.ok (List.mergeSort_of_pairwise (List.pairwise_of_forall fun _ _ => rfl)).symm
  | cons spec rest ih =>
    have later : ∀ s ∈ rest, MutuallyComparable py (order s.column) (column_values rows s.column) :=
      fun s member => comparable s (.tail _ member)
    have part : ∀ row ∈ rows.mergeSort (lexicographic (rest.map (·.in_order order))), row ∈ rows :=
      fun row member => List.mem_mergeSort.mp member
    have first := in_order_totalPreorder (comparable spec (.head _)).order
    have others := in_orders_totalPreorder fun s member => (later s member).order
    rw [List.map_cons, sort_data_cons, ih later fun s member => unmixed s (.tail _ member)]
    refine (sort_column_of_unmixed stable (comparable spec (.head _)) part (unmixed spec (.head _))).trans ?_
    rw [mergeSort_after first others]
    rfl

theorem sort_data_of_mixed (stable : sorting.Stable) {specs : List ColumnSpec}
    (comparable : ∀ spec ∈ specs, MutuallyComparable py (order spec.column) (column_values rows spec.column))
    (mixed : ∃ spec ∈ specs, Mixed rows spec.column) : ∃ e, sort_data py sorting rows (specs.map ColumnSpec.text) = .error e := by
  induction specs with
  | nil => simp at mixed
  | cons spec rest ih =>
    have later : ∀ s ∈ rest, MutuallyComparable py (order s.column) (column_values rows s.column) :=
      fun s member => comparable s (.tail _ member)
    rw [List.map_cons, sort_data_cons]
    by_cases earlier : ∃ s ∈ rest, Mixed rows s.column
    · obtain ⟨e, failed⟩ := ih later earlier
      exact ⟨e, by rw [failed]; rfl⟩
    · -- the later columns are sorted by, so that the first one is still mixed
      have here : Mixed rows spec.column := by
        obtain ⟨s, member, mixed⟩ := mixed
        rcases List.mem_cons.mp member with rfl | member
        · exact mixed
        · exact absurd ⟨s, member, mixed⟩ earlier
      rw [sort_data_of_unmixed stable later fun s member mixed => earlier ⟨s, member, mixed⟩]
      have alike (le : Members ω → Members ω → Bool) : MutuallyComparable py (order spec.column) (column_values (rows.mergeSort le) spec.column) := by
        simpa [column_values] using comparable spec (.head _)
      exact sort_column_of_mixed stable (alike _) (by simpa [Mixed] using here)

variable (py sorting order rows)

/-- The rows are put in the order of the columns, and what no column tells apart is left in place. -/
def Sorts (specs : List ColumnSpec) : Prop :=
  ∃ sorted, sort_data py sorting rows (specs.map ColumnSpec.text) = .ok sorted ∧
    StablySorts (lexicographic (specs.map (·.in_order order))) rows sorted

variable {py sorting order rows}

/-- The rows are sorted exactly if no column is missing in one row and `None` in another. -/
theorem sort_data_sorts_iff (stable : sorting.Stable) {specs : List ColumnSpec}
    (comparable : ∀ spec ∈ specs, MutuallyComparable py (order spec.column) (column_values rows spec.column)) :
    Sorts py sorting rows order specs ↔ ∀ spec ∈ specs, ¬Mixed rows spec.column := by
  constructor
  · intro ⟨sorted, done, _⟩ spec member mixed
    obtain ⟨e, failed⟩ := sort_data_of_mixed stable comparable ⟨spec, member, mixed⟩
    rw [failed] at done
    cases done
  · intro unmixed
    have ordered := in_orders_totalPreorder fun spec member => (comparable spec member).order
    exact ⟨_, sort_data_of_unmixed stable comparable unmixed, mergeSort_stablySorts ordered rows⟩

/-! Rows with integers, with nothing but `None` and with a missing key. -/

def plain_objects : OrderMethods Empty where
  __bool__ := Empty.elim
  __str__ := Empty.elim
  __eq__ o _ := o.elim
  __lt__ o _ := o.elim
  __gt__ o _ := o.elim
  type_name := Empty.elim

def int_value : PyObject Empty → Int
  | .int n => n
  | _ => 0

def by_int (_ : String) (a b : PyObject Empty) : Bool := int_value a ≤ int_value b

theorem by_int_totalPreorder (c : String) : TotalPreorder (by_int c) := by
  constructor
  · intro a b d first second
    simp only [by_int, decide_eq_true_eq] at *
    exact first.trans second
  · intro a b
    simpa [by_int] using Int.le_total (int_value a) (int_value b)

theorem ints_comparable {c : String} {values : Set (PyObject Empty)} (ints : ∀ v ∈ values, ∃ n, v = .int n) :
    MutuallyComparable plain_objects (by_int c) values where
  order := by_int_totalPreorder c
  less a ha b hb := by
    obtain ⟨m, rfl⟩ := ints a ha
    obtain ⟨n, rfl⟩ := ints b hb
    refine congrArg Except.ok ?_
    rw [by_int, ← decide_not, decide_eq_decide]
    exact Int.not_le.symm
  same a ha b hb := by
    obtain ⟨m, rfl⟩ := ints a ha
    obtain ⟨n, rfl⟩ := ints b hb
    simp only [PyObject.eq, by_int]
    rw [← Bool.decide_and, decide_eq_decide]
    exact Int.le_antisymm_iff

def int_or_None : PyObject Empty → Bool
  | .int _ | .None => true
  | _ => false

theorem comparable_of_entries {rows : List (Members Empty)} (plain : ∀ row ∈ rows, ∀ entry ∈ row.entries, int_or_None entry.2 = true)
    (c : String) : MutuallyComparable plain_objects (by_int c) (column_values rows c) := by
  refine ints_comparable fun v ⟨row, member, found⟩ => ?_
  cases stored : row.get? c with
  | none => simp [cell, Members.get, Dict.getD, stored] at found
  | some w =>
    have := plain row member (c, w) ((row.get?_some_iff c w).mp stored)
    cases w <;> simp_all [cell, Members.get, Dict.getD, int_or_None]
    exact ⟨_, found.symm⟩

def area : ColumnSpec := ⟨"area", true, by decide⟩
def level : ColumnSpec := ⟨"level", false, by decide⟩

def row (level area : Int) : Members Empty := Dict.ofList [("level", .int level), ("area", .int area)]

theorem areas_sorted : Sorts plain_objects insertion [row 1 20, row 2 20, ∅, row 1 30] by_int [area, level] := by
  refine (sort_data_sorts_iff insertion_stable fun spec _ => comparable_of_entries (by decide) spec.column).mpr ?_
  simp only [Mixed]
  decide

theorem missing_against_None :
    (∀ spec ∈ [area, level], MutuallyComparable plain_objects (by_int spec.column)
      (column_values [∅, Dict.ofList [("area", .None)]] spec.column)) ∧
    sort_data plain_objects insertion [∅, Dict.ofList [("area", .None)]] [area.text, level.text] =
      .error (.TypeError "'<' not supported between instances of 'str' and 'NoneType'") ∧
    ¬Sorts plain_objects insertion [∅, Dict.ofList [("area", .None)]] by_int [area, level] := by
  have raises : sort_data plain_objects insertion [∅, Dict.ofList [("area", .None)]] [area.text, level.text] =
      .error (.TypeError "'<' not supported between instances of 'str' and 'NoneType'") := by decide
  refine ⟨fun spec _ => comparable_of_entries (by decide) spec.column, raises, ?_⟩
  intro ⟨sorted, done, _⟩
  cases raises.symm.trans done

end RevitPy.Extract
