import Mathlib.Data.List.Basic

/-!
# Terminal calls of a query

A query filters, sorts and thins out the elements of its provider, and cuts the result.
The calls `first`, `first_or_default` and `single` set the number of elements that the
builder takes, and so does `any`, which sets it back unless the execution raises.
-/

namespace RevitPy.Api

/-- Filter operators for queries. -/
inductive FilterOperator
  | EQUALS
  | NOT_EQUALS
  | GREATER_THAN
  | LESS_THAN
  | GREATER_EQUAL
  | LESS_EQUAL
  | CONTAINS
  | STARTS_WITH
  | ENDS_WITH
  | IN
  | NOT_IN
  | IS_NULL
  | IS_NOT_NULL
  | REGEX
  deriving DecidableEq

inductive SortDirection
  | ASCENDING
  | DESCENDING
  deriving DecidableEq

/-- Python's comparisons. -/
inductive Comparison
  | eq
  | ne
  | gt
  | lt
  | ge
  | le

/-- What a comparison raises: a `ValueError` or `TypeError`, or something else. -/
inductive Fault
  | mismatch
  | other

/-- What the code asks of values; `None` is none of them. -/
structure Objects (ν : Type) where
  is_str : ν → Bool
  is_number : ν → Bool
  of_str : String → ν
  str : Option ν → String
  lower : String → String
  truthy : Option ν → Bool
  compare : Comparison → ν → ν → Except Fault Bool
  /-- `value in container`. -/
  contains : Option ν → Option ν → Except Fault Bool
  /-- `bool(re.search(pattern, text))`. -/
  search : Option ν → String → Except Fault Bool
  reverse : ν → ν
  negate : ν → ν
  /-- `value in seen_values`, for a set that is given by its members. -/
  seen : Option ν → List (Option ν) → Except String Bool
  /-- `sorted`, of items with their keys. -/
  sorted : {α : Type} → List (List ν × α) → Except String (List α)

/-- The provider and the parameters of its elements at the moment of a call. -/
structure ElementSource (α ν : Type) where
  get_all_elements : Except String (List α)
  get_elements_of_type : String → Except String (List α)
  get_parameter_value : α → String → Except String (Option ν)

/-- Represents a filter criteria for querying. -/
structure FilterCriteria (ν : Type) where
  property_name : String
  operator : FilterOperator
  value : Option ν
  case_sensitive : Bool

/-- Represents a sort criteria for querying. -/
structure SortCriteria where
  property_name : String
  direction : SortDirection

variable {α ν : Type} (py : Objects ν) (source : ElementSource α ν)

namespace FilterCriteria

/-- Compare two values with type conversion. -/
def _compare_values (a b : Option ν) (comparator : ν → ν → Except Fault Bool) : Except Fault Bool :=
  match a, b with
  | some a, some b =>
    let (a, b) :=
      if py.is_str a ∧ ¬py.is_str b then (a, py.of_str (py.str (some b)))
      else if py.is_str b ∧ ¬py.is_str a then (py.of_str (py.str (some a)), b)
      else (a, b)
    match comparator a b with
    | .error .mismatch => comparator (py.of_str (py.str (some a))) (py.of_str (py.str (some b)))
    | answer => answer
  | a, b => .ok (a.isNone ∧ b.isNone)

/-- Compare values as strings. -/
def _string_compare (c : FilterCriteria ν) (a b : Option ν) (comparator : List Char → List Char → Bool) : Bool :=
  let str_a := if a.isSome then py.str a else ""
  let str_b := if b.isSome then py.str b else ""
  if ¬c.case_sensitive then comparator (py.lower str_a).toList (py.lower str_b).toList
  else comparator str_a.toList str_b.toList

/-- What a filter makes of the value of an element. -/
def test (c : FilterCriteria ν) (element_value : Option ν) : Except Fault Bool :=
  match c.operator with
  | .EQUALS => _compare_values py element_value c.value (py.compare .eq)
  | .NOT_EQUALS => _compare_values py element_value c.value (py.compare .ne)
  | .GREATER_THAN => _compare_values py element_value c.value (py.compare .gt)
  | .LESS_THAN => _compare_values py element_value c.value (py.compare .lt)
  | .GREATER_EQUAL => _compare_values py element_value c.value (py.compare .ge)
  | .LESS_EQUAL => _compare_values py element_value c.value (py.compare .le)
  | .CONTAINS => .ok (c._string_compare py element_value c.value fun x y => x.tails.any y.isPrefixOf)
  | .STARTS_WITH => .ok (c._string_compare py element_value c.value fun x y => y.isPrefixOf x)
  | .ENDS_WITH => .ok (c._string_compare py element_value c.value fun x y => y.isSuffixOf x)
  | .IN => if py.truthy c.value then py.contains c.value element_value else .ok false
  | .NOT_IN => if py.truthy c.value then (py.contains c.value element_value).map not else .ok true
  | .IS_NULL => .ok element_value.isNone
  | .IS_NOT_NULL => .ok element_value.isSome
  | .REGEX =>
    let pattern := if c.case_sensitive then c.value else some (py.of_str ("(?i)" ++ py.str c.value))
    py.search pattern (py.str element_value)

/-- Apply this filter criteria to an element. What raises does not match. -/
def apply (c : FilterCriteria ν) (element : α) : Bool :=
  match source.get_parameter_value element c.property_name with
  | .error _ => false
  | .ok element_value => match c.test py element_value with
    | .error _ => false
    | .ok answer => answer

end FilterCriteria

namespace SortCriteria

/-- Get the sort key for an element. -/
def get_sort_key (c : SortCriteria) (element : α) : ν :=
  match source.get_parameter_value element c.property_name with
  | .ok (some value) => value
  | _ => py.of_str ""

/-- The key in a direction: a descending text is reversed, and a descending number negated. -/
def directed_key (c : SortCriteria) (element : α) : ν :=
  let key := c.get_sort_key py source element
  match c.direction with
  | .ASCENDING => key
  | .DESCENDING =>
    if py.is_str key then if py.truthy (some key) then py.reverse key else py.of_str ""
    else if py.is_number key then py.negate key
    else key

end SortCriteria

/-- LINQ-style query builder for Revit elements. -/
structure QueryBuilder (ν : Type) where
  /-- `none` for `Element`. -/
  _element_type : Option String := none
  _filters : List (FilterCriteria ν) := []
  _sorts : List SortCriteria := []
  _skip_count : Int := 0
  _take_count : Option Int := none
  _distinct_property : Option String := none

/-- The index that a bound of a slice stands for. -/
def bound (length : Nat) (index : Int) : Nat := if index < 0 then (length + index).toNat else min index.toNat length

/-- `elements[start_index:end_index]`. -/
def slice (elements : List α) (start_index : Int) (end_index : Option Int) : List α :=
  let elements' := match end_index with
    | none => elements
    | some e => elements.take (bound elements.length e)
  elements'.drop (bound elements.length start_index)

namespace QueryBuilder

/-- Skip number of elements. -/
def skip (q : QueryBuilder ν) (count : Int) : QueryBuilder ν := { q with _skip_count := count }

/-- Take number of elements. -/
def take (q : QueryBuilder ν) (count : Int) : QueryBuilder ν := { q with _take_count := some count }

/-- The elements of the provider. -/
def elements (q : QueryBuilder ν) : Except String (List α) :=
  match q._element_type with
  | some element_type => source.get_elements_of_type element_type
  | none => source.get_all_elements

def filtered (q : QueryBuilder ν) (elements : List α) : List α :=
  q._filters.foldl (fun filtered_elements criteria => filtered_elements.filter (criteria.apply py source)) elements

def ordered (q : QueryBuilder ν) (elements : List α) : Except String (List α) :=
  if q._sorts = [] then .ok elements
  else py.sorted (elements.map fun element => (q._sorts.map fun c => c.directed_key py source element, element))

/-- The elements whose value was not seen before, or whose value cannot be read or looked up. -/
def distinct_elements (property_name : String) : List (Option ν) → List α → List α
  | _, [] => []
  | seen_values, element :: rest => match source.get_parameter_value element property_name with
    | .error _ => element :: distinct_elements property_name seen_values rest
    | .ok value => match py.seen value seen_values with
      | .error _ => element :: distinct_elements property_name seen_values rest
      | .ok true => distinct_elements property_name seen_values rest
      | .ok false => element :: distinct_elements property_name (seen_values ++ [value]) rest

def thinned (q : QueryBuilder ν) (elements : List α) : List α :=
  match q._distinct_property with
  | none => elements
  | some property_name => if property_name = "" then elements else distinct_elements py source property_name [] elements

/-- The elements from which the query cuts its result. -/
def prepared (q : QueryBuilder ν) : Except String (List α) :=
  match q.elements source with
  | .error e => .error e
  | .ok elements => match q.ordered py source (q.filtered py source elements) with
    | .error e => .error e
    | .ok ordered_elements => .ok (q.thinned py source ordered_elements)

/-- The end of the cut. A take count of zero is none. -/
def end_index (q : QueryBuilder ν) : Option Int :=
  match q._take_count with
  | none => none
  | some count => if count = 0 then none else some (q._skip_count + count)

/-- Execute the query and return results. -/
def execute (q : QueryBuilder ν) : Except String (List α) :=
  match q.prepared py source with
  | .error e => .error e
  | .ok elements => .ok (slice elements q._skip_count q.end_index)

end QueryBuilder

/-- The terminal calls. -/
inductive Terminal (α : Type)
  | count
  | any
  | first
  | first_or_default (default : Option α)
  | single
  | to_list

inductive TerminalResult (α : Type)
  | number (n : Nat)
  | truth (b : Bool)
  | element (x : Option α)
  | elements (xs : List α)
  deriving DecidableEq

inductive TerminalException
  /-- What the provider raises, or the sort. -/
  | execution (message : String)
  | ElementNotFoundError (message : String)
  | ValidationError (message : String)
  deriving DecidableEq

/-- `ElementSet.first`. -/
def first_of : List α → Except TerminalException (TerminalResult α)
  | [] => .error (.ElementNotFoundError "Element not found with ID: No elements in set")
  | x :: _ => .ok (.element (some x))

/-- `ElementSet.single`. -/
def single_of : List α → Except TerminalException (TerminalResult α)
  | [] => .error (.ElementNotFoundError "Element not found with ID: No elements in set")
  | [x] => .ok (.element (some x))
  | _ :: _ :: _ => .error (.ValidationError "More than one element in set")

/-- `ElementSet.first_or_default`. -/
def first_or_default_of (default : Option α) (elements : List α) : Except TerminalException (TerminalResult α) :=
  match first_of elements with
  | .error (.ElementNotFoundError _) => .ok (.element default)
  | answer => answer

namespace QueryBuilder

/-- The result of a call whose execution may raise. -/
def finish (q : QueryBuilder ν) (result : List α → Except TerminalException (TerminalResult α)) : Except TerminalException (TerminalResult α) :=
  match q.execute py source with
  | .error e => .error (.execution e)
  | .ok elements => result elements

/-- Check if any elements match query. -/
def any (q : QueryBuilder ν) : Except TerminalException (TerminalResult α) × QueryBuilder ν :=
  let temp_take := q._take_count
  let q := { q with _take_count := some 1 }
  match q.execute py source with
  | .error e => (.error (.execution e), q)
  | .ok result => (.ok (.truth (result.length > 0)), { q with _take_count := temp_take })

/-- A terminal call: its result, and the builder that it leaves. -/
def call (q : QueryBuilder ν) : Terminal α → Except TerminalException (TerminalResult α) × QueryBuilder ν
  | .count => (q.finish py source fun elements => .ok (.number elements.length), q)
  | .any => q.any py source
  | .first => ((q.take 1).finish py source first_of, q.take 1)
  | .first_or_default default => ((q.take 1).finish py source (first_or_default_of default), q.take 1)
  | .single => ((q.take 2).finish py source single_of, q.take 2)
  | .to_list => (q.finish py source fun elements => .ok (.elements elements), q)

/-- A builder after terminal calls, each with the provider at its moment. -/
def calls (q : QueryBuilder ν) (earlier : List (Terminal α × ElementSource α ν)) : QueryBuilder ν :=
  earlier.foldl (fun q made => (q.call py made.2 made.1).2) q

/-- The take count that a terminal call leaves. -/
def leaves (q : QueryBuilder ν) (take_count : Option Int) (made : Terminal α × ElementSource α ν) : Option Int :=
  match made.1 with
  | .count | .to_list => take_count
  | .any => if (q.prepared py made.2).isOk then take_count else some 1
  | .first | .first_or_default _ => some 1
  | .single => some 2

/-- The take count after terminal calls. -/
def taken (q : QueryBuilder ν) (earlier : List (Terminal α × ElementSource α ν)) : Option Int :=
  earlier.foldl (q.leaves py) q._take_count

/-- The calls that set the take count themselves. -/
def sets_take : Terminal α → Bool
  | .count | .to_list => false
  | .any | .first | .first_or_default _ | .single => true

/-- How many of `n` elements the cut leaves with a take count. -/
def cut (q : QueryBuilder ν) (take_count : Option Int) (n : Nat) : Nat :=
  let end_index := match take_count with
    | none => n
    | some count => if count = 0 then n else bound n (q._skip_count + count)
  end_index - bound n q._skip_count

/-! ## The cut -/

theorem bound_le (length : Nat) (index : Int) : bound length index ≤ length := by
  unfold bound
  split
  · omega
  · exact Nat.min_le_right ..

/-- A cut is a beginning of what is left after the skipped elements. -/
theorem slice_end_index (q : QueryBuilder ν) (elements : List α) :
    slice elements q._skip_count q.end_index =
      (elements.drop (bound elements.length q._skip_count)).take (q.cut q._take_count elements.length) := by
  have whole : elements.drop (bound elements.length q._skip_count) =
      (elements.drop (bound elements.length q._skip_count)).take (elements.length - bound elements.length q._skip_count) :=
    (List.take_of_length_le (by simp)).symm
  cases taken : q._take_count with
  | none => simpa only [slice, end_index, cut, taken] using whole
  | some count =>
    by_cases zero : count = 0
    · simpa only [slice, end_index, cut, taken, zero, if_true] using whole
    · simp only [slice, end_index, cut, taken, zero, if_false]
      exact List.drop_take ..

theorem cut_le (q : QueryBuilder ν) (take_count : Option Int) (n : Nat) : q.cut take_count n ≤ n - bound n q._skip_count := by
  cases take_count with
  | none => exact Nat.le_refl _
  | some count =>
    by_cases zero : count = 0
    · simp only [cut, zero, if_true]
      exact Nat.le_refl _
    · simp only [cut, zero, if_false]
      exact Nat.sub_le_sub_right (bound_le _ _) _

theorem length_slice (q : QueryBuilder ν) (elements : List α) :
    (slice elements q._skip_count q.end_index).length = q.cut q._take_count elements.length := by
  rw [slice_end_index, List.length_take, List.length_drop]
  exact Nat.min_eq_left (q.cut_le _ _)

/-! ## What terminal calls leave -/

variable {py source}

theorem call_eq (q : QueryBuilder ν) (take_count : Option Int) (made : Terminal α × ElementSource α ν) :
    (({ q with _take_count := take_count } : QueryBuilder ν).call py made.2 made.1).2 =
      { q with _take_count := q.leaves py take_count made } := by
  obtain ⟨terminal, source⟩ := made
  cases terminal with
  | any =>
    have same (t : Option Int) : ({ q with _take_count := t } : QueryBuilder ν).prepared py source = q.prepared py source := rfl
    simp only [call, any, execute, same, leaves]
    cases q.prepared py source with
    | error e => rfl
    | ok elements => rfl
  | count => rfl
  | first => rfl
  | first_or_default default => rfl
  | single => rfl
  | to_list => rfl

/-- Terminal calls change the take count only, and to what `taken` says. -/
theorem calls_eq (q : QueryBuilder ν) (earlier : List (Terminal α × ElementSource α ν)) :
    q.calls py earlier = { q with _take_count := q.taken py earlier } := by
  suffices general : ∀ take_count : Option Int,
      earlier.foldl (fun q made => (q.call py made.2 made.1).2) { q with _take_count := take_count } =
        { q with _take_count := earlier.foldl (q.leaves py) take_count } from general q._take_count
  induction earlier with
  | nil => exact fun _ => rfl
  | cons made rest ih =>
    intro take_count
    rw [List.foldl_cons, List.foldl_cons, call_eq]
    exact ih _

/-- What a call without a take count of its own gives with two take counts. -/
theorem finish_eq_iff (q : QueryBuilder ν) (take_count : Option Int)
    (result : List α → Except TerminalException (TerminalResult α))
    (faithful : ∀ (elements : List α) (i j : Nat),
      result (elements.take i) = result (elements.take j) ↔ (elements.take i).length = (elements.take j).length) :
    ({ q with _take_count := take_count } : QueryBuilder ν).finish py source result = q.finish py source result ↔
      ∀ elements, q.prepared py source = .ok elements → q.cut take_count elements.length = q.cut q._take_count elements.length := by
  have same : ({ q with _take_count := take_count } : QueryBuilder ν).prepared py source = q.prepared py source := rfl
  unfold finish execute
  rw [same]
  cases q.prepared py source with
  | error e => exact ⟨fun _ => nofun, fun _ => rfl⟩
  | ok elements =>
    have left := ({ q with _take_count := take_count } : QueryBuilder ν).slice_end_index elements
    have left_length := ({ q with _take_count := take_count } : QueryBuilder ν).length_slice elements
    have right := q.slice_end_index elements
    have right_length := q.length_slice elements
    simp only [Except.ok.injEq, forall_eq']
    rw [left] at left_length
    rw [right] at right_length
    rw [left, right, faithful, left_length, right_length]
    exact Iff.rfl

/-- Numbers as values. -/
def whole_numbers : Objects Nat where
  is_str _ := false
  is_number _ := true
  of_str text := text.length
  str value := (value.map toString).getD "None"
  lower text := text
  truthy value := value ≠ none ∧ value ≠ some 0
  compare _ a b := .ok (decide (a = b))
  contains _ _ := .error .mismatch
  search _ _ := .error .mismatch
  reverse value := value
  negate value := value
  seen value seen_values := .ok (decide (value ∈ seen_values))
  sorted items := .ok ((items.mergeSort fun a b => !(b.1.lex a.1 fun x y => x < y)).map Prod.snd)

/-- Two elements without parameters. -/
def two_elements : ElementSource Nat Nat where
  get_all_elements := .ok [1, 2]
  get_elements_of_type _ := .ok []
  get_parameter_value _ _ := .ok none

end QueryBuilder

end RevitPy.Api
