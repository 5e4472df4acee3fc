import RevitPy.DiscardedWrites

/-!
# All parameters of an element

The loop reads each parameter and takes its entry out of the cache, where a refresh does
not put it: then the first parameter that can be read ends the loop with a `KeyError`.
-/

namespace RevitPy.Api
variable {σ ν : Type}

inductive AllParametersException (ν : Type)
  | KeyError (parameter_name : String)
  | raised (e : ElementException ν)

namespace Element
variable (v : Values ν) (r : IRevitElement σ ν)

/-- The values of `Element._property_mappings`. -/
def default_parameter_names : List String := ["Name", "Family", "Type", "Level", "Comments", "Mark"]

/-- The loop over the parameter names, with the entries so far. -/
def collect (use_cache : Bool) : List String → Dict String (ParameterValue ν) → Element σ ν →
    Except (AllParametersException ν) (Dict String (ParameterValue ν)) × Element σ ν
  | [], parameters, e => (.ok parameters, e)
  | param_name :: rest, parameters, e => match e.get_parameter_value v r param_name use_cache with
    | (.error (.ElementNotFoundError _ _ _), e) => collect use_cache rest parameters e
    | (.error other, e) => (.error (.raised other), e)
    | (.ok _, e) => match e._parameter_cache.get? param_name with
      | none => (.error (.KeyError param_name), e)
      | some entry => collect use_cache rest (parameters.set param_name entry) e

/-- Get all parameters for this element. The names are those that its class maps. -/
def get_all_parameters (names : List String) (refresh_cache : Bool) (e : Element σ ν) :
    Except (AllParametersException ν) (Dict String (ParameterValue ν)) × Element σ ν :=
  collect v r (!refresh_cache) names ∅ (if refresh_cache then { e with _parameter_cache := ∅ } else e)

/-- The value of a parameter can be had, from the cache unless it is refreshed or from Revit. -/
def Readable (refresh_cache : Bool) (e : Element σ ν) (parameter_name : String) : Prop :=
  (refresh_cache = false ∧ parameter_name ∈ e._parameter_cache.keys) ∨ ∃ value, Reads v r e.revit_element parameter_name value

/-- The id can be read for every parameter that cannot. -/
def Reported (refresh_cache : Bool) (e : Element σ ν) (names : List String) : Prop :=
  ∀ name ∈ names, ¬Readable v r refresh_cache e name → ∃ element_id, r.Id e.revit_element = .ok element_id

/-- The answer has one entry for every parameter whose value can be read, with the value
    that Revit has now where the cache is refreshed. -/
def AllParameters (names : List String) (refresh_cache : Bool) (e : Element σ ν) : Prop :=
  ∃ parameters, (e.get_all_parameters v r names refresh_cache).1 = .ok parameters ∧
    (∀ name, name ∈ parameters.keys ↔ name ∈ names ∧ Readable v r refresh_cache e name) ∧
    (refresh_cache = true → ∀ name entry, parameters.get? name = some entry → Reads v r e.revit_element name entry.value)

variable {v r} {e : Element σ ν}

/-- A parameter that is found in the cache or in Revit has an entry afterwards, if the cache is used. -/
theorem get_readable {parameter_name : String} (readable : Readable v r false e parameter_name) :
    ∃ value entry left, e.get_parameter_value v r parameter_name true = (.ok value, left) ∧
      left._parameter_cache.get? parameter_name = some entry ∧ left.revit_element = e.revit_element ∧
      ∀ k, k ∈ left._parameter_cache.keys ↔ k = parameter_name ∨ k ∈ e._parameter_cache.keys := by
  cases cached : e._parameter_cache.get? parameter_name with
  | some entry =>
    refine ⟨entry.value, entry, e, get_cached cached, cached, rfl, fun k => (or_iff_right_of_imp ?_).symm⟩
    rintro rfl
    exact Dict.mem_keys_of_get? cached
  | none =>
    have uncached := (Dict.get?_none_iff _ _).mp cached
    obtain ⟨value, entry, found⟩ := readable.resolve_left fun inside => uncached inside.2
    have found : e.read v r parameter_name = .ok (entry, value) := found
    refine ⟨value, entry, { e with _parameter_cache := e._parameter_cache.set parameter_name entry }, ?_, ?_, rfl, fun k => ?_⟩
    · rw [get_parameter_value, if_pos rfl, cached, found]
      rfl
    · exact Dict.get?_set_self ..
    · exact Dict.mem_keys_set ..

/-- A parameter that is put into the cache makes nothing readable that was not. -/
theorem readable_cached {left : Element σ ν} {parameter_name : String} (readable : Readable v r false e parameter_name)
    (revit : left.revit_element = e.revit_element)
    (keys : ∀ k, k ∈ left._parameter_cache.keys ↔ k = parameter_name ∨ k ∈ e._parameter_cache.keys) (name : String) :
    Readable v r false left name ↔ Readable v r false e name := by
  unfold Readable at readable ⊢
  rw [revit, keys]
  constructor
  · rintro (⟨_, rfl | inside⟩ | reads)
    · exact readable
    · exact Or.inl ⟨rfl, inside⟩
    · exact Or.inr reads
  · exact Or.imp_left fun inside => ⟨rfl, Or.inr inside.2⟩

/-- A parameter that is not found, whether or not the cache is used. -/
theorem get_unreadable {parameter_name : String} (use_cache : Bool) (unreadable : ¬Readable v r (!use_cache) e parameter_name) :
    ∃ cause, e.get_parameter_value v r parameter_name use_cache = match e.id r with
      | .error message => (.error (.other message), e)
      | .ok element_id => (.error (.ElementNotFoundError element_id parameter_name cause), e) := by
  obtain ⟨outside, unread⟩ := not_or.mp unreadable
  have missed : (if use_cache then e._parameter_cache.get? parameter_name else none) = none := by
    cases use_cache with
    | false => rfl
    | true => exact (Dict.get?_none_iff _ _).mpr fun inside => outside ⟨rfl, inside⟩
  cases answer : e.read v r parameter_name with
  | ok found => exact absurd ⟨found.2, found.1, answer⟩ unread
  | error cause =>
    refine ⟨cause, ?_⟩
    cases known : e.id r with
    | error message => simp only [get_parameter_value, missed, answer, known]
    | ok element_id => simp only [get_parameter_value, missed, answer, known]

/-- With the cache in use, the loop adds an entry for every parameter that can be read. -/
theorem collect_cached (names : List String) (parameters : Dict String (ParameterValue ν)) (e : Element σ ν) :
    ((∃ found, (collect v r true names parameters e).1 = .ok found) ↔ Reported v r false e names) ∧
      ∀ found, (collect v r true names parameters e).1 = .ok found →
        ∀ name, name ∈ found.keys ↔ name ∈ parameters.keys ∨ name ∈ names ∧ Readable v r false e name := by
  induction names generalizing parameters e with
  | nil =>
    refine ⟨iff_of_true ⟨parameters, rfl⟩ fun _ member => (by cases member), fun found answer name => ?_⟩
    obtain rfl : parameters = found := Except.ok.inj answer
    simp
  | cons first rest ih =>
    rw [collect]
    by_cases readable : Readable v r false e first
    · obtain ⟨value, entry, left, got, cached, revit, keys⟩ := get_readable readable
      have same := readable_cached readable revit keys
      obtain ⟨returns, collected⟩ := ih (parameters.set first entry) left
      simp only [got, cached]
      refine ⟨returns.trans ?_, fun found answer name => ?_⟩
      · simp [Reported, same, revit, readable]
      · rw [collected found answer name, same, Dict.mem_keys_set, List.mem_cons]
        constructor
        · rintro ((rfl | before) | ⟨later, reads⟩)
          · exact Or.inr ⟨Or.inl rfl, readable⟩
          · exact Or.inl before
          · exact Or.inr ⟨Or.inr later, reads⟩
        · rintro (before | ⟨rfl | later, reads⟩)
          · exact Or.inl (Or.inr before)
          · exact Or.inl (Or.inl rfl)
          · exact Or.inr ⟨later, reads⟩
    · obtain ⟨cause, got⟩ := get_unreadable true readable
      rw [got]
      cases known : e.id r with
      | error message =>
        refine ⟨iff_of_false (not_exists.mpr fun found answer => by cases answer) fun reported => ?_, fun found answer => by cases answer⟩
        obtain ⟨element_id, other⟩ := reported first List.mem_cons_self readable
        cases known.symm.trans other
      | ok element_id =>
        obtain ⟨returns, collected⟩ := ih parameters e
        refine ⟨returns.trans (iff_of_true ?_ ?_), fun found answer name => ?_⟩
        · exact fun _ _ _ => ⟨element_id, known⟩
        · exact fun _ _ _ => ⟨element_id, known⟩
        · rw [collected found answer name, List.mem_cons]
          refine or_congr_right (and_congr_left fun reads => (or_iff_right ?_).symm)
          rintro rfl
          exact readable reads

/-- With an empty cache that is not used, the loop returns only where it finds nothing. -/
theorem collect_refreshed (names : List String) (e : Element σ ν) (empty : e._parameter_cache = ∅)
    (parameters found : Dict String (ParameterValue ν)) :
    (collect v r false names parameters e).1 = .ok found ↔
      found = parameters ∧ (∀ name ∈ names, ¬∃ value, Reads v r e.revit_element name value) ∧ Reported v r true e names := by
  induction names with
  | nil => simp [collect, Reported, eq_comm]
  | cons first rest ih =>
    rw [collect]
    by_cases readable : ∃ value, Reads v r e.revit_element first value
    · obtain ⟨value, entry, reads⟩ := readable
      have reads : e.read v r first = .ok (entry, value) := reads
      have got : e.get_parameter_value v r first false = (.ok value, e) := by
        rw [get_parameter_value, if_neg (by simp), reads]
        rfl
      simp only [got, empty, Dict.get?_empty]
      exact iff_of_false (fun returned => by cases returned) fun answer => answer.2.1 first List.mem_cons_self ⟨value, entry, reads⟩
    · have unreadable : ¬Readable v r true e first := fun found => found.elim (fun cached => by cases cached.1) readable
      obtain ⟨cause, got⟩ := get_unreadable false unreadable
      rw [got]
      cases known : e.id r with
      | error message =>
        refine iff_of_false (fun returned => by cases returned) fun answer => ?_
        obtain ⟨element_id, other⟩ := answer.2.2 first List.mem_cons_self unreadable
        cases known.symm.trans other
      | ok element_id =>
        have always (names : List String) : Reported v r true e names := fun _ _ _ => ⟨element_id, known⟩
        simp only [ih, List.forall_mem_cons, readable, not_false_eq_true, true_and, always, and_true]

/-- All parameters are returned exactly where nothing is refreshed, or nothing can be read,
    and the id can be read to report what cannot. -/
theorem all_parameters_iff (v : Values ν) (r : IRevitElement σ ν) (names : List String) (refresh_cache : Bool) (e : Element σ ν) :
    AllParameters v r names refresh_cache e ↔
      (refresh_cache = true → ∀ name ∈ names, ¬∃ value, Reads v r e.revit_element name value) ∧ Reported v r refresh_cache e names := by
  unfold AllParameters get_all_parameters
  cases refresh_cache with
  | false =>
    obtain ⟨returns, collected⟩ := collect_cached (v := v) (r := r) names ∅ e
    simp only [Bool.not_false, Bool.false_eq_true, if_false, false_imp_iff, true_and, and_true] at returns collected ⊢
    rw [← returns]
    exact exists_congr fun found => and_iff_left_of_imp fun answer => by simpa using collected found answer
  | true =>
    have refreshed := collect_refreshed (v := v) (r := r) names { e with _parameter_cache := ∅ } rfl ∅
    simp only [Bool.not_true, if_true, true_imp_iff, refreshed]
    have unchanged : Reported v r true { e with _parameter_cache := ∅ } names ↔ Reported v r true e names := by
      simp [Reported, Readable]
    rw [unchanged]
    constructor
    · rintro ⟨_, ⟨_, answer⟩, _⟩
      exact answer
    · refine fun answer => ⟨∅, ⟨rfl, answer⟩, fun name => ?_, fun name entry found => ?_⟩
      · simpa [Readable] using answer.1 name
      · cases found

/-- A refresh of the parameters of a wall ends with the first. -/
theorem refresh_raises :
    (∃ left, get_all_parameters numbers wall default_parameter_names true { revit_element := some 2 } = (.error (.KeyError "Name"), left)) ∧
      ¬AllParameters numbers wall default_parameter_names true { revit_element := some 2 } := by
  refine ⟨⟨_, rfl⟩, ?_⟩
  rintro ⟨parameters, answer, _⟩
  cases answer

end Element
end RevitPy.Api
