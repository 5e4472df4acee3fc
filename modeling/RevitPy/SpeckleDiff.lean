import Mathlib.Data.List.Dedup
import RevitPy.Filing
import RevitPy.PyObjects

/-!
# Differences of two lists of elements

Elements are found again by their ids. An element whose id is the integer 0 is overlooked: the
id counts as false, and the next key that may hold one is asked.
-/

namespace RevitPy.SpeckleDiff
variable {ω : Type}

inductive ChangeType
  | added
  | removed
  | modified
  deriving DecidableEq

/-- A single difference between local and remote element states. -/
structure DiffEntry (ω : Type) where
  element_id : String
  change_type : ChangeType
  property_name : Option String := none
  local_value : PyObject ω := .None
  remote_value : PyObject ω := .None

def _ignored_keys : List String := ["speckle_type", "revitpy_type", "type"]

/-- The keys that may hold the id of an element. -/
def id_keys : List String := ["id", "element_id", "Id"]

section
variable (py : ObjectMethods ω)

/-- Extract the canonical element id from a dict. -/
def _element_id (element : Members ω) : Option String :=
  let id := (element.first_truthy py (.str "") id_keys).text py
  if id = "" then none else some id

/-- The elements by their ids, of which the last one with an id counts. -/
def element_map (elements : List (Members ω)) : Dict String (Members ω) := Filing.file (_element_id py) elements

def property_entries (eid : String) (local_elem remote_elem : Members ω) : List (DiffEntry ω) :=
  let all_keys := ((local_elem.keys ++ remote_elem.keys).filter fun key => key ∉ _ignored_keys).dedup
  (all_keys.mergeSort fun a b => a ≤ b).flatMap fun key =>
    let local_value := local_elem.get key
    let remote_value := remote_elem.get key
    if local_value.eq py remote_value then []
    else [{ element_id := eid, change_type := .modified, property_name := some key, local_value, remote_value }]

/-- Compare local and remote element dicts and return diffs. -/
def compare (local_elements remote_elements : List (Members ω)) : List (DiffEntry ω) :=
  let local_map := element_map py local_elements
  let remote_map := element_map py remote_elements
  let added := local_map.keys.flatMap fun eid =>
    if remote_map.contains eid then [] else [{ element_id := eid, change_type := .added }]
  let removed := remote_map.keys.flatMap fun eid =>
    if local_map.contains eid then [] else [{ element_id := eid, change_type := .removed }]
  let modified := local_map.keys.flatMap fun eid =>
    match local_map.get? eid, remote_map.get? eid with
    | some local_elem, some remote_elem => property_entries py eid local_elem remote_elem
    | _, _ => []
  added ++ removed ++ modified

/-- Return whether any differences exist between the two sets. -/
def has_changes (local_elements remote_elements : List (Members ω)) : Bool := 0 < (compare py local_elements remote_elements).length

end

/-! ## What should be reported -/

/-- Whether two elements differ in a key, by what they hold there. -/
abbrev Comparison (ω : Type) := Members ω → Members ω → String → Bool

/-- The values of a key differ, where a key that is missing counts as `None`. -/
def differ (py : ObjectMethods ω) : Comparison ω := fun l r key => decide (key ∉ _ignored_keys) && !(l.get key).eq py (r.get key)

/-- The same, where a key that is missing differs from one with any value. -/
def differ_strictly (py : ObjectMethods ω) : Comparison ω := fun l r key => decide (key ∉ _ignored_keys) &&
  match l.get? key, r.get? key with
  | some v, some w => !v.eq py w
  | none, none => false
  | _, _ => true

/-- The entries that an id calls for, with the elements of this id in the two lists. -/
def calls_for (differs : Comparison ω) : Option (Members ω) → Option (Members ω) → ChangeType → Option String → Bool
  | some _, none, .added, none => true
  | none, some _, .removed, none => true
  | some l, some r, .modified, some key => differs l r key
  | _, _, _, _ => false

/-- The id that an element carries. -/
def own_id (element : Members ω) : Option String := element.own_id id_keys

/-- The element that carries an id. -/
abbrev carrier (id : String) (elements : List (Members ω)) : Option (Members ω) := Filing.first own_id id elements

/-- The last element from which an id is extracted. -/
abbrev found (py : ObjectMethods ω) (id : String) (elements : List (Members ω)) : Option (Members ω) := Filing.last (_element_id py) id elements

/-- An element from which another id is extracted than it carries, or none. -/
abbrev Overlooked (py : ObjectMethods ω) (element : Members ω) : Prop := Filing.Misfiled own_id (_element_id py) element

def reports (id : String) (change_type : ChangeType) (property_name : Option String) (entry : DiffEntry ω) : Bool :=
  entry.element_id = id && entry.change_type = change_type && entry.property_name = property_name

/-- Each id is reported with the entries that it calls for, once each, and there are changes where
    the lists do not agree on ids and keys. -/
structure Complete (differs : Comparison ω) (locals remotes : List (Members ω)) (entries : List (DiffEntry ω)) (changes : Bool) : Prop where
  reported : ∀ id change_type property_name, entries.countP (reports id change_type property_name) =
    if calls_for differs (carrier id locals) (carrier id remotes) change_type property_name then 1 else 0
  changes : changes = false ↔ (∀ id, (carrier id locals).isSome = (carrier id remotes).isSome) ∧
    ∀ id l r key, carrier id locals = some l → carrier id remotes = some r → differs l r key = false

/-- The elements taken for those with an id call for the same entries as those that carry it. -/
def Alike (py : ObjectMethods ω) (differs : Comparison ω) (id : String) (locals remotes : List (Members ω)) : Prop :=
  calls_for (differ py) (found py id locals) (found py id remotes) = calls_for differs (carrier id locals) (carrier id remotes)

/-- An overlooked element does no harm: there is one on both sides and they agree in all keys, and under
    the id that either is taken for the same is called for as without it. -/
structure Unharmed (py : ObjectMethods ω) (differs : Comparison ω) (locals remotes : List (Members ω)) : Prop where
  local_zero : ∀ l ∈ locals, Overlooked py l → ∃ r ∈ remotes, Overlooked py r ∧ ∀ key, differs l r key = false
  remote_zero : ∀ r ∈ remotes, Overlooked py r → ∃ l ∈ locals, Overlooked py l ∧ ∀ key, differs l r key = false
  taken : ∀ element ∈ locals ++ remotes, Overlooked py element → ∀ id, _element_id py element = some id → Alike py differs id locals remotes
  seen : ∀ id l r, carrier id locals = some l → carrier id remotes = some r → ¬Overlooked py l → ¬Overlooked py r →
    (∀ element ∈ locals ++ remotes, Overlooked py element → _element_id py element ≠ some id) → ∀ key, differs l r key = differ py l r key

/-! ## What is reported -/

/-- What is counted comes from one of the keys. -/
theorem countP_flatMap_keys {α β : Type} [DecidableEq α] {keys : List α} (distinct : keys.Nodup) {of : α → List β} {p : β → Bool} {k : α}
    (others : ∀ key, key ≠ k → (of key).countP p = 0) : (keys.flatMap of).countP p = if k ∈ keys then (of k).countP p else 0 := by
  induction keys with
  | nil => rfl
  | cons key rest ih =>
    obtain ⟨once, distinct⟩ := List.nodup_cons.mp distinct
    rw [List.flatMap_cons, List.countP_append, ih distinct]
    by_cases same : key = k
    · subst same
      simp [once]
    · simp [others key same, Ne.symm same]

variable {py : ObjectMethods ω}

theorem element_id_of_mem_property_entries {id : String} {l r : Members ω} {entry : DiffEntry ω} (member : entry ∈ property_entries py id l r) :
    entry.element_id = id ∧ entry.change_type = .modified ∧ entry.property_name.isSome := by
  obtain ⟨key, -, member⟩ := List.mem_flatMap.mp member
  by_cases same : (l.get key).eq py (r.get key) = true
  · simp [same] at member
  · simp only [same] at member
    rw [List.mem_singleton.mp member]
    exact ⟨rfl, rfl, rfl⟩

/-- Entries of one id are not those of another. -/
theorem countP_of_other {entries : List (DiffEntry ω)} {key id : String} (own : ∀ entry ∈ entries, entry.element_id = key) (other : key ≠ id)
    (change_type : ChangeType) (property_name : Option String) : entries.countP (reports id change_type property_name) = 0 :=
  List.countP_eq_zero.mpr fun entry member => by simp [reports, own entry member, other]

theorem countP_modified (id : String) (l r : Members ω) (key : String) :
    (property_entries py id l r).countP (reports id .modified (some key)) = if differ py l r key then 1 else 0 := by
  have distinct : ((((l.keys ++ r.keys).filter fun key => key ∉ _ignored_keys).dedup).mergeSort fun a b => a ≤ b).Nodup :=
    (List.mergeSort_perm _ _).nodup_iff.mpr (List.nodup_dedup _)
  rw [property_entries, countP_flatMap_keys (k := key) distinct]
  · by_cases same : (l.get key).eq py (r.get key) = true
    · simp [same, differ]
    · have known : key ∈ l.keys ∨ key ∈ r.keys := by
        by_contra unknown
        obtain ⟨left, right⟩ := not_or.mp unknown
        rw [Members.get_of_not_mem left, Members.get_of_not_mem right] at same
        exact same rfl
      by_cases ignored : key ∈ _ignored_keys <;> simp [same, differ, reports, known, ignored]
  · intro other different
    by_cases same : (l.get other).eq py (r.get other) = true
    · simp [same]
    · simp [same, reports, different]

theorem countP_property_entries (id : String) (l r : Members ω) (change_type : ChangeType) (property_name : Option String) :
    (property_entries py id l r).countP (reports id change_type property_name) =
      if calls_for (differ py) (some l) (some r) change_type property_name then 1 else 0 := by
  cases property_name with
  | none =>
    have unnamed : ∀ entry ∈ property_entries py id l r, ¬reports id change_type none entry = true := fun entry member counted => by
      have named := (element_id_of_mem_property_entries member).2.2
      simp [reports] at counted
      simp [counted.2] at named
    rw [List.countP_eq_zero.mpr unnamed]
    cases change_type <;> rfl
  | some key =>
    by_cases modified : change_type = .modified
    · subst modified
      exact countP_modified id l r key
    · have others : ∀ entry ∈ property_entries py id l r, ¬reports id change_type (some key) entry = true := fun entry member counted => by
        simp [reports] at counted
        exact modified (counted.1.2.symm.trans (element_id_of_mem_property_entries member).2.1)
      rw [List.countP_eq_zero.mpr others]
      cases change_type <;> first | rfl | exact absurd rfl modified

/-- The entries of an id are those that the elements found under it call for. -/
theorem countP_compare (locals remotes : List (Members ω)) (id : String) (change_type : ChangeType) (property_name : Option String) :
    (compare py locals remotes).countP (reports id change_type property_name) =
      if calls_for (differ py) ((element_map py locals).get? id) ((element_map py remotes).get? id) change_type property_name then 1 else 0 := by
  simp only [compare, List.countP_append]
  generalize element_map py locals = local_map
  generalize element_map py remotes = remote_map
  rw [countP_flatMap_keys (k := id) local_map.keys_nodup, countP_flatMap_keys (k := id) remote_map.keys_nodup,
    countP_flatMap_keys (k := id) local_map.keys_nodup]
  · cases onLeft : local_map.get? id with
    | none => cases onRight : remote_map.get? id with
      | none => simp [(local_map.get?_none_iff id).mp onLeft, (remote_map.get?_none_iff id).mp onRight, calls_for]
      | some r =>
        simp [(local_map.get?_none_iff id).mp onLeft, Dict.mem_keys_of_get? onRight, reports, Dict.contains]
        cases change_type <;> cases property_name <;> simp [calls_for]
    | some l => cases onRight : remote_map.get? id with
      | none =>
        simp [(remote_map.get?_none_iff id).mp onRight, Dict.mem_keys_of_get? onLeft, reports, Dict.contains]
        cases change_type <;> cases property_name <;> simp [calls_for]
      | some r =>
        simp only [Dict.mem_keys_of_get? onLeft, Dict.mem_keys_of_get? onRight, Dict.contains, if_true, decide_true, List.countP_nil, Nat.zero_add, Nat.add_zero]
        exact countP_property_entries id l r change_type property_name
  · refine fun key other => countP_of_other (fun entry member => ?_) other ..
    cases onLeft : local_map.get? key <;> cases onRight : remote_map.get? key <;> simp [onLeft, onRight] at member
    exact (element_id_of_mem_property_entries member).1
  · refine fun key other => countP_of_other (fun entry member => ?_) other ..
    by_cases known : local_map.contains key = true <;> simp [known] at member
    rw [member]
  · refine fun key other => countP_of_other (fun entry member => ?_) other ..
    by_cases known : remote_map.contains key = true <;> simp [known] at member
    rw [member]

theorem get?_element_map (elements : List (Members ω)) (id : String) : (element_map py elements).get? id = found py id elements :=
  Filing.get?_file (_element_id py) elements id

theorem not_removed (differs : Comparison ω) (l : Members ω) (r : Option (Members ω)) : calls_for differs (some l) r .removed none = false := by
  cases r <;> rfl

theorem not_added (differs : Comparison ω) (l : Option (Members ω)) (r : Members ω) : calls_for differs l (some r) .added none = false := by
  cases l <;> rfl

theorem calls_for_nothing_iff (differs : Comparison ω) (l r : Option (Members ω)) :
    (∀ change_type property_name, calls_for differs l r change_type property_name = false) ↔
      l.isSome = r.isSome ∧ ∀ a b key, l = some a → r = some b → differs a b key = false := by
  cases l with
  | none => cases r with
    | none => simp [calls_for]
    | some b => exact ⟨fun nothing => (nomatch nothing .removed none), fun agreed => (nomatch agreed.1)⟩
  | some a => cases r with
    | none => exact ⟨fun nothing => (nomatch nothing .added none), fun agreed => (nomatch agreed.1)⟩
    | some b =>
      refine ⟨fun nothing => ⟨rfl, ?_⟩, fun agreed change_type property_name => ?_⟩
      · rintro _ _ key ⟨⟩ ⟨⟩
        exact nothing .modified (some key)
      · cases change_type <;> cases property_name <;> first | rfl | exact agreed.2 a b _ rfl rfl

theorem has_changes_false_iff (locals remotes : List (Members ω)) : has_changes py locals remotes = false ↔
    ∀ id change_type property_name, (compare py locals remotes).countP (reports id change_type property_name) = 0 := by
  simp only [has_changes, decide_eq_false_iff_not, Nat.not_lt, Nat.le_zero]
  refine ⟨fun empty => ?_, fun nothing => ?_⟩
  · simp [List.length_eq_zero_iff.mp empty]
  · by_contra nonempty
    obtain ⟨entry, member⟩ := List.exists_mem_of_length_pos (Nat.pos_of_ne_zero nonempty)
    exact List.countP_eq_zero.mp (nothing entry.element_id entry.change_type entry.property_name) entry member (by simp [reports])

/-- The entries are those that the ids call for exactly when every id is alike. -/
theorem complete_iff_alike (differs : Comparison ω) (locals remotes : List (Members ω)) :
    Complete differs locals remotes (compare py locals remotes) (has_changes py locals remotes) ↔ ∀ id, Alike py differs id locals remotes := by
  constructor
  · intro complete id
    funext change_type property_name
    have counted := complete.reported id change_type property_name
    rw [countP_compare, get?_element_map, get?_element_map] at counted
    revert counted
    cases calls_for (differ py) (found py id locals) (found py id remotes) change_type property_name <;>
      cases calls_for differs (carrier id locals) (carrier id remotes) change_type property_name <;> simp
  · intro alike
    have reported (id : String) (change_type : ChangeType) (property_name : Option String) :
        (compare py locals remotes).countP (reports id change_type property_name) =
          if calls_for differs (carrier id locals) (carrier id remotes) change_type property_name then 1 else 0 := by
      rw [countP_compare, get?_element_map, get?_element_map, alike id]
    refine ⟨reported, (has_changes_false_iff locals remotes).trans ?_⟩
    have nothing (id : String) := calls_for_nothing_iff differs (carrier id locals) (carrier id remotes)
    simp only [reported, ite_eq_right_iff, Nat.one_ne_zero, imp_false, Bool.not_eq_true, nothing]
    exact ⟨fun agreed => ⟨fun id => (agreed id).1, fun id l r key => (agreed id).2 l r key⟩, fun agreed id => ⟨agreed.1 id, agreed.2 id⟩⟩

section
variable {elements : List (Members ω)} (identified : Filing.Identified own_id elements)
include identified

theorem own_id_of_overlooked {element : Members ω} (member : element ∈ elements) (overlooked : Overlooked py element) :
    own_id element = some "0" := by
  obtain ⟨id, carried⟩ := identified.carried element member
  rcases Members.text_first_truthy py carried (.str "") with same | zero
  · refine absurd ?_ overlooked
    rw [_element_id, carried, same, if_neg (Members.own_id_ne_empty carried)]
  · rw [carried, zero]

theorem carrier_of_overlooked {element : Members ω} (member : element ∈ elements) (overlooked : Overlooked py element) :
    carrier "0" elements = some element :=
  (Filing.first_eq_some_iff identified "0" element).mpr ⟨member, own_id_of_overlooked identified member overlooked⟩

/-- The id of an overlooked element is not found. -/
theorem found_zero {element : Members ω} (member : element ∈ elements) (overlooked : Overlooked py element) : found py "0" elements = none := by
  refine Filing.last_eq_none_iff.mpr fun other listed taken => ?_
  by_cases missed : Overlooked py other
  · exact missed (taken.trans (own_id_of_overlooked identified listed missed).symm)
  · have owned := (not_not.mp missed).symm.trans taken
    exact missed (Filing.same_of_key identified member listed ((own_id_of_overlooked identified member overlooked).trans owned.symm) ▸ overlooked)

theorem found_eq_carrier {id : String} (own : ∀ element ∈ elements, Overlooked py element → own_id element ≠ some id)
    (taken : ∀ element ∈ elements, Overlooked py element → _element_id py element ≠ some id) : found py id elements = carrier id elements :=
  Filing.last_eq_first identified fun element member overlooked => ⟨own element member overlooked, taken element member overlooked⟩

/-- An element that carries an id and is not overlooked is found, unless another one is taken for it. -/
theorem found_of_seen {id : String} {element : Members ω} (carried : carrier id elements = some element) (seen : ¬Overlooked py element)
    (taken : ∀ other ∈ elements, Overlooked py other → _element_id py other ≠ some id) : found py id elements = some element := by
  obtain ⟨member, owned⟩ := (Filing.first_eq_some_iff identified id element).mp carried
  refine (found_eq_carrier identified (fun other listed overlooked own => ?_) taken).trans carried
  exact seen (Filing.same_of_key identified member listed (owned.trans own.symm) ▸ overlooked)

/-- An element that is not found under the id it carries is overlooked. -/
theorem overlooked_of_carrier {id : String} {element : Members ω} (carried : carrier id elements = some element) (missing : found py id elements = none) :
    Overlooked py element := fun same =>
  have ⟨member, owned⟩ := (Filing.first_eq_some_iff identified id element).mp carried
  Filing.last_eq_none_iff.mp missing element member (same.trans owned)

end

section
variable {differs : Comparison ω} {locals remotes : List (Members ω)} (left : Filing.Identified own_id locals) (right : Filing.Identified own_id remotes)
include left right

theorem unharmed_of_alike (alike : ∀ id, Alike py differs id locals remotes) : Unharmed py differs locals remotes where
  local_zero l member overlooked := by
    have calls := alike "0"
    rw [Alike, found_zero left member overlooked, carrier_of_overlooked left member overlooked] at calls
    cases taken : found py "0" remotes with
    | some r =>
      rw [taken] at calls
      exact nomatch (congrFun (congrFun calls .removed) none).trans (not_removed differs l _)
    | none => cases carried : carrier "0" remotes with
      | none =>
        rw [taken, carried] at calls
        exact nomatch congrFun (congrFun calls .added) none
      | some r =>
        rw [taken, carried] at calls
        exact ⟨r, List.mem_of_find?_eq_some carried, overlooked_of_carrier right carried taken,
          fun key => (congrFun (congrFun calls .modified) (some key)).symm⟩
  remote_zero r member overlooked := by
    have calls := alike "0"
    rw [Alike, found_zero right member overlooked, carrier_of_overlooked right member overlooked] at calls
    cases taken : found py "0" locals with
    | some l =>
      rw [taken] at calls
      exact nomatch (congrFun (congrFun calls .added) none).trans (not_added differs _ r)
    | none => cases carried : carrier "0" locals with
      | none =>
        rw [taken, carried] at calls
        exact nomatch congrFun (congrFun calls .removed) none
      | some l =>
        rw [taken, carried] at calls
        exact ⟨l, List.mem_of_find?_eq_some carried, overlooked_of_carrier left carried taken,
          fun key => (congrFun (congrFun calls .modified) (some key)).symm⟩
  taken _ _ _ id _ := alike id
  seen id l r onLeft onRight leftSeen rightSeen free key := by
    have calls := alike id
    rw [Alike, found_of_seen left onLeft leftSeen fun element member => free element (List.mem_append_left _ member),
      found_of_seen right onRight rightSeen fun element member => free element (List.mem_append_right _ member), onLeft, onRight] at calls
    exact (congrFun (congrFun calls .modified) (some key)).symm

/-- Two overlooked elements call for nothing and are not found. -/
theorem alike_of_overlooked {l r : Members ω} (onLeft : l ∈ locals) (onRight : r ∈ remotes) (leftMissed : Overlooked py l)
    (rightMissed : Overlooked py r) (agreed : ∀ key, differs l r key = false) : Alike py differs "0" locals remotes := by
  rw [Alike, found_zero left onLeft leftMissed, found_zero right onRight rightMissed, carrier_of_overlooked left onLeft leftMissed,
    carrier_of_overlooked right onRight rightMissed]
  funext change_type property_name
  cases change_type <;> cases property_name <;> first | rfl | exact (agreed _).symm

theorem alike_of_unharmed (unharmed : Unharmed py differs locals remotes) (id : String) : Alike py differs id locals remotes := by
  by_cases free : ∀ element ∈ locals ++ remotes, Overlooked py element → _element_id py element ≠ some id
  · by_cases leftOwn : ∀ l ∈ locals, Overlooked py l → own_id l ≠ some id
    · by_cases rightOwn : ∀ r ∈ remotes, Overlooked py r → own_id r ≠ some id
      · rw [Alike, found_eq_carrier left leftOwn fun l member => free l (List.mem_append_left _ member),
          found_eq_carrier right rightOwn fun r member => free r (List.mem_append_right _ member)]
        funext change_type property_name
        cases onLeft : carrier id locals with
        | none => cases carrier id remotes <;> cases change_type <;> cases property_name <;> rfl
        | some l => cases onRight : carrier id remotes with
          | none => cases change_type <;> cases property_name <;> rfl
          | some r =>
            obtain ⟨leftListed, leftOwned⟩ := (Filing.first_eq_some_iff left id l).mp onLeft
            obtain ⟨rightListed, rightOwned⟩ := (Filing.first_eq_some_iff right id r).mp onRight
            have seen := unharmed.seen id l r onLeft onRight (fun missed => leftOwn l leftListed missed leftOwned)
              (fun missed => rightOwn r rightListed missed rightOwned) free
            cases change_type <;> cases property_name <;> first | rfl | exact (seen _).symm
      · push Not at rightOwn
        obtain ⟨r, listed, missed, owned⟩ := rightOwn
        obtain ⟨l, member, overlooked, agreed⟩ := unharmed.remote_zero r listed missed
        cases owned.symm.trans (own_id_of_overlooked right listed missed)
        exact alike_of_overlooked left right member listed overlooked missed agreed
    · push Not at leftOwn
      obtain ⟨l, listed, missed, owned⟩ := leftOwn
      obtain ⟨r, member, overlooked, agreed⟩ := unharmed.local_zero l listed missed
      cases owned.symm.trans (own_id_of_overlooked left listed missed)
      exact alike_of_overlooked left right listed member missed overlooked agreed
  · push Not at free
    obtain ⟨element, member, overlooked, taken⟩ := free
    exact unharmed.taken element member overlooked id taken

theorem complete_iff_unharmed : Complete differs locals remotes (compare py locals remotes) (has_changes py locals remotes) ↔ Unharmed py differs locals remotes :=
  (complete_iff_alike differs locals remotes).trans ⟨unharmed_of_alike left right, alike_of_unharmed left right⟩

end

/-- The differences are complete exactly when no overlooked element does harm, whether a missing key
    counts as `None` or not. -/
theorem compare_complete_iff (py : ObjectMethods ω) (locals remotes : List (Members ω)) (left : Filing.Identified own_id locals) (right : Filing.Identified own_id remotes) :
    (Complete (differ py) locals remotes (compare py locals remotes) (has_changes py locals remotes) ↔ Unharmed py (differ py) locals remotes) ∧
    (Complete (differ_strictly py) locals remotes (compare py locals remotes) (has_changes py locals remotes) ↔
      Unharmed py (differ_strictly py) locals remotes) :=
  ⟨complete_iff_unharmed left right, complete_iff_unharmed left right⟩

/-- Nothing that can be compared but `None`, integers and texts. -/
def no_others : ObjectMethods Empty := ⟨nofun, nofun, nofun⟩

def wall (id : Int) : Members Empty := Dict.ofList [("id", .int id), ("level", .str "L1")]

theorem wall_identified (id : Int) : Filing.Identified own_id [wall id] where
  carried _ member := ⟨toString id, by rw [List.mem_singleton.mp member]; rfl⟩
  distinct := List.nodup_singleton _

theorem wall_compared : Complete (differ no_others) [wall 1] [wall 1] (compare no_others [wall 1] [wall 1]) (has_changes no_others [wall 1] [wall 1]) := by
  refine (compare_complete_iff no_others _ _ (wall_identified 1) (wall_identified 1)).1.mpr ?_
  have seen : ¬Overlooked no_others (wall 1) := fun missed => missed (by decide)
  constructor
  · exact fun l member missed => absurd (List.mem_singleton.mp member ▸ missed) seen
  · exact fun r member missed => absurd (List.mem_singleton.mp member ▸ missed) seen
  · intro element member missed
    simp only [List.singleton_append, List.mem_cons, List.not_mem_nil, or_false, or_self] at member
    exact absurd (member ▸ missed) seen
  · exact fun _ _ _ _ _ _ _ _ _ => rfl

/-- An element with the id 0 that was added is not reported. -/
theorem zero_overlooked : ¬∀ (py : ObjectMethods Empty) (locals remotes : List (Members Empty)), Filing.Identified own_id locals → Filing.Identified own_id remotes →
    Complete (differ py) locals remotes (compare py locals remotes) (has_changes py locals remotes) := by
  intro complete
  have reported := (complete no_others [wall 0] [] (wall_identified 0) ⟨nofun, List.nodup_nil⟩).reported "0" .added none
  exact absurd reported (by decide)

end RevitPy.SpeckleDiff
