import Mathlib
import RevitPy.Filing
import RevitPy.PyObjects

/-!
# Differences of two states of a model

A difference is applied to the old state by dropping, inserting and replacing the properties of the
ids that it names. It yields the new state unless an element with the id 0 is filed elsewhere, or a
key that one of two elements lacks holds `None` in the other.
-/

namespace RevitPy.IfcDiff
variable {ω : Type}

inductive IfcChangeType
  | ADDED
  | MODIFIED
  | REMOVED
  deriving DecidableEq

/-- A single difference entry between two IFC model states. -/
structure IfcDiffEntry (ω : Type) where
  global_id : String
  entity_type : PyObject ω
  change_type : IfcChangeType
  old_properties : Members ω := ∅
  new_properties : Members ω := ∅
  changed_fields : List String := []

/-- Result of comparing two IFC model states. -/
structure IfcDiffResult (ω : Type) where
  added : List (IfcDiffEntry ω)
  modified : List (IfcDiffEntry ω)
  removed : List (IfcDiffEntry ω)
  summary : Dict String Nat

inductive Kind
  | dict
  | object (class_name : String)

/-- A dictionary, or another object with its attributes, at an address in memory. -/
structure Element (ω : Type) where
  address : Int
  kind : Kind
  members : Members ω

/-- An order in which a set is iterated. -/
structure Iteration where
  order : List String → List String
  perm : ∀ members, (order members).Perm members

/-- The keys, or attributes, that may hold the id of an element. -/
def id_keys : List String := ["global_id", "id"]

def property_attributes : List String := ["name", "category", "height", "width", "length", "area", "volume", "level", "material"]

section
variable (py : ObjectMethods ω)

/-- The key of an element: its address where no key holds an id that counts as true. -/
def eid (elem : Element ω) : String := (elem.members.first_truthy py (.int elem.address) id_keys).text py

/-- Build a lookup dict keyed by element ID. -/
def _build_element_map (elements : List (Element ω)) : Dict String (Element ω) := Filing.file (fun elem => some (eid py elem)) elements

/-- Get the type string for an element. -/
def _get_type (element : Element ω) : PyObject ω := match element.kind with
  | .dict => element.members.getD "type" (element.members.getD "ifc_type" (.str "Unknown"))
  | .object class_name => (element.members.get "category").either py (.str class_name)

/-- Extract a flat property dict from an element. -/
def _get_properties (element : Element ω) : Members ω := match element.kind with
  | .dict => element.members
  | .object _ => property_attributes.foldl (fun props attr => match element.members.get attr with
    | .None => props
    | value => props.set attr value) ∅

def changed_fields (old_props new_props : Members ω) : List String :=
  ((old_props.keys ++ new_props.keys).dedup.filter fun k => !(old_props.get k).eq py (new_props.get k)).mergeSort fun a b => a ≤ b

/-- Compare two element lists and return the differences. -/
def compare (sets : Iteration) (old_elements new_elements : List (Element ω)) : IfcDiffResult ω :=
  let old_map := _build_element_map py old_elements
  let new_map := _build_element_map py new_elements
  let added_ids := new_map.keys.filter fun eid => !old_map.contains eid
  let removed_ids := old_map.keys.filter fun eid => !new_map.contains eid
  let common_ids := old_map.keys.filter fun eid => new_map.contains eid
  let added := (sets.order added_ids).filterMap fun eid => (new_map.get? eid).map fun elem =>
    { global_id := eid, entity_type := _get_type py elem, change_type := .ADDED, new_properties := _get_properties elem }
  let removed := (sets.order removed_ids).filterMap fun eid => (old_map.get? eid).map fun elem =>
    { global_id := eid, entity_type := _get_type py elem, change_type := .REMOVED, old_properties := _get_properties elem }
  let modified := (sets.order common_ids).filterMap fun eid => match old_map.get? eid, new_map.get? eid with
    | some old_elem, some new_elem =>
      let old_props := _get_properties old_elem
      let new_props := _get_properties new_elem
      let fields := changed_fields py old_props new_props
      if fields = [] then none else some {
        global_id := eid
        entity_type := _get_type py new_elem
        change_type := .MODIFIED
        old_properties := old_props
        new_properties := new_props
        changed_fields := fields }
    | _, _ => none
  { added, modified, removed,
    summary := Dict.ofList [("added", added.length), ("modified", modified.length), ("removed", removed.length)] }

end

/-! ## States and what a difference does to them -/

/-- The properties of the elements by the ids they carry. -/
abbrev State (ω : Type) := String → Option (Members ω)

/-- The id that an element carries. -/
def own_id (element : Element ω) : Option String := element.members.own_id id_keys

/-- The element that carries an id. -/
abbrev carrier (id : String) (elements : List (Element ω)) : Option (Element ω) := Filing.first own_id id elements

def keyed (elements : List (Element ω)) : State ω := fun id => (carrier id elements).map _get_properties

def drop (entries : List (IfcDiffEntry ω)) (state : State ω) : State ω :=
  entries.foldl (fun s entry => Function.update s entry.global_id none) state

def put (entries : List (IfcDiffEntry ω)) (state : State ω) : State ω :=
  entries.foldl (fun s entry => Function.update s entry.global_id (some entry.new_properties)) state

/-- Drop removed ids, insert added properties and replace modified ones. -/
def apply (result : IfcDiffResult ω) (state : State ω) : State ω := put result.modified (put result.added (drop result.removed state))

/-- The dictionaries have the same keys, and under each the same object or equal ones. -/
def Equal (py : ObjectMethods ω) (a b : Members ω) : Prop := ∀ key, Option.Rel (fun v w => v = w ∨ v.eq py w = true) (a.get? key) (b.get? key)

/-- The difference of two lists turns the old state into the new one. -/
def Patches (py : ObjectMethods ω) (sets : Iteration) (old_elements new_elements : List (Element ω)) : Prop :=
  ∀ id, Option.Rel (Equal py) (apply (compare py sets old_elements new_elements) (keyed old_elements) id) (keyed new_elements id)

/-- An element with equal members somewhere else in memory, and with the very same ids. -/
structure Copied (py : ObjectMethods ω) (element copy : Element ω) : Prop where
  kind : copy.kind = element.kind
  equal : Equal py element.members copy.members
  ids : ∀ key ∈ id_keys, copy.members.get key = element.members.get key

def Unchanged (result : IfcDiffResult ω) : Prop := result.added = [] ∧ result.modified = [] ∧ result.removed = []

/-- Comparing a list with an equal copy of it finds nothing. -/
def CopiesEqual (py : ObjectMethods ω) (sets : Iteration) (elements : List (Element ω)) : Prop :=
  ∀ copies, List.Forall₂ (Copied py) elements copies → Unchanged (compare py sets elements copies)

/-! ## When the laws hold -/

/-- The last element that is filed under an id. -/
abbrev found (py : ObjectMethods ω) (id : String) (elements : List (Element ω)) : Option (Element ω) :=
  Filing.last (fun elem => some (eid py elem)) id elements

/-- An element that is filed under another id than it carries. -/
abbrev Overlooked (py : ObjectMethods ω) (element : Element ω) : Prop := Filing.Misfiled own_id (fun elem => some (eid py elem)) element

/-- The values of a key differ, where a key that is missing counts as `None`. -/
def differ (py : ObjectMethods ω) (old new : Element ω) (key : String) : Bool := !((_get_properties old).get key).eq py ((_get_properties new).get key)

/-- No overlooked element carries an id or is filed under it. -/
def Free (py : ObjectMethods ω) (id : String) (elements : List (Element ω)) : Prop :=
  ∀ element ∈ elements, Overlooked py element → own_id element ≠ some id ∧ some (eid py element) ≠ some id

open Classical in
/-- What is in a state once the elements filed under an id in the two lists were compared. -/
noncomputable def outcome (py : ObjectMethods ω) (old new : Option (Element ω)) (before : Option (Members ω)) : Option (Members ω) := match old, new with
  | none, none => before
  | some _, none => none
  | none, some new => some (_get_properties new)
  | some old, some new => if ∃ key, differ py old new key then some (_get_properties new) else before

/-- Elements of an id have the same keys if no key differs, and what an overlooked element does under
    the id that it carries and the one that it is filed under is what happened to the elements there. -/
structure Harmless (py : ObjectMethods ω) (old_elements new_elements : List (Element ω)) : Prop where
  keys : ∀ id old new, carrier id old_elements = some old → carrier id new_elements = some new → Free py id (old_elements ++ new_elements) →
    (∀ key, differ py old new key = false) → ∀ key, key ∈ (_get_properties old).keys ↔ key ∈ (_get_properties new).keys
  overlooked : ∀ id, ¬Free py id (old_elements ++ new_elements) →
    Option.Rel (Equal py) (outcome py (found py id old_elements) (found py id new_elements) (keyed old_elements id)) (keyed new_elements id)

/-- Every element has an id that counts as true, and what those that are found hold equals itself. -/
structure Stable (py : ObjectMethods ω) (elements : List (Element ω)) : Prop where
  filed : ∀ element ∈ elements, ∃ key ∈ id_keys, (element.members.get key).truthy py = true
  reflexive : ∀ id element, found py id elements = some element → ∀ key, differ py element element key = false

/-! ## What is compared -/

variable {py : ObjectMethods ω} {sets : Iteration}

theorem get?_build_element_map (elements : List (Element ω)) (id : String) : (_build_element_map py elements).get? id = found py id elements :=
  Filing.get?_file _ elements id

theorem contains_build_element_map (elements : List (Element ω)) (id : String) :
    (_build_element_map py elements).contains id = (found py id elements).isSome := by
  rw [← get?_build_element_map, Dict.contains]
  cases filed : (_build_element_map py elements).get? id with
  | none => simp [(Dict.get?_none_iff _ id).mp filed]
  | some element => simp [Dict.mem_keys_of_get? filed]

theorem changed_fields_eq_nil_iff (old_props new_props : Members ω) :
    changed_fields py old_props new_props = [] ↔ ∀ key, (old_props.get key).eq py (new_props.get key) = true := by
  rw [← List.length_eq_zero_iff, changed_fields, List.length_mergeSort, List.length_eq_zero_iff, List.filter_eq_nil_iff]
  refine ⟨fun same key => ?_, fun same key _ => by simp [same key]⟩
  by_cases known : key ∈ old_props.keys ++ new_props.keys
  · simpa using same key (List.mem_dedup.mpr known)
  · rw [List.mem_append, not_or] at known
    rw [Members.get_of_not_mem known.1, Members.get_of_not_mem known.2]
    rfl

section
variable (old_elements new_elements : List (Element ω))

/-- The entries of what is filed in one list and not in the other are those of the elements found there. -/
theorem mem_one_sided_iff (make : String → Element ω → IfcDiffEntry ω) (named : ∀ id elem, (make id elem).global_id = id) (entry : IfcDiffEntry ω) :
    entry ∈ (sets.order ((_build_element_map py new_elements).keys.filter fun eid => !(_build_element_map py old_elements).contains eid)).filterMap
        (fun eid => ((_build_element_map py new_elements).get? eid).map (make eid)) ↔
      ∃ elem, found py entry.global_id old_elements = none ∧ found py entry.global_id new_elements = some elem ∧ entry = make entry.global_id elem := by
  simp only [List.mem_filterMap, (sets.perm _).mem_iff, List.mem_filter, get?_build_element_map, contains_build_element_map,
    Option.map_eq_some_iff, Bool.not_eq_true', Option.isSome_eq_false_iff, Option.isNone_iff_eq_none]
  constructor
  · rintro ⟨id, ⟨-, absent⟩, elem, filed, rfl⟩
    rw [named]
    exact ⟨elem, absent, filed, rfl⟩
  · rintro ⟨elem, absent, filed, same⟩
    refine ⟨entry.global_id, ⟨?_, absent⟩, elem, filed, same.symm⟩
    exact Dict.mem_keys_of_get? ((get?_build_element_map new_elements _).trans filed)

theorem id_mem_one_sided_iff (make : String → Element ω → IfcDiffEntry ω) (named : ∀ id elem, (make id elem).global_id = id) (id : String) :
    id ∈ ((sets.order ((_build_element_map py new_elements).keys.filter fun eid => !(_build_element_map py old_elements).contains eid)).filterMap
        (fun eid => ((_build_element_map py new_elements).get? eid).map (make eid))).map IfcDiffEntry.global_id ↔
      found py id old_elements = none ∧ ∃ elem, found py id new_elements = some elem := by
  rw [List.mem_map]
  constructor
  · rintro ⟨entry, member, rfl⟩
    obtain ⟨elem, absent, filed, -⟩ := (mem_one_sided_iff old_elements new_elements make named entry).mp member
    exact ⟨absent, elem, filed⟩
  · rintro ⟨absent, elem, filed⟩
    refine ⟨make id elem, (mem_one_sided_iff old_elements new_elements make named _).mpr ⟨elem, ?_⟩, named id elem⟩
    rw [named]
    exact ⟨absent, filed, rfl⟩

theorem mem_added_iff (entry : IfcDiffEntry ω) : entry ∈ (compare py sets old_elements new_elements).added ↔
    ∃ elem, found py entry.global_id old_elements = none ∧ found py entry.global_id new_elements = some elem ∧
      entry = { global_id := entry.global_id, entity_type := _get_type py elem, change_type := .ADDED, new_properties := _get_properties elem } :=
  mem_one_sided_iff old_elements new_elements _ (fun _ _ => rfl) entry

theorem mem_modified_iff (entry : IfcDiffEntry ω) : entry ∈ (compare py sets old_elements new_elements).modified ↔
    ∃ old new, found py entry.global_id old_elements = some old ∧ found py entry.global_id new_elements = some new ∧
      (∃ key, differ py old new key = true) ∧
      entry = { global_id := entry.global_id, entity_type := _get_type py new, change_type := .MODIFIED, old_properties := _get_properties old,
                new_properties := _get_properties new, changed_fields := changed_fields py (_get_properties old) (_get_properties new) } := by
  have changed (old new : Element ω) : (∃ key, differ py old new key = true) ↔ changed_fields py (_get_properties old) (_get_properties new) ≠ [] := by
    rw [Ne, changed_fields_eq_nil_iff, not_forall]
    simp [differ]
  simp only [compare, List.mem_filterMap, (sets.perm _).mem_iff, List.mem_filter, get?_build_element_map, contains_build_element_map]
  constructor
  · rintro ⟨id, -, made⟩
    cases onLeft : found py id old_elements with
    | none => simp [onLeft] at made
    | some old => cases onRight : found py id new_elements with
      | none => simp [onLeft, onRight] at made
      | some new =>
        simp only [onLeft, onRight, ite_eq_iff, reduceCtorEq, and_false, false_or, Option.some.injEq] at made
        obtain ⟨differing, rfl⟩ := made
        exact ⟨old, new, onLeft, onRight, (changed old new).mpr differing, rfl⟩
  · rintro ⟨old, new, onLeft, onRight, differing, same⟩
    refine ⟨entry.global_id, ⟨?_, by simp [onRight]⟩, ?_⟩
    · exact Dict.mem_keys_of_get? ((get?_build_element_map old_elements _).trans onLeft)
    · simp only [onLeft, onRight, if_neg ((changed old new).mp differing)]
      rw [← same]

theorem id_mem_added_iff (id : String) : id ∈ (compare py sets old_elements new_elements).added.map IfcDiffEntry.global_id ↔
    found py id old_elements = none ∧ ∃ new, found py id new_elements = some new :=
  id_mem_one_sided_iff old_elements new_elements _ (fun _ _ => rfl) id

theorem id_mem_removed_iff (id : String) : id ∈ (compare py sets old_elements new_elements).removed.map IfcDiffEntry.global_id ↔
    (∃ old, found py id old_elements = some old) ∧ found py id new_elements = none :=
  (id_mem_one_sided_iff new_elements old_elements _ (fun _ _ => rfl) id).trans and_comm

theorem id_mem_modified_iff (id : String) : id ∈ (compare py sets old_elements new_elements).modified.map IfcDiffEntry.global_id ↔
    ∃ old new, found py id old_elements = some old ∧ found py id new_elements = some new ∧ ∃ key, differ py old new key = true := by
  rw [List.mem_map]
  constructor
  · rintro ⟨entry, member, rfl⟩
    obtain ⟨old, new, onLeft, onRight, differing, -⟩ := (mem_modified_iff old_elements new_elements entry).mp member
    exact ⟨old, new, onLeft, onRight, differing⟩
  · rintro ⟨old, new, onLeft, onRight, differing⟩
    exact ⟨⟨id, _, _, _, _, _⟩, (mem_modified_iff old_elements new_elements _).mpr ⟨old, new, onLeft, onRight, differing, rfl⟩, rfl⟩

end

/-! ## What a difference does to a state -/

/-- Where the entries of an id agree on what they put there, this is what is there afterwards. -/
theorem foldl_update {entries : List (IfcDiffEntry ω)} {value : IfcDiffEntry ω → Option (Members ω)} {id : String} {made : Option (Members ω)}
    (agreed : ∀ entry ∈ entries, entry.global_id = id → value entry = made) (state : State ω) :
    entries.foldl (fun s entry => Function.update s entry.global_id (value entry)) state id =
      if id ∈ entries.map IfcDiffEntry.global_id then made else state id := by
  induction entries generalizing state with
  | nil => rfl
  | cons entry rest ih =>
    rw [List.foldl_cons, ih fun other member => agreed other (List.mem_cons_of_mem _ member)]
    by_cases later : id ∈ rest.map IfcDiffEntry.global_id
    · simp [later]
    · by_cases here : entry.global_id = id
      · simp [← here, agreed entry List.mem_cons_self here]
      · simp [later, Ne.symm here]

theorem apply_compare (old_elements new_elements : List (Element ω)) (state : State ω) (id : String) :
    apply (compare py sets old_elements new_elements) state id = outcome py (found py id old_elements) (found py id new_elements) (state id) := by
  have modified (entry) (member : entry ∈ (compare py sets old_elements new_elements).modified) (here : entry.global_id = id) :
      some entry.new_properties = (found py id new_elements).map _get_properties := by
    obtain ⟨old, new, -, onRight, -, same⟩ := (mem_modified_iff old_elements new_elements entry).mp member
    rw [here] at onRight
    rw [onRight, same]
    rfl
  have added (entry) (member : entry ∈ (compare py sets old_elements new_elements).added) (here : entry.global_id = id) :
      some entry.new_properties = (found py id new_elements).map _get_properties := by
    obtain ⟨elem, -, onRight, same⟩ := (mem_added_iff old_elements new_elements entry).mp member
    rw [here] at onRight
    rw [onRight, same]
    rfl
  rw [apply, put, foldl_update modified, put, foldl_update added, drop, foldl_update fun _ _ _ => rfl]
  have inModified : id ∈ (compare py sets old_elements new_elements).modified.map _ ↔ _ := id_mem_modified_iff old_elements new_elements id
  have inAdded : id ∈ (compare py sets old_elements new_elements).added.map _ ↔ _ := id_mem_added_iff old_elements new_elements id
  have inRemoved : id ∈ (compare py sets old_elements new_elements).removed.map _ ↔ _ := id_mem_removed_iff old_elements new_elements id
  cases onLeft : found py id old_elements with
  | none => cases onRight : found py id new_elements with
    | none =>
      rw [onLeft, onRight] at inModified inAdded inRemoved
      rw [if_neg (mt inModified.mp (by simp)), if_neg (mt inAdded.mp (by simp)), if_neg (mt inRemoved.mp (by simp)), outcome]
    | some new =>
      rw [onLeft, onRight] at inModified inAdded
      rw [if_neg (mt inModified.mp (by simp)), if_pos (inAdded.mpr (by simp))]
      rfl
  | some old => cases onRight : found py id new_elements with
    | none =>
      rw [onLeft, onRight] at inModified inAdded inRemoved
      rw [if_neg (mt inModified.mp (by simp)), if_neg (mt inAdded.mp (by simp)), if_pos (inRemoved.mpr (by simp)), outcome]
    | some new =>
      rw [onLeft, onRight] at inModified inAdded inRemoved
      by_cases differing : ∃ key, differ py old new key = true
      · rw [if_pos (inModified.mpr ⟨old, new, rfl, rfl, differing⟩), outcome, if_pos differing]
        rfl
      · have unmodified : id ∉ (compare py sets old_elements new_elements).modified.map IfcDiffEntry.global_id := fun member => by
          obtain ⟨_, _, ⟨⟩, ⟨⟩, changed⟩ := inModified.mp member
          exact differing changed
        rw [if_neg unmodified, if_neg (mt inAdded.mp (by simp)), if_neg (mt inRemoved.mp (by simp)), outcome, if_neg differing]

/-! ## The new state -/

theorem equal_refl (members : Members ω) : Equal py members members := fun key => by
  cases members.get? key with
  | none => exact .none
  | some v => exact .some (.inl rfl)

theorem rel_equal_refl (members : Option (Members ω)) : Option.Rel (Equal py) members members := by
  cases members with
  | none => exact .none
  | some members => exact .some (equal_refl members)

theorem eq_get_of_equal {a b : Members ω} (equal : Equal py a b) (key : String) : a.get key = b.get key ∨ (a.get key).eq py (b.get key) = true := by
  have related := equal key
  rw [Members.get, Members.get, Dict.getD, Dict.getD]
  cases left : a.get? key <;> cases right : b.get? key <;> rw [left, right] at related
  · exact .inl rfl
  · cases related
  · cases related
  · cases related with
    | some same => exact same

/-- Elements of which no key differs are equal if they have the same keys, and only then. -/
theorem equal_iff_keys {old new : Element ω} (same : ∀ key, differ py old new key = false) :
    Equal py (_get_properties old) (_get_properties new) ↔ ∀ key, key ∈ (_get_properties old).keys ↔ key ∈ (_get_properties new).keys := by
  refine forall_congr' fun key => ?_
  have equal := same key
  simp only [differ, Bool.not_eq_false', Members.get, Dict.getD] at equal
  rw [Dict.mem_keys_iff, Dict.mem_keys_iff]
  cases left : (_get_properties old).get? key <;> cases right : (_get_properties new).get? key
  · simp
  · simp
  · simp
  · rw [left, right] at equal
    simpa using Or.inr equal

theorem patches_iff_harmless {old_elements new_elements : List (Element ω)} (left : Filing.Identified own_id old_elements)
    (right : Filing.Identified own_id new_elements) : Patches py sets old_elements new_elements ↔ Harmless py old_elements new_elements := by
  have free {id : String} (free : Free py id (old_elements ++ new_elements)) :
      found py id old_elements = carrier id old_elements ∧ found py id new_elements = carrier id new_elements :=
    ⟨Filing.last_eq_first left fun element member => free element (List.mem_append_left _ member),
      Filing.last_eq_first right fun element member => free element (List.mem_append_right _ member)⟩
  constructor
  · intro patched
    refine ⟨fun id old new onLeft onRight unaffected same => ?_, fun id _ => apply_compare old_elements new_elements _ id ▸ patched id⟩
    have related := patched id
    rw [apply_compare, (free unaffected).1, (free unaffected).2, onLeft, onRight, outcome, if_neg (by simp [same]), keyed, keyed, onLeft, onRight] at related
    cases related with
    | some equal => exact (equal_iff_keys same).mp equal
  · intro harmless id
    rw [apply_compare]
    by_cases unaffected : Free py id (old_elements ++ new_elements)
    · rw [(free unaffected).1, (free unaffected).2, keyed, keyed]
      cases onLeft : carrier id old_elements with
      | none => cases carrier id new_elements <;> exact rel_equal_refl _
      | some old => cases onRight : carrier id new_elements with
        | none => exact rel_equal_refl _
        | some new =>
          rw [outcome]
          split
          · exact rel_equal_refl _
          · rename_i differing
            have same : ∀ key, differ py old new key = false := by simpa using differing
            exact .some ((equal_iff_keys same).mpr (harmless.keys id old new onLeft onRight unaffected same))
    · exact harmless.overlooked id unaffected

/-! ## Copies -/

theorem unchanged_iff (old_elements new_elements : List (Element ω)) : Unchanged (compare py sets old_elements new_elements) ↔
    ∀ id, (found py id old_elements).isSome = (found py id new_elements).isSome ∧
      ∀ old new, found py id old_elements = some old → found py id new_elements = some new → ∀ key, differ py old new key = false := by
  have nothing (entries : List (IfcDiffEntry ω)) : entries = [] ↔ ∀ id, id ∉ entries.map IfcDiffEntry.global_id := by
    rw [← List.eq_nil_iff_forall_not_mem, List.map_eq_nil_iff]
  rw [Unchanged, nothing, nothing, nothing, ← forall_and, ← forall_and]
  refine forall_congr' fun id => ?_
  rw [id_mem_added_iff, id_mem_modified_iff, id_mem_removed_iff]
  cases found py id old_elements <;> cases found py id new_elements <;> simp

/-- The attributes that are looked up are those of the element, the others are missing. -/
theorem get_properties_object {element : Element ω} {class_name : String} (kind : element.kind = .object class_name) (key : String) :
    (_get_properties element).get key = if key ∈ property_attributes then element.members.get key else .None := by
  have folded (attrs : List String) (props : Members ω) : (attrs.foldl (fun props attr => match element.members.get attr with
      | .None => props
      | value => props.set attr value) props).get key =
      if key ∈ attrs then (match element.members.get key with | .None => props.get key | value => value) else props.get key := by
    induction attrs generalizing props with
    | nil => rfl
    | cons attr attrs ih =>
      rw [List.foldl_cons, ih]
      by_cases here : attr = key
      · subst here
        cases value : element.members.get attr <;> simp [Members.get, Dict.getD]
      · have elsewhere : (match element.members.get attr with | .None => props | value => props.set attr value).get key = props.get key := by
          cases element.members.get attr <;> simp [Members.get, Dict.getD, Dict.get?_set_ne _ _ here]
        simp [elsewhere, Ne.symm here]
  rw [_get_properties, kind]
  refine (folded property_attributes ∅).trans ?_
  split
  · cases element.members.get key <;> rfl
  · rfl

theorem differ_of_copied {element copy : Element ω} (copied : Copied py element copy) (reflexive : ∀ key, differ py element element key = false)
    (key : String) : differ py element copy key = false := by
  have equal := reflexive key
  simp only [differ, Bool.not_eq_false'] at equal ⊢
  have members := eq_get_of_equal copied.equal key
  cases kind : element.kind with
  | dict =>
    rw [_get_properties, kind] at equal ⊢
    rw [_get_properties, copied.kind, kind]
    rcases members with same | same
    · rw [← same]
      exact equal
    · exact same
  | object class_name =>
    rw [get_properties_object kind] at equal ⊢
    rw [get_properties_object (copied.kind.trans kind)]
    by_cases listed : key ∈ property_attributes
    · rw [if_pos listed] at equal
      rw [if_pos listed, if_pos listed]
      rcases members with same | same
      · rw [← same]
        exact equal
      · exact same
    · rw [if_neg listed, if_neg listed]
      rfl

theorem eid_of_copied {element copy : Element ω} (copied : Copied py element copy)
    (filed : ∃ key ∈ id_keys, (element.members.get key).truthy py = true) : eid py copy = eid py element := by
  rw [eid, eid, Members.first_truthy_of_truthy py copied.ids filed]

theorem copied_at (element : Element ω) (address : Int) : Copied py element { element with address } :=
  ⟨rfl, equal_refl _, fun _ _ => rfl⟩

/-- The elements that are found among copies are copies of those that are found. -/
theorem found_copied {elements copies : List (Element ω)} (copied : List.Forall₂ (Copied py) elements copies)
    (filed : ∀ element ∈ elements, ∃ key ∈ id_keys, (element.members.get key).truthy py = true) (id : String) :
    Option.Rel (Copied py) (found py id elements) (found py id copies) := by
  have search {elements copies : List (Element ω)} (copied : List.Forall₂ (Copied py) elements copies)
      (filed : ∀ element ∈ elements, ∃ key ∈ id_keys, (element.members.get key).truthy py = true) :
      Option.Rel (Copied py) (elements.find? fun element => some (eid py element) = some id) (copies.find? fun copy => some (eid py copy) = some id) := by
    induction copied with
    | nil => exact .none
    | cons related rest ih =>
      rw [List.find?_cons, List.find?_cons, eid_of_copied related (filed _ List.mem_cons_self)]
      split
      · exact .some related
      · exact ih fun element member => filed element (List.mem_cons_of_mem _ member)
  exact search (List.rel_reverse copied) fun element member => filed element (List.mem_reverse.mp member)

theorem copies_equal_iff_stable (elements : List (Element ω)) : CopiesEqual py sets elements ↔ Stable py elements := by
  constructor
  · intro law
    constructor
    · intro element member
      by_contra falsy
      push Not at falsy
      -- the copies lie at an address that reads as no key of the elements
      obtain ⟨_, ⟨address, rfl⟩, fresh⟩ := (Set.infinite_range_of_injective fun _ _ => Int.repr_injective).exists_notMem_finset (elements.map (eid py)).toFinset
      have moved : List.Forall₂ (Copied py) elements (elements.map fun element => { element with address }) :=
        List.forall₂_map_right_iff.mpr (List.forall₂_same.mpr fun element _ => copied_at element address)
      have missing : found py address.repr elements = none := Filing.last_eq_none_iff.mpr fun other listed same =>
        fresh (List.mem_toFinset.mpr (List.mem_map.mpr ⟨other, listed, Option.some.inj same⟩))
      have filed := ((unchanged_iff _ _).mp (law _ moved) address.repr).1
      rw [missing] at filed
      refine Filing.last_eq_none_iff.mp (Option.isSome_eq_false_iff.mp filed.symm |> Option.isNone_iff_eq_none.mp) _ (List.mem_map_of_mem member) ?_
      rw [eid, Members.first_truthy_of_falsy py fun key listed => by simpa using falsy key listed]
      rfl
    · intro id element filed
      have same : List.Forall₂ (Copied py) elements elements := List.forall₂_same.mpr fun element _ => copied_at element element.address
      exact ((unchanged_iff _ _).mp (law elements same) id).2 element element filed filed
  · intro stable copies copied
    refine (unchanged_iff _ _).mpr fun id => ?_
    have related := found_copied copied stable.filed id
    have reflexive := stable.reflexive id
    generalize found py id elements = old, found py id copies = new at related reflexive
    cases related with
    | none => exact ⟨rfl, nofun⟩
    | some copied =>
      refine ⟨rfl, ?_⟩
      rintro _ _ ⟨⟩ ⟨⟩
      exact differ_of_copied copied (reflexive _ rfl)

/-- A difference turns the old state into the new one exactly when overlooked elements and missing keys
    do no harm, and none is found between copies exactly when every element has an id that counts as
    true and what is compared equals itself. -/
theorem laws_iff (py : ObjectMethods ω) (sets : Iteration) (old_elements new_elements : List (Element ω))
    (left : Filing.Identified own_id old_elements) (right : Filing.Identified own_id new_elements) :
    (Patches py sets old_elements new_elements ↔ Harmless py old_elements new_elements) ∧
    (CopiesEqual py sets old_elements ↔ Stable py old_elements) :=
  ⟨patches_iff_harmless left right, copies_equal_iff_stable old_elements⟩

/-- Nothing that can be compared but `None`, integers and texts. -/
def plain : ObjectMethods Empty := ⟨nofun, nofun, nofun⟩

def as_listed : Iteration := ⟨fun members => members, fun _ => .refl _⟩

def door (address id : Int) (level : String) : Element Empty where
  address
  kind := .dict
  members := Dict.ofList [("id", .int id), ("level", .str level)]

theorem door_identified (address id : Int) (level : String) : Filing.Identified own_id [door address id level] where
  carried _ member := ⟨toString id, by rw [List.mem_singleton.mp member]; rfl⟩
  distinct := List.nodup_singleton _

theorem plain_reflexive (element : Element Empty) (key : String) : differ plain element element key = false := by
  rw [differ]
  cases (_get_properties element).get key with
  | None => rfl
  | int n => simp [PyObject.eq]
  | str s => simp [PyObject.eq]
  | other o => cases o

/-- A door is moved to another level. -/
theorem door_moved : Patches plain as_listed [door 1 7 "L1"] [door 2 7 "L2"] ∧ CopiesEqual plain as_listed [door 1 7 "L1"] := by
  have laws := laws_iff plain as_listed [door 1 7 "L1"] [door 2 7 "L2"] (door_identified ..) (door_identified ..)
  have seen (element : Element Empty) (member : element ∈ [door 1 7 "L1"] ++ [door 2 7 "L2"]) : ¬Overlooked plain element := by
    simp only [List.singleton_append, List.mem_cons, List.not_mem_nil, or_false] at member
    rcases member with rfl | rfl <;> exact fun missed => missed (by decide)
  refine ⟨laws.1.mpr ⟨?_, fun id affected => ?_⟩, laws.2.mpr ⟨?_, fun _ element _ => plain_reflexive element⟩⟩
  · intro id old new onLeft onRight _ _ key
    rw [List.mem_singleton.mp (List.mem_of_find?_eq_some onLeft), List.mem_singleton.mp (List.mem_of_find?_eq_some onRight)]
    exact Iff.rfl
  · exact absurd (fun element member missed => absurd missed (seen element member)) affected
  · intro element member
    rw [List.mem_singleton.mp member]
    exact ⟨"id", by decide, by decide⟩

/-- A door with the id 0 is inserted under its address. -/
theorem zero_misfiled : ¬∀ (py : ObjectMethods Empty) (sets : Iteration) (old_elements new_elements : List (Element Empty)),
    Filing.Identified own_id old_elements → Filing.Identified own_id new_elements →
    Patches py sets old_elements new_elements ∧ CopiesEqual py sets old_elements := by
  intro law
  have patched := (law plain as_listed [] [door 4 0 "L1"] ⟨nofun, List.nodup_nil⟩ (door_identified ..)).1 "0"
  have before : apply (compare plain as_listed [] [door 4 0 "L1"]) (keyed []) "0" = none := by decide
  have after : (keyed [door 4 0 "L1"] "0").isSome := by decide
  rw [before] at patched
  cases state : keyed [door 4 0 "L1"] "0" with
  | none => simp [state] at after
  | some _ =>
    rw [state] at patched
    cases patched

end RevitPy.IfcDiff
