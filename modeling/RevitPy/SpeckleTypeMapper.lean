import RevitPy.Filing
import RevitPy.PyObjects
import RevitPy.Runs

/-!
# Elements as Speckle objects and back

An element is written into a flat dictionary that also holds the keys `speckle_type`, `revitpy_type`,
`id` and `name`, and is read back into one that holds `type` besides. What an element or its map writes
under one of these keys takes the place of what was there.
-/

namespace RevitPy.SpeckleTypeMapper
variable {ω : Type}

/-- What other objects are as functions and as keys of a dictionary of texts, where those that are not
    hashable raise an error. -/
structure Lookups (ω : Type) extends ObjectMethods ω where
  callable : ω → Bool
  as_key : ω → Except String (Option String)

inductive Error (ω : Type)
  | TypeMappingError (message : String) (source_type : PyObject ω) (target_type : Option String)
  | TypeError (message : String)

/-- Mapping between a RevitPy type and a Speckle type. -/
structure TypeMapping where
  revitpy_type : String
  speckle_type : String
  property_map : Dict String String := ∅
  deriving DecidableEq

structure Mapper where
  _registry : Dict String TypeMapping
  _reverse_registry : Dict String String

/-- An object of a class, with the names that it lists and the values of its attributes, of which those
    that are missing are `None`. -/
structure Element (ω : Type) where
  class_name : String
  dir : List String
  getattr : String → PyObject ω

def _DEFAULT_MAPPINGS : List TypeMapping := [
  { revitpy_type := "WallElement", speckle_type := "Objects.BuiltElements.Wall:Wall" },
  { revitpy_type := "RoomElement", speckle_type := "Objects.BuiltElements.Room:Room" },
  { revitpy_type := "DoorElement", speckle_type := "Objects.BuiltElements.Door:Door" },
  { revitpy_type := "WindowElement", speckle_type := "Objects.BuiltElements.Window:Window" },
  { revitpy_type := "SlabElement", speckle_type := "Objects.BuiltElements.Floor:Floor" },
  { revitpy_type := "RoofElement", speckle_type := "Objects.BuiltElements.Roof:Roof" },
  { revitpy_type := "ColumnElement", speckle_type := "Objects.BuiltElements.Column:Column" },
  { revitpy_type := "BeamElement", speckle_type := "Objects.BuiltElements.Beam:Beam" },
  { revitpy_type := "StairElement", speckle_type := "Objects.BuiltElements.Stair:Stair" },
  { revitpy_type := "RailingElement", speckle_type := "Objects.BuiltElements.Railing:Railing" }]

/-- Register a mapping between a RevitPy type and a Speckle type. -/
def register_mapping (m : Mapper) (mapping : TypeMapping) : Mapper where
  _registry := m._registry.set mapping.revitpy_type mapping
  _reverse_registry := m._reverse_registry.set mapping.speckle_type mapping.revitpy_type

/-- A mapper after some mappings were registered with it. -/
def registered (mappings : List TypeMapping) : Mapper := (_DEFAULT_MAPPINGS ++ mappings).foldl register_mapping ⟨∅, ∅⟩

section
variable (py : Lookups ω)

def callable : PyObject ω → Bool
  | .other o => py.callable o
  | _ => false

/-- Whether an attribute is copied without a map. -/
def copied (element : Element ω) (attr : String) : Bool :=
  attr.toList.head? ≠ some '_' && attr ∉ ["id", "name"] && match element.getattr attr with
    | .None => false
    | value => !callable py value

/-- Convert a RevitPy element to a Speckle-compatible dict. -/
def to_speckle (m : Mapper) (element : Element ω) : Except (Error ω) (Members ω) := match m._registry.get? element.class_name with
  | none => .error (.TypeMappingError ("No Speckle mapping found for type: " ++ element.class_name) (.str element.class_name) none)
  | some mapping =>
    let result := Dict.ofList [("speckle_type", .str mapping.speckle_type), ("revitpy_type", .str element.class_name),
      ("id", element.getattr "id"), ("name", element.getattr "name")]
    .ok (if 0 < mapping.property_map.length then
      result.update (mapping.property_map.entries.filterMap fun (revit_prop, speckle_prop) => match element.getattr revit_prop with
        | .None => none
        | value => some (speckle_prop, value))
    else result.update ((element.dir.filter (copied py element)).map fun attr => (attr, element.getattr attr)))

/-- `_reverse_registry.get(speckle_type)` -/
def reverse_lookup (m : Mapper) : PyObject ω → Except (Error ω) (Option String)
  | .str text => .ok (m._reverse_registry.get? text)
  | .other o => match py.as_key o with
    | .ok key => .ok (key.bind m._reverse_registry.get?)
    | .error message => .error (.TypeError message)
  | _ => .ok none

/-- The properties by the keys that they are mapped to. -/
def reverse_map (property_map : Dict String String) : Dict String String := Dict.ofList (property_map.entries.map Prod.swap)

/-- Convert a Speckle object dict back to a RevitPy-compatible dict. -/
def from_speckle (m : Mapper) (speckle_obj : Members ω) (target_type : Option String := none) : Except (Error ω) (Members ω) := do
  let speckle_type := speckle_obj.getD "speckle_type" (.str "Unknown")
  let target_type ← match target_type with
    | some target_type => .ok (some target_type)
    | none => reverse_lookup py m speckle_type
  match target_type with
  | none => .error (.TypeMappingError ("No RevitPy mapping found for Speckle type: " ++ speckle_type.text py.toObjectMethods) speckle_type none)
  | some target_type =>
    let result := Dict.ofList [("type", .str target_type), ("speckle_type", speckle_type), ("id", speckle_obj.get "id"), ("name", speckle_obj.get "name")]
    let property_map := ((m._registry.get? target_type).map TypeMapping.property_map).getD ∅
    .ok (if 0 < property_map.length then
      result.update ((reverse_map property_map).entries.filterMap fun (speckle_prop, revit_prop) => match speckle_obj.get speckle_prop with
        | .None => none
        | value => some (revit_prop, value))
    else result.update (speckle_obj.entries.filter fun item => item.1 ∉ ["speckle_type", "id", "name"]))

end

/-! ## The round trip -/

/-- The attributes that come back: those of the map or, without one, all public ones with a value other
    than `None` and functions. -/
def Carried (py : Lookups ω) (mapping : TypeMapping) (element : Element ω) (attr : String) : Prop :=
  if 0 < mapping.property_map.length then attr ∈ mapping.property_map.keys
  else attr ∈ element.dir ∧ attr.toList.head? ≠ some '_' ∧ element.getattr attr ≠ .None ∧ callable py (element.getattr attr) = false

/-- What a dictionary should hold for an element that came back. -/
inductive Expected (py : Lookups ω) (mapping : TypeMapping) (element : Element ω) : String → PyObject ω → Prop
  | type : Expected py mapping element "type" (.str element.class_name)
  | id : Expected py mapping element "id" (element.getattr "id")
  | name : Expected py mapping element "name" (element.getattr "name")
  | property (attr : String) (carried : Carried py mapping element attr) : Expected py mapping element attr (element.getattr attr)

/-- An element comes back with its type, id, name and attributes. -/
def RoundTrip (py : Lookups ω) (m : Mapper) (mapping : TypeMapping) (element : Element ω) : Prop :=
  ∃ speckle_obj result, to_speckle py m element = .ok speckle_obj ∧ from_speckle py m speckle_obj = .ok result ∧
    ∀ key value, Expected py mapping element key value → result.get key = value

/-! ## Where it holds -/

/-- A value, or another where it is `None`. -/
def or_else : PyObject ω → PyObject ω → PyObject ω
  | .None, other => other
  | value, _ => value

section
variable (py : Lookups ω) (mapping : TypeMapping) (element : Element ω)

/-- What an element writes under a key. -/
def written (key : String) : PyObject ω :=
  if 0 < mapping.property_map.length then match mapping.property_map.entries.find? fun item => item.2 = key with
    | some (revit_prop, _) => element.getattr revit_prop
    | none => .None
  else if key ∈ element.dir ∧ copied py element key then element.getattr key else .None

/-- What a key holds that nothing is written under. -/
def control (key : String) : PyObject ω :=
  if key = "speckle_type" then .str mapping.speckle_type else if key = "revitpy_type" then .str element.class_name
  else if key = "id" ∨ key = "name" then element.getattr key else .None

def sent (key : String) : PyObject ω := or_else (written py mapping element key) (control mapping element key)

/-- The type that the value written under `speckle_type` stands for. -/
def taken_for (m : Mapper) : Option String := match reverse_lookup py m (sent py mapping element "speckle_type") with
  | .ok target_type => target_type
  | .error _ => none

/-- Nothing is written in place of the type, the id and the name but they themselves, and a mapped
    attribute without a value is not given that of another key. -/
structure Undisturbed : Prop where
  type : Carried py mapping element "type" → element.getattr "type" = .str element.class_name
  identity : ∀ key ∈ ["id", "name"], key ∉ mapping.property_map.keys →
    written py mapping element key = .None ∨ written py mapping element key = element.getattr key
  gaps : ∀ attr key, mapping.property_map.get? attr = some key → element.getattr attr = .None →
    control mapping element key = .None ∧ attr ≠ "speckle_type" ∧ (attr ∈ ["id", "name"] → written py mapping element attr = .None)

/-- What is read under a key for a type, from the properties that its map has for it or from the key. -/
def read_back (m : Mapper) (target_type key : String) : PyObject ω :=
  let start := if key = "type" then .str target_type else if key ∈ ["speckle_type", "id", "name"] then sent py mapping element key else .None
  let property_map := ((m._registry.get? target_type).map TypeMapping.property_map).getD ∅
  if 0 < property_map.length then
    ((reverse_map property_map).entries.filter fun item => item.2 = key).foldl (fun value item => or_else (sent py mapping element item.1) value) start
  else if key ∈ ["speckle_type", "id", "name"] then start else or_else (sent py mapping element key) start

/-- What is under a key for a type before the properties are read. -/
def initial (target_type key : String) : PyObject ω :=
  if key = "type" then .str target_type else if key ∈ ["speckle_type", "id", "name"] then sent py mapping element key else .None

/-- The keys that are read into a property for a type, in their order. -/
def sources (m : Mapper) (target_type key : String) : List String :=
  let property_map := ((m._registry.get? target_type).map TypeMapping.property_map).getD ∅
  if 0 < property_map.length then ((reverse_map property_map).entries.filter fun item => item.2 = key).map Prod.fst
  else if key ∈ ["speckle_type", "id", "name"] then [] else [key]

/-- The last of some keys under which there is anything has a value, or there is nothing and the value
    is the initial one. -/
def Supplied (start value : PyObject ω) (keys : List String) : Prop :=
  (∃ before key after, keys = before ++ key :: after ∧ sent py mapping element key = value ∧ value ≠ .None ∧
    ∀ later ∈ after, sent py mapping element later = .None) ∨
  (∀ key ∈ keys, sent py mapping element key = .None) ∧ start = value

/-- The keys that are read for a type have the values that are expected. -/
def Restored (m : Mapper) (target_type : String) : Prop :=
  ∀ key value, Expected py mapping element key value → Supplied py mapping element (initial py mapping element target_type key) value (sources m target_type key)

end

theorem or_else_of_ne {value : PyObject ω} (something : value ≠ .None) (other : PyObject ω) : or_else value other = value := by
  cases value with
  | None => exact absurd rfl something
  | _ => rfl

theorem or_else_eq_none_iff (value other : PyObject ω) : or_else value other = .None ↔ value = .None ∧ other = .None := by
  cases value <;> simp [or_else]

/-! ## Registered mappings -/

theorem get?_registry (mappings : List TypeMapping) (type : String) :
    (mappings.foldl register_mapping ⟨∅, ∅⟩)._registry.get? type = Filing.last (fun mapping => some mapping.revitpy_type) type mappings := by
  rw [← Filing.get?_file]
  induction mappings using List.reverseRecOn with
  | nil => rfl
  | append_singleton mappings mapping ih =>
    rw [Filing.file_concat, List.foldl_append, List.foldl_cons, List.foldl_nil, register_mapping, Dict.get?_set, Dict.get?_set, ih]

theorem get?_reverse_registry (mappings : List TypeMapping) (type : String) :
    (mappings.foldl register_mapping ⟨∅, ∅⟩)._reverse_registry.get? type =
      (Filing.last (fun mapping => some mapping.speckle_type) type mappings).map TypeMapping.revitpy_type := by
  rw [← Filing.get?_file]
  induction mappings using List.reverseRecOn with
  | nil => rfl
  | append_singleton mappings mapping ih =>
    rw [Filing.file_concat, List.foldl_append, List.foldl_cons, List.foldl_nil, register_mapping, Dict.get?_set, Dict.get?_set, ih]
    split <;> rfl

/-! ## What is written -/

variable {py : Lookups ω}

theorem get_set (d : Members ω) (k : String) (v : PyObject ω) (j : String) : Members.get (d.set k v) j = if k = j then v else d.get j := by
  rw [Members.get, Dict.getD, Dict.get?_set]
  split <;> rfl

/-- The last value that is given to a key counts. -/
theorem get_update (d : Members ω) (items : List (String × PyObject ω)) (key : String) :
    Members.get (d.update items) key = (items.filter fun item => item.1 = key).foldl (fun _ item => item.2) (d.get key) := by
  induction items generalizing d with
  | nil => rfl
  | cons item items ih =>
    rw [Dict.update, List.foldl_cons, ← Dict.update, ih, get_set, List.filter_cons]
    by_cases here : item.1 = key <;> simp [here]

section
variable {mapping : TypeMapping} {element : Element ω}

theorem get_start (key : String) : Members.get (Dict.ofList [("speckle_type", .str mapping.speckle_type), ("revitpy_type", .str element.class_name),
    ("id", element.getattr "id"), ("name", element.getattr "name")]) key = control mapping element key := by
  simp only [Dict.ofList, List.foldl_cons, List.foldl_nil, get_set, control]
  by_cases name : key = "name"
  · subst name; rfl
  by_cases id : key = "id"
  · subst id; rfl
  by_cases revitpy_type : key = "revitpy_type"
  · subst revitpy_type; rfl
  by_cases speckle_type : key = "speckle_type"
  · subst speckle_type; rfl
  simp [name, id, revitpy_type, speckle_type, Ne.symm name, Ne.symm id, Ne.symm revitpy_type, Ne.symm speckle_type, Members.get, Dict.getD]

/-- Of a map under which no two properties share a key, the one with a key is written under it. -/
theorem foldl_mapped {items : List (String × String)} (injective : (items.map Prod.snd).Nodup) (value : String → PyObject ω) (key : String) (start : PyObject ω) :
    ((items.filterMap fun (revit_prop, speckle_prop) => match value revit_prop with
      | .None => none
      | value => some (speckle_prop, value)).filter fun item => item.1 = key).foldl (fun _ item => item.2) start =
      or_else (match items.find? fun item => item.2 = key with | some (revit_prop, _) => value revit_prop | none => .None) start := by
  induction items generalizing start with
  | nil => rfl
  | cons item items ih =>
    obtain ⟨revit_prop, speckle_prop⟩ := item
    obtain ⟨fresh, injective⟩ := List.nodup_cons.mp injective
    have ih := ih injective
    by_cases here : speckle_prop = key
    · have absent : items.find? (fun item => item.2 = key) = none :=
        List.find?_eq_none.mpr fun other member same => fresh (here ▸ List.mem_map.mpr ⟨other, member, by simpa using same⟩)
      rw [absent] at ih
      cases written : value revit_prop <;> simp [written, here, or_else] <;> simpa [or_else] using ih _
    · cases written : value revit_prop <;> simp [written, here] <;> simpa using ih start

theorem foldl_copied (copied : String → Bool) (dir : List String) (value : String → PyObject ω) (key : String) (start : PyObject ω) :
    (((dir.filter copied).map fun attr => (attr, value attr)).filter fun item => item.1 = key).foldl (fun _ item => item.2) start =
      if key ∈ dir ∧ copied key then value key else start := by
  induction dir generalizing start with
  | nil => rfl
  | cons attr dir ih =>
    by_cases here : attr = key
    · subst here
      by_cases kept : copied attr = true <;> simp [kept] <;> simp [ih, kept]
    · by_cases kept : copied attr = true <;> simp [kept, here, Ne.symm here] <;> simpa using ih start

/-- What `to_speckle` makes of an element of a type with a mapping. -/
theorem to_speckle_eq {m : Mapper} (found : m._registry.get? element.class_name = some mapping) (injective : mapping.property_map.values.Nodup) :
    ∃ speckle_obj, to_speckle py m element = .ok speckle_obj ∧ (∀ key, speckle_obj.get key = sent py mapping element key) ∧
      ∀ key, key ∉ ["id", "name"] → speckle_obj.get? key ≠ some .None := by
  rw [to_speckle, found]
  refine ⟨_, rfl, fun key => ?_, fun key other none_held => ?_⟩
  · rw [sent, written]
    split
    · rw [get_update, get_start, foldl_mapped injective]
    · rw [get_update, get_start, foldl_copied]
      split
      · rename_i listed
        cases value : element.getattr key with
        | None => simp [copied, value] at listed
        | _ => rfl
      · rfl
  · have started : (Dict.ofList [("speckle_type", PyObject.str mapping.speckle_type), ("revitpy_type", .str element.class_name),
        ("id", element.getattr "id"), ("name", element.getattr "name")]).get? key ≠ some .None := by
      simp only [List.mem_cons, List.not_mem_nil, or_false, not_or] at other
      simp only [Dict.ofList, List.foldl_cons, List.foldl_nil, Dict.get?_set, Ne.symm other.1, Ne.symm other.2, if_false]
      split
      · simp
      · split <;> simp
    split at none_held
    · rcases Dict.mem_of_get?_update none_held with member | before
      · obtain ⟨⟨revit_prop, _⟩, -, made⟩ := List.mem_filterMap.mp member
        cases value : element.getattr revit_prop <;> simp [value] at made
      · exact started before
    · rcases Dict.mem_of_get?_update none_held with member | before
      · obtain ⟨attr, listed, same⟩ := List.mem_map.mp member
        simp only [Prod.mk.injEq] at same
        simp [copied, same.2] at listed
      · exact started before

end

/-! ## What is read back -/

theorem foldl_read (items : List (String × String)) (value : String → PyObject ω) (key : String) (start : PyObject ω) :
    ((items.filterMap fun (speckle_prop, revit_prop) => match value speckle_prop with
      | .None => none
      | value => some (revit_prop, value)).filter fun item => item.1 = key).foldl (fun _ item => item.2) start =
      (items.filter fun item => item.2 = key).foldl (fun before item => or_else (value item.1) before) start := by
  induction items generalizing start with
  | nil => rfl
  | cons item items ih =>
    obtain ⟨speckle_prop, revit_prop⟩ := item
    by_cases here : revit_prop = key
    · cases held : value speckle_prop <;> simp [held, here] <;> simpa [or_else] using ih _
    · cases held : value speckle_prop <;> simp [held, here] <;> simpa using ih start

theorem filter_key {β : Type} {items : List (String × β)} (distinct : (items.map Prod.fst).Nodup) (key : String) :
    (items.filter fun item => item.1 = key) = ((Dict.find items key).map fun value => (key, value)).toList := by
  induction items with
  | nil => rfl
  | cons item items ih =>
    obtain ⟨first, value⟩ := item
    obtain ⟨fresh, distinct⟩ := List.nodup_cons.mp distinct
    by_cases here : first = key
    · subst here
      have absent : Dict.find items first = none := (Dict.find_none_iff items first).mpr fresh
      simp [Dict.find, ih distinct, absent]
    · simp [Dict.find, ih distinct, here]

/-- The other keys are read as they are, if none of them holds `None`. -/
theorem foldl_others (members : Members ω) (skipped : List String) (held : ∀ key, key ∉ skipped → members.get? key ≠ some .None)
    (key : String) (start : PyObject ω) :
    ((members.entries.filter fun item => item.1 ∉ skipped).filter fun item => item.1 = key).foldl (fun _ item => item.2) start =
      if key ∈ skipped then start else or_else (members.get key) start := by
  rw [List.filter_filter]
  split
  · rename_i listed
    have nothing : (members.entries.filter fun item => decide (item.1 = key) && decide (item.1 ∉ skipped)) = [] :=
      List.filter_eq_nil_iff.mpr fun item _ kept => by
        simp only [Bool.and_eq_true, decide_eq_true_eq] at kept
        exact kept.2 (kept.1 ▸ listed)
    rw [nothing, List.foldl_nil]
  · rename_i other
    have same : (members.entries.filter fun item => decide (item.1 = key) && decide (item.1 ∉ skipped)) = members.entries.filter fun item => item.1 = key :=
      List.filter_congr fun item _ => by
        by_cases here : item.1 = key <;> simp [here, other]
    rw [same, filter_key members.nodup, Members.get, Dict.getD, Dict.get?]
    have held := held key other
    rw [Dict.get?] at held
    cases found : Dict.find members.entries key with
    | none => rfl
    | some value => cases value with
      | None => exact absurd found held
      | _ => rfl

section
variable {mapping : TypeMapping} {element : Element ω}

theorem get_second_start (target_type : String) (speckle_obj : Members ω) (key : String) :
    Members.get (Dict.ofList [("type", .str target_type), ("speckle_type", speckle_obj.get "speckle_type"), ("id", speckle_obj.get "id"),
      ("name", speckle_obj.get "name")]) key =
      if key = "type" then .str target_type else if key ∈ ["speckle_type", "id", "name"] then speckle_obj.get key else .None := by
  simp only [Dict.ofList, List.foldl_cons, List.foldl_nil, get_set]
  by_cases name : key = "name"
  · subst name; rfl
  by_cases id : key = "id"
  · subst id; rfl
  by_cases speckle_type : key = "speckle_type"
  · subst speckle_type; rfl
  by_cases type : key = "type"
  · subst type; rfl
  simp [name, id, speckle_type, type, Ne.symm name, Ne.symm id, Ne.symm speckle_type, Ne.symm type, Members.get, Dict.getD]

theorem sent_speckle_type : sent py mapping element "speckle_type" ≠ .None := by
  rw [sent]
  cases written py mapping element "speckle_type" <;> simp [or_else, control]

/-- What `from_speckle` makes of what was written. -/
theorem from_speckle_eq {m : Mapper} {speckle_obj : Members ω} (gets : ∀ key, speckle_obj.get key = sent py mapping element key)
    (held : ∀ key, key ∉ ["id", "name"] → speckle_obj.get? key ≠ some .None) :
    (taken_for py mapping element m = none ∧ ∀ result, from_speckle py m speckle_obj ≠ .ok result) ∨
      ∃ target_type result, taken_for py mapping element m = some target_type ∧ from_speckle py m speckle_obj = .ok result ∧
        ∀ key, result.get key = read_back py mapping element m target_type key := by
  have present : speckle_obj.getD "speckle_type" (.str "Unknown") = speckle_obj.get "speckle_type" := by
    have some_held : sent py mapping element "speckle_type" ≠ .None := sent_speckle_type
    rw [← gets, Members.get, Dict.getD] at some_held
    rw [Members.get, Dict.getD, Dict.getD]
    cases found : speckle_obj.get? "speckle_type" with
    | none => simp [found] at some_held
    | some value => rfl
  rw [taken_for, ← gets, from_speckle, present]
  cases reverse_lookup py m (speckle_obj.get "speckle_type") with
  | error _ =>
    refine .inl ⟨rfl, fun result returned => ?_⟩
    cases returned
  | ok target_type => cases target_type with
    | none =>
      refine .inl ⟨rfl, fun result returned => ?_⟩
      cases returned
    | some target_type =>
      refine .inr ⟨target_type, _, rfl, rfl, fun key => ?_⟩
      have start : Members.get (Dict.ofList [("type", .str target_type), ("speckle_type", speckle_obj.get "speckle_type"), ("id", speckle_obj.get "id"),
          ("name", speckle_obj.get "name")]) key =
          if key = "type" then .str target_type else if key ∈ ["speckle_type", "id", "name"] then sent py mapping element key else .None :=
        gets key ▸ get_second_start target_type speckle_obj key
      simp only [read_back]
      split
      · rw [get_update, start, foldl_read]
        simp only [gets]
      · rw [get_update, start, foldl_others _ _ fun key other => held key fun listed => other (List.mem_cons_of_mem _ listed), gets]

/-- The round trip holds where what is read back for the type that is looked up is as expected. -/
theorem round_trip_iff_read_back {m : Mapper} (found : m._registry.get? element.class_name = some mapping) (injective : mapping.property_map.values.Nodup) :
    RoundTrip py m mapping element ↔ ∃ target_type, taken_for py mapping element m = some target_type ∧
      ∀ key value, Expected py mapping element key value → read_back py mapping element m target_type key = value := by
  obtain ⟨speckle_obj, (encoded : to_speckle py m element = .ok speckle_obj), gets, held⟩ := to_speckle_eq found injective
  have decoded := from_speckle_eq (m := m) gets held
  constructor
  · rintro ⟨speckle_obj', result, encoded', returned, expected⟩
    cases encoded.symm.trans encoded'
    rcases decoded with ⟨-, unread⟩ | ⟨target_type, result', taken, returned', reads⟩
    · exact absurd returned (unread result)
    · cases returned.symm.trans returned'
      exact ⟨target_type, taken, fun key value expect => reads key ▸ expected key value expect⟩
  · rintro ⟨target_type, taken, expected⟩
    rcases decoded with ⟨unknown, -⟩ | ⟨target_type', result, taken', returned, reads⟩
    · cases unknown.symm.trans taken
    · cases taken'.symm.trans taken
      exact ⟨speckle_obj, result, encoded, returned, fun key value expect => (reads key).trans (expected key value expect)⟩

theorem supplied_iff (start value : PyObject ω) (keys : List String) : Supplied py mapping element start value keys ↔
    keys.foldl (fun value key => or_else (sent py mapping element key) value) start = value := by
  induction keys using List.reverseRecOn with
  | nil => simp [Supplied]
  | append_singleton keys key ih =>
    rw [List.foldl_append, List.foldl_cons, List.foldl_nil]
    by_cases nothing : sent py mapping element key = .None
    · rw [nothing, or_else, ← ih]
      refine or_congr ⟨?_, ?_⟩ (and_congr_left fun _ => by simp [or_imp, forall_and, nothing])
      · rintro ⟨before, last, after, same, held, something, later⟩
        rcases Runs.split_concat same with ⟨rfl, -⟩ | ⟨between, rfl, rfl⟩
        · exact absurd (held.symm.trans nothing) something
        · exact ⟨before, last, between, rfl, held, something, fun k member => later k (by simp [member])⟩
      · rintro ⟨before, last, after, rfl, held, something, later⟩
        refine ⟨before, last, after ++ [key], by simp, held, something, fun k member => ?_⟩
        rcases List.mem_append.mp member with member | member
        · exact later k member
        · exact List.mem_singleton.mp member ▸ nothing
    · rw [or_else_of_ne nothing]
      constructor
      · rintro (⟨before, last, after, same, held, something, later⟩ | ⟨none, -⟩)
        · rcases Runs.split_concat same with ⟨rfl, -⟩ | ⟨between, rfl, -⟩
          · exact held
          · exact absurd (later key (by simp)) nothing
        · exact absurd (none key (by simp)) nothing
      · rintro rfl
        exact .inl ⟨keys, key, [], rfl, rfl, nothing, by simp⟩

theorem read_back_eq_foldl (m : Mapper) (target_type key : String) : read_back py mapping element m target_type key =
    (sources m target_type key).foldl (fun value key => or_else (sent py mapping element key) value) (initial py mapping element target_type key) := by
  rw [read_back, sources]
  split
  · rw [List.foldl_map]
    rfl
  · split <;> rename_i listed <;> simp [initial, listed]

theorem restored_iff_read_back (m : Mapper) (target_type : String) : Restored py mapping element m target_type ↔
    ∀ key value, Expected py mapping element key value → read_back py mapping element m target_type key = value :=
  forall₂_congr fun key value => forall_congr' fun _ => (supplied_iff _ _ _).trans (by rw [read_back_eq_foldl])

theorem read_back_mapped {m : Mapper} (found : m._registry.get? element.class_name = some mapping) (injective : mapping.property_map.values.Nodup)
    (mapped : 0 < mapping.property_map.length) (key : String) : read_back py mapping element m element.class_name key =
      let start := if key = "type" then .str element.class_name else if key ∈ ["speckle_type", "id", "name"] then sent py mapping element key else .None
      match mapping.property_map.get? key with
      | some speckle_prop => or_else (sent py mapping element speckle_prop) start
      | none => start := by
  have reversed : (reverse_map mapping.property_map).entries = mapping.property_map.entries.map Prod.swap :=
    Dict.entries_ofList (by simpa [Dict.values, Function.comp_def] using injective)
  have found_map : ((m._registry.get? element.class_name).map TypeMapping.property_map).getD ∅ = mapping.property_map := by rw [found]; rfl
  have swapped : ((mapping.property_map.entries.map Prod.swap).filter fun item => item.2 = key) =
      (mapping.property_map.entries.filter fun item => item.1 = key).map Prod.swap := by
    rw [List.filter_map]
    rfl
  simp only [read_back, found_map, if_pos mapped, reversed, swapped, filter_key mapping.property_map.nodup]
  rw [Dict.get?]
  cases Dict.find mapping.property_map.entries key <;> rfl

theorem read_back_unmapped {m : Mapper} (found : m._registry.get? element.class_name = some mapping)
    (unmapped : ¬0 < mapping.property_map.length) (key : String) : read_back py mapping element m element.class_name key =
      let start := if key = "type" then .str element.class_name else if key ∈ ["speckle_type", "id", "name"] then sent py mapping element key else .None
      if key ∈ ["speckle_type", "id", "name"] then start else or_else (sent py mapping element key) start := by
  have found_map : ((m._registry.get? element.class_name).map TypeMapping.property_map).getD ∅ = mapping.property_map := by rw [found]; rfl
  simp only [read_back, found_map, if_neg unmapped]

theorem control_of_identity {key : String} (identity : key ∈ ["id", "name"]) : control mapping element key = element.getattr key := by
  rcases List.mem_cons.mp identity with rfl | identity
  · rfl
  · rw [List.mem_singleton.mp identity]
    rfl

/-- Without a map neither the id nor the name is written over. -/
theorem written_identity (unmapped : ¬0 < mapping.property_map.length) {key : String} (identity : key ∈ ["id", "name"]) :
    written py mapping element key = .None := by
  rw [written, if_neg unmapped, if_neg]
  simp [copied, show key ∈ ["id", "name"] from identity]

theorem sent_copied (unmapped : ¬0 < mapping.property_map.length) {attr : String} (carried : Carried py mapping element attr) :
    sent py mapping element attr = element.getattr attr := by
  rw [Carried, if_neg unmapped] at carried
  obtain ⟨listed, is_public, something, plain⟩ := carried
  by_cases identity : attr ∈ ["id", "name"]
  · rw [sent, written_identity unmapped identity, control_of_identity identity]
    rfl
  · have kept : copied py element attr = true := by
      cases value : element.getattr attr with
      | None => exact absurd value something
      | _ =>
        rw [value] at plain
        simpa [copied, is_public, value, plain] using identity
    rw [sent, written, if_neg unmapped, if_pos ⟨listed, kept⟩, or_else_of_ne something]

theorem carried_of_copied (unmapped : ¬0 < mapping.property_map.length) {attr : String} (listed : attr ∈ element.dir) (kept : copied py element attr = true) :
    Carried py mapping element attr := by
  rw [Carried, if_neg unmapped]
  rw [copied, Bool.and_eq_true, Bool.and_eq_true, decide_eq_true_eq] at kept
  obtain ⟨⟨is_public, -⟩, plain⟩ := kept
  cases value : element.getattr attr with
  | None => simp [value] at plain
  | _ => exact ⟨listed, is_public, nofun, by simpa [value] using plain⟩

/-- A mapped attribute is what is written under its key. -/
theorem written_mapped (injective : mapping.property_map.values.Nodup) (mapped : 0 < mapping.property_map.length) {attr key : String}
    (found : mapping.property_map.get? attr = some key) : written py mapping element key = element.getattr attr := by
  have member := (mapping.property_map.get?_some_iff attr key).mp found
  rw [written, if_pos mapped]
  cases search : mapping.property_map.entries.find? fun item => item.2 = key with
  | none => exact absurd (decide_eq_true rfl) (List.find?_eq_none.mp search (attr, key) member)
  | some item =>
    have same : item.2 = key := by simpa using List.find?_some search
    rw [List.inj_on_of_nodup_map injective (List.mem_of_find?_eq_some search) member same]

theorem undisturbed_of_read_back {m : Mapper} (found : m._registry.get? element.class_name = some mapping) (injective : mapping.property_map.values.Nodup)
    (expected : ∀ key value, Expected py mapping element key value → read_back py mapping element m element.class_name key = value) :
    Undisturbed py mapping element where
  type carried := (expected _ _ (.property "type" carried)).symm.trans (expected _ _ .type)
  identity key identity absent := by
    by_cases mapped : 0 < mapping.property_map.length
    · have reads : read_back py mapping element m element.class_name key = element.getattr key := by
        rcases List.mem_cons.mp identity with rfl | identity
        · exact expected _ _ .id
        · rw [List.mem_singleton.mp identity]
          exact expected _ _ .name
      have other : key ≠ "type" := by rintro rfl; simp at identity
      rw [read_back_mapped found injective mapped, (mapping.property_map.get?_none_iff key).mpr absent] at reads
      simp only [if_neg other, if_pos (List.mem_cons_of_mem "speckle_type" identity), sent, control_of_identity identity] at reads
      by_cases nothing : written py mapping element key = .None
      · exact .inl nothing
      · exact .inr ((or_else_of_ne nothing _).symm.trans reads)
    · exact .inl (written_identity mapped identity)
  gaps attr key pair missing := by
    have known : attr ∈ mapping.property_map.keys := Dict.mem_keys_of_get? pair
    have mapped : 0 < mapping.property_map.length := mapping.property_map.length_keys ▸ List.length_pos_of_mem known
    have reads := expected _ _ (.property attr (by rwa [Carried, if_pos mapped]))
    rw [read_back_mapped found injective mapped, pair, missing] at reads
    obtain ⟨nothing_sent, no_start⟩ := (or_else_eq_none_iff _ _).mp reads
    rw [sent, written_mapped injective mapped pair, missing] at nothing_sent
    refine ⟨nothing_sent, ?_, fun identity => ?_⟩
    · rintro rfl
      exact sent_speckle_type no_start
    · have other : attr ≠ "type" := by rintro rfl; simp at identity
      rw [if_neg other, if_pos (List.mem_cons_of_mem "speckle_type" identity)] at no_start
      exact ((or_else_eq_none_iff _ _).mp no_start).1

section
variable {m : Mapper} (found : m._registry.get? element.class_name = some mapping)
include found

theorem read_property (injective : mapping.property_map.values.Nodup) (undisturbed : Undisturbed py mapping element)
    (mapped : 0 < mapping.property_map.length) {attr speckle_prop : String} (pair : mapping.property_map.get? attr = some speckle_prop) :
    read_back py mapping element m element.class_name attr = element.getattr attr := by
  rw [read_back_mapped found injective mapped, pair]
  by_cases missing : element.getattr attr = .None
  · obtain ⟨no_control, other, nothing⟩ := undisturbed.gaps attr speckle_prop pair missing
    have not_type : attr ≠ "type" := by
      rintro rfl
      have typed := undisturbed.type (by rw [Carried, if_pos mapped]; exact Dict.mem_keys_of_get? pair)
      exact nomatch missing.symm.trans typed
    have nothing_sent : sent py mapping element speckle_prop = .None := by
      rw [sent, written_mapped injective mapped pair, missing, no_control]
      rfl
    simp only [nothing_sent, or_else, if_neg not_type]
    by_cases identity : attr ∈ ["id", "name"]
    · rw [if_pos (List.mem_cons_of_mem "speckle_type" identity), sent, nothing identity, control_of_identity identity, missing]
      rfl
    · rw [if_neg (by simpa [other] using identity), missing]
  · have was_sent : sent py mapping element speckle_prop = element.getattr attr := by
      rw [sent, written_mapped injective mapped pair, or_else_of_ne missing]
    simp only [was_sent, or_else_of_ne missing]

theorem read_identity (injective : mapping.property_map.values.Nodup) (undisturbed : Undisturbed py mapping element)
    {key : String} (identity : key ∈ ["id", "name"]) : read_back py mapping element m element.class_name key = element.getattr key := by
  have other : key ≠ "type" := by rintro rfl; simp at identity
  by_cases mapped : 0 < mapping.property_map.length
  · cases pair : mapping.property_map.get? key with
    | some speckle_prop => exact read_property found injective undisturbed mapped pair
    | none =>
      rw [read_back_mapped found injective mapped, pair]
      simp only [if_neg other, if_pos (List.mem_cons_of_mem "speckle_type" identity), sent, control_of_identity identity]
      rcases undisturbed.identity key identity ((mapping.property_map.get?_none_iff key).mp pair) with nothing | same
      · rw [nothing]
        rfl
      · rw [same]
        cases element.getattr key <;> rfl
  · rw [read_back_unmapped found mapped]
    simp only [if_neg other, if_pos (List.mem_cons_of_mem "speckle_type" identity), sent, written_identity mapped identity, control_of_identity identity, or_else]

theorem read_type (injective : mapping.property_map.values.Nodup) (undisturbed : Undisturbed py mapping element) :
    read_back py mapping element m element.class_name "type" = .str element.class_name := by
  by_cases mapped : 0 < mapping.property_map.length
  · cases pair : mapping.property_map.get? "type" with
    | some speckle_prop =>
      have carried : Carried py mapping element "type" := by rw [Carried, if_pos mapped]; exact Dict.mem_keys_of_get? pair
      exact (read_property found injective undisturbed mapped pair).trans (undisturbed.type carried)
    | none =>
      rw [read_back_mapped found injective mapped, pair]
      rfl
  · rw [read_back_unmapped found mapped]
    by_cases listed : "type" ∈ element.dir ∧ copied py element "type" = true
    · have carried := carried_of_copied mapped listed.1 listed.2
      simp [sent_copied mapped carried, undisturbed.type carried, or_else]
    · simp [sent, written, mapped, listed, or_else, control]

theorem read_carried (injective : mapping.property_map.values.Nodup) (undisturbed : Undisturbed py mapping element) {attr : String}
    (carried : Carried py mapping element attr) : read_back py mapping element m element.class_name attr = element.getattr attr := by
  by_cases mapped : 0 < mapping.property_map.length
  · rw [Carried, if_pos mapped] at carried
    obtain ⟨speckle_prop, pair⟩ := (mapping.property_map.mem_keys_iff _).mp carried
    exact read_property found injective undisturbed mapped pair
  · by_cases listed : attr ∈ ["id", "name"]
    · exact read_identity found injective undisturbed listed
    · rw [read_back_unmapped found mapped, sent_copied mapped carried]
      rw [Carried, if_neg mapped] at carried
      by_cases speckle_type : attr = "speckle_type"
      · subst speckle_type
        rfl
      · simp only [if_neg (show attr ∉ ["speckle_type", "id", "name"] by simpa [speckle_type] using listed), or_else_of_ne carried.2.2.1]

theorem read_back_of_undisturbed (injective : mapping.property_map.values.Nodup) (undisturbed : Undisturbed py mapping element) {key : String}
    {value : PyObject ω} (expect : Expected py mapping element key value) : read_back py mapping element m element.class_name key = value := by
  cases expect with
  | type => exact read_type found injective undisturbed
  | id => exact read_identity found injective undisturbed List.mem_cons_self
  | name => exact read_identity found injective undisturbed (List.mem_cons_of_mem _ List.mem_cons_self)
  | property attr carried => exact read_carried found injective undisturbed carried

end

end

/-- The mapping that was registered last for the class of an element. -/
abbrev mapping_of (mappings : List TypeMapping) (class_name : String) : Option TypeMapping :=
  Filing.last (fun mapping => some mapping.revitpy_type) class_name (_DEFAULT_MAPPINGS ++ mappings)

/-- The type that was registered last for a Speckle type. -/
abbrev latest (mappings : List TypeMapping) (speckle_type : String) : Option String :=
  (Filing.last (fun mapping => some mapping.speckle_type) speckle_type (_DEFAULT_MAPPINGS ++ mappings)).map TypeMapping.revitpy_type

/-- An element comes back exactly when what is written under `speckle_type` still stands for its type and
    nothing else is disturbed, or stands for another type for which all is read as it should be. -/
theorem speckle_round_trip_iff (py : Lookups ω) (mappings : List TypeMapping) (element : Element ω) (mapping : TypeMapping)
    (found : mapping_of mappings element.class_name = some mapping) (newest : latest mappings mapping.speckle_type = some element.class_name)
    (injective : mapping.property_map.values.Nodup) :
    RoundTrip py (registered mappings) mapping element ↔
      (written py mapping element "speckle_type" = .None ∨ taken_for py mapping element (registered mappings) = some element.class_name) ∧
        Undisturbed py mapping element ∨
      ∃ target_type, target_type ≠ element.class_name ∧ taken_for py mapping element (registered mappings) = some target_type ∧
        Restored py mapping element (registered mappings) target_type := by
  have known : (registered mappings)._registry.get? element.class_name = some mapping := (get?_registry _ _).trans found
  have own (free : written py mapping element "speckle_type" = .None) : taken_for py mapping element (registered mappings) = some element.class_name := by
    have sent_own : sent py mapping element "speckle_type" = .str mapping.speckle_type := by
      rw [sent, free]
      rfl
    rw [taken_for, sent_own]
    exact (get?_reverse_registry _ _).trans newest
  rw [round_trip_iff_read_back known injective]
  constructor
  · rintro ⟨target_type, taken, expected⟩
    by_cases same : target_type = element.class_name
    · subst same
      exact .inl ⟨.inr taken, undisturbed_of_read_back known injective expected⟩
    · exact .inr ⟨target_type, same, taken, (restored_iff_read_back _ _).mpr expected⟩
  · rintro (⟨kept, undisturbed⟩ | ⟨target_type, -, taken, restored⟩)
    · exact ⟨element.class_name, kept.elim own id, fun _ _ => read_back_of_undisturbed known injective undisturbed⟩
    · exact ⟨target_type, taken, (restored_iff_read_back _ _).mp restored⟩

/-- No objects but `None`, integers and texts. -/
def plain : Lookups Empty := ⟨⟨nofun, nofun, nofun⟩, nofun, nofun⟩

def wall : Element Empty where
  class_name := "WallElement"
  dir := ["height", "id", "name", "type"]
  getattr
    | "height" => .int 3
    | "id" => .int 0
    | "name" => .str "W1"
    | "type" => .str "Generic"
    | _ => .None

def heights : TypeMapping where
  revitpy_type := "WallElement"
  speckle_type := "Objects.BuiltElements.Wall:Wall"
  property_map := Dict.ofList [("height", "baseHeight")]

theorem wall_round_trip : RoundTrip plain (registered [heights]) heights wall :=
  (speckle_round_trip_iff plain [heights] wall heights (by decide) (by decide) (by decide)).mpr <| .inl ⟨.inl (by decide), {
    type := fun carried => absurd carried (by rw [Carried, if_pos (by decide)]; decide)
    identity := by decide
    gaps := by
      intro attr key pair missing
      have member := (Dict.get?_some_iff _ attr key).mp pair
      cases List.mem_singleton.mp member
      exact nomatch missing }⟩

/-- A wall that has a type of its own does not come back as a wall. -/
theorem typed_wall : ¬∀ (py : Lookups Empty) (mappings : List TypeMapping) (element : Element Empty) (mapping : TypeMapping),
    mapping_of mappings element.class_name = some mapping → latest mappings mapping.speckle_type = some element.class_name →
    mapping.property_map.values.Nodup → RoundTrip py (registered mappings) mapping element := by
  intro law
  obtain ⟨speckle_obj, result, encoded, returned, expected⟩ := law plain [] wall ⟨"WallElement", "Objects.BuiltElements.Wall:Wall", ∅⟩ (by decide) (by decide) (by decide)
  have typed := expected _ _ .type
  have own := expected _ _ (.property "type" (by rw [Carried, if_neg (by decide)]; decide))
  exact nomatch own.symm.trans typed

end RevitPy.SpeckleTypeMapper
