import RevitPy.JsonText
import RevitPy.JsonValues
import RevitPy.RegistryIndexes

/-!
# Files of the registry

The registry writes its metadata to a file and reads it back. The times at which an extension
was loaded and activated come back as texts, which cannot be written a second time, and the
names are assigned anew, in the order of the ids.
-/

namespace RevitPy.RegistryFiles

/-- A time as `datetime.now()` tells it. -/
structure Datetime where
  year : Nat
  month : Nat
  day : Nat
  hour : Nat
  minute : Nat
  second : Nat
  microsecond : Nat

def pad (width n : Nat) : String := String.ofList ((toString n).toList.leftpad width '0')

def Datetime.isoformat (t : Datetime) : String :=
  pad 4 t.year ++ "-" ++ pad 2 t.month ++ "-" ++ pad 2 t.day ++ "T" ++ pad 2 t.hour ++ ":" ++ pad 2 t.minute ++ ":" ++ pad 2 t.second ++
    if t.microsecond = 0 then "" else "." ++ pad 6 t.microsecond

/-- What the field of a time holds: the time, or the text that an import found there. -/
inductive Moment
  | datetime (t : Datetime)
  | text (value : String)

/-- The metadata with the fields that only a file shows. -/
structure FullMetadata extends ExtensionMetadata where
  version : String
  description : String := ""
  author : String := ""
  website : String := ""
  license : String := ""
  revit_versions : List String := []
  python_version : String := ">=3.11"
  provides_commands : List String := []
  provides_services : List String := []
  provides_tools : List String := []
  provides_analyzers : List String := []
  config_schema : Option (List (String × Json)) := none
  default_config : Option (List (String × Json)) := none
  load_time : Option Moment := none
  activation_time : Option Moment := none

inductive RegistryError
  | AttributeError
  | FileNotFoundError
  | JSONDecodeError
  | TypeError
  /-- A field holds a value of another type than it is declared with, which the code does not check. -/
  | other_type

/-! ## Writing -/

/-- `moment.isoformat() if moment else None` -/
def isoformat : Option Moment → Except RegistryError Json
  | none => .ok .null
  | some (.datetime t) => .ok (.str t.isoformat)
  | some (.text value) => if value = "" then .ok .null else .error .AttributeError

def strings (values : List String) : Json := .arr (values.map .str)
def config : Option (List (String × Json)) → Json
  | none => .null
  | some members => .obj members

/-- The fields of a dictionary of metadata. -/
def fields (m : FullMetadata) (load_time activation_time : Json) : List (String × Json) := [
  ("extension_id", .str m.extension_id), ("name", .str m.name), ("version", .str m.version), ("description", .str m.description),
  ("author", .str m.author), ("website", .str m.website), ("license", .str m.license), ("dependencies", strings m.dependencies),
  ("revit_versions", strings m.revit_versions), ("python_version", .str m.python_version), ("provides_commands", strings m.provides_commands),
  ("provides_services", strings m.provides_services), ("provides_tools", strings m.provides_tools),
  ("provides_analyzers", strings m.provides_analyzers), ("config_schema", config m.config_schema), ("default_config", config m.default_config),
  ("load_time", load_time), ("activation_time", activation_time)]

/-- Convert metadata to dictionary. -/
def FullMetadata.to_dict (m : FullMetadata) : Except RegistryError (List (String × Json)) := do
  let load_time ← isoformat m.load_time
  let activation_time ← isoformat m.activation_time
  return fields m load_time activation_time

/-! ## Reading -/

def readString : Json → Option String
  | .str value => some value
  | _ => none

def readStrings : Json → Option (List String)
  | .arr items => items.mapM readString
  | _ => none

def readConfig : Json → Option (Option (List (String × Json)))
  | .null => some none
  | .obj members => some (some members)
  | _ => none

def readMoment : Json → Option (Option Moment)
  | .null => some none
  | .str value => some (some (.text value))
  | _ => none

section
variable {α : Type} (members : List (String × Json)) (name : String) (read : Json → Option α)

def field (default : Except RegistryError α) : Except RegistryError α :=
  match Json.get? members name with
  | none => default
  | some value => match read value with
    | some a => .ok a
    | none => .error .other_type

end

def field_names : List String := [
  "name", "version", "description", "author", "website", "license", "dependencies", "revit_versions", "python_version", "provides_commands",
  "provides_services", "provides_tools", "provides_analyzers", "config_schema", "default_config", "extension_id", "load_time", "activation_time"]

/-- `ExtensionMetadata(**members)` -/
def FullMetadata.of_dict (uuid4 : String) (members : List (String × Json)) : Except RegistryError FullMetadata := do
  if members.any fun member => member.1 ∉ field_names then throw .TypeError
  let name ← field members "name" readString (.error .TypeError)
  let version ← field members "version" readString (.error .TypeError)
  let description ← field members "description" readString (.ok "")
  let author ← field members "author" readString (.ok "")
  let website ← field members "website" readString (.ok "")
  let license ← field members "license" readString (.ok "")
  let dependencies ← field members "dependencies" readStrings (.ok [])
  let revit_versions ← field members "revit_versions" readStrings (.ok [])
  let python_version ← field members "python_version" readString (.ok ">=3.11")
  let provides_commands ← field members "provides_commands" readStrings (.ok [])
  let provides_services ← field members "provides_services" readStrings (.ok [])
  let provides_tools ← field members "provides_tools" readStrings (.ok [])
  let provides_analyzers ← field members "provides_analyzers" readStrings (.ok [])
  let config_schema ← field members "config_schema" readConfig (.ok none)
  let default_config ← field members "default_config" readConfig (.ok none)
  let extension_id ← field members "extension_id" readString (.ok uuid4)
  let load_time ← field members "load_time" readMoment (.ok none)
  let activation_time ← field members "activation_time" readMoment (.ok none)
  return {
    name, version, description, author, website, license, dependencies, revit_versions, python_version, provides_commands,
    provides_services, provides_tools, provides_analyzers, config_schema, default_config, extension_id, load_time, activation_time }

def read_entry (uuid4 : String) : Json → Except RegistryError FullMetadata
  | .obj members => FullMetadata.of_dict uuid4 members
  | _ => .error .TypeError

/-- What is iterated in a value. -/
def entries : Json → Except RegistryError (List Json)
  | .arr items => .ok items
  | .obj members => .ok (members.map fun member => .str member.1)
  | .str value => .ok (value.toList.map fun c => .str (String.singleton c))
  | _ => .error .TypeError

/-- `registry_data.get("extensions", [])` -/
def extensions : Json → Except RegistryError Json
  | .obj members => .ok (Json.getD members "extensions" (.arr []))
  | _ => .error .AttributeError

/-! ## The registry -/

/-- The registry, with all fields of the metadata. -/
structure FullRegistry where
  _extensions : Dict String FullMetadata
  _extensions_by_name : Dict String FullMetadata
  by_id : ∀ key metadata, _extensions.get? key = some metadata → metadata.extension_id = key
  by_name : ∀ key metadata, _extensions_by_name.get? key = some metadata → metadata.name = key

abbrev Files := Dict String (List Char)

namespace FullRegistry
variable (r : FullRegistry)

def empty : FullRegistry where
  _extensions := ∅
  _extensions_by_name := ∅
  by_id := by simp
  by_name := by simp

def register_extension (m : FullMetadata) : FullRegistry where
  _extensions := r._extensions.set m.extension_id m
  _extensions_by_name := r._extensions_by_name.set m.name m
  by_id := by
    intro key found
    rw [Dict.get?_set]
    split
    · rintro ⟨⟩
      assumption
    · exact r.by_id key found
  by_name := by
    intro key found
    rw [Dict.get?_set]
    split
    · rintro ⟨⟩
      assumption
    · exact r.by_name key found

def get_all_extensions : List FullMetadata := r._extensions.values

/-- Export registry to JSON file. -/
def export_registry (files : Files) (file_path : String) : Except RegistryError Unit × Files :=
  match r.get_all_extensions.mapM FullMetadata.to_dict with
  | .error e => (.error e, files)
  | .ok dicts => (.ok (), files.set file_path (Json.write Json.json (some 2) 0 (.obj [("extensions", .arr (dicts.map .obj))])))

/-- The ids that an import gives are those of `uuid4`, by the entries that are left. -/
def register_entries (uuid4 : Nat → String) : List Json → FullRegistry → Except RegistryError Unit × FullRegistry
  | [], r => (.ok (), r)
  | entry :: rest, r => match read_entry (uuid4 rest.length) entry with
    | .error e => (.error e, r)
    | .ok m => register_entries uuid4 rest (r.register_extension m)

/-- Import registry from JSON file. -/
def import_registry (uuid4 : Nat → String) (files : Files) (file_path : String) : Except RegistryError Unit × FullRegistry :=
  match files.get? file_path with
  | none => (.error .FileNotFoundError, r)
  | some text => match Json.loads text with
    | none => (.error .JSONDecodeError, r)
    | some registry_data => match extensions registry_data >>= entries with
      | .error e => (.error e, r)
      | .ok items => register_entries uuid4 items r

/-- The metadata as the other calls of the registry see them. -/
def bare (d : Dict String FullMetadata) : Dict String ExtensionMetadata where
  entries := d.entries.map fun item => (item.1, item.2.toExtensionMetadata)
  nodup := by
    rw [List.map_map]
    exact d.nodup

theorem get?_bare (d : Dict String FullMetadata) (key : String) : (bare d).get? key = (d.get? key).map FullMetadata.toExtensionMetadata := by
  have general (items : List (String × FullMetadata)) :
      Dict.find (items.map fun item => (item.1, item.2.toExtensionMetadata)) key = (Dict.find items key).map FullMetadata.toExtensionMetadata := by
    induction items with
    | nil => rfl
    | cons item rest ih =>
      simp only [List.map_cons, Dict.find]
      split
      · rfl
      · exact ih
  exact general d.entries

theorem keys_bare (d : Dict String FullMetadata) : (bare d).keys = d.keys := by
  rw [Dict.keys, Dict.keys, bare, List.map_map]
  rfl

def registry : ExtensionRegistry where
  _extensions := bare r._extensions
  _extensions_by_name := bare r._extensions_by_name
  by_id key metadata found := by
    rw [get?_bare, Option.map_eq_some_iff] at found
    obtain ⟨m, found, rfl⟩ := found
    exact r.by_id key m found
  by_name key metadata found := by
    rw [get?_bare, Option.map_eq_some_iff] at found
    obtain ⟨m, found, rfl⟩ := found
    exact r.by_name key m found

theorem bare_set (d : Dict String FullMetadata) (key : String) (m : FullMetadata) :
    bare (d.set key m) = (bare d).set key m.toExtensionMetadata := by
  refine Dict.ext_keys ?_ fun other => ?_
  · rw [keys_bare, Dict.keys_set, Dict.keys_set, keys_bare]
  · rw [get?_bare, Dict.get?_set, Dict.get?_set, get?_bare]
    split <;> rfl

/-- A registration is the one of the registry. -/
theorem registry_register (m : FullMetadata) :
    (r.register_extension m).registry = r.registry.register_extension m.toExtensionMetadata := by
  simp only [registry, register_extension, ExtensionRegistry.register_extension, bare_set]

end FullRegistry

/-! ## Metadata that are read back -/

/-- A time that cannot be written. -/
def Retimed : Option Moment → Prop
  | some (.text value) => value ≠ ""
  | _ => False

/-- A time that was told by a clock. -/
def Told : Option Moment → Prop
  | some (.datetime _) => True
  | _ => False

/-- What is read where a time was written. -/
def reread : Option Moment → Option Moment
  | some (.datetime t) => some (.text t.isoformat)
  | _ => none

namespace FullMetadata

def Retimed (m : FullMetadata) : Prop := RegistryFiles.Retimed m.load_time ∨ RegistryFiles.Retimed m.activation_time
def Told (m : FullMetadata) : Prop := RegistryFiles.Told m.load_time ∨ RegistryFiles.Told m.activation_time
def reread (m : FullMetadata) : FullMetadata :=
  { m with load_time := RegistryFiles.reread m.load_time, activation_time := RegistryFiles.reread m.activation_time }

/-- The configurations hold numbers as they are written. -/
def Proper (m : FullMetadata) : Prop := Json.json.proper (config m.config_schema) = true ∧ Json.json.proper (config m.default_config) = true

end FullMetadata

theorem isoformat_ne_empty (t : Datetime) : t.isoformat ≠ "" := by
  intro empty
  have long := congrArg String.length empty
  simp only [Datetime.isoformat, String.length_append] at long
  have dash : "-".length = 1 := rfl
  have none : "".length = 0 := rfl
  omega

/-- A time is written as it is read, or cannot be written. -/
theorem isoformat_cases (moment : Option Moment) :
    (∃ e, isoformat moment = .error e) ∧ Retimed moment ∨
      ∃ value, isoformat moment = .ok value ∧ ¬Retimed moment ∧ readMoment value = some (reread moment) ∧ Json.json.proper value = true := by
  match moment with
  | none => exact .inr ⟨_, rfl, id, rfl, rfl⟩
  | some (.datetime t) => exact .inr ⟨_, rfl, id, rfl, rfl⟩
  | some (.text value) =>
    by_cases empty : value = ""
    · exact .inr ⟨.null, by rw [isoformat, if_pos empty], fun retimed => retimed empty, rfl, rfl⟩
    · exact .inl ⟨⟨_, by rw [isoformat, if_neg empty]⟩, empty⟩

theorem readStrings_strings (values : List String) : readStrings (strings values) = some values := by
  rw [strings, readStrings]
  induction values with
  | nil => rfl
  | cons value rest ih => simp [readString, ih]

theorem readConfig_config (members : Option (List (String × Json))) : readConfig (config members) = some members := by
  cases members <;> rfl

theorem field_of_mem {α : Type} {members : List (String × Json)} (distinct : (members.map Prod.fst).Nodup) (name : String) {value : Json}
    (member : (name, value) ∈ members) {read : Json → Option α} {a : α} (reads : read value = some a) (default : Except RegistryError α) :
    field members name read default = .ok a := by
  rw [field, Json.get?_of_mem distinct member]
  simp only [reads]

/-- What the fields of metadata are read as. -/
theorem of_dict_fields (uuid4 : String) (m : FullMetadata) {load_time activation_time : Json} {loaded activated : Option Moment}
    (load : readMoment load_time = some loaded) (activation : readMoment activation_time = some activated) :
    FullMetadata.of_dict uuid4 (fields m load_time activation_time) = .ok { m with load_time := loaded, activation_time := activated } := by
  have distinct : ((fields m load_time activation_time).map Prod.fst).Nodup := by
    simp only [fields, List.map_cons, List.map_nil]
    decide
  have known : (fields m load_time activation_time).any (fun member => member.1 ∉ field_names) = false := by
    simp [fields, field_names]
  have text (name value : String) (member : (name, Json.str value) ∈ fields m load_time activation_time) (default : Except RegistryError String) :
      field (fields m load_time activation_time) name readString default = .ok value :=
    field_of_mem distinct name member (rfl : readString (.str value) = some value) default
  have texts (name : String) (values : List String) (member : (name, strings values) ∈ fields m load_time activation_time)
      (default : Except RegistryError (List String)) : field (fields m load_time activation_time) name readStrings default = .ok values :=
    field_of_mem distinct name member (readStrings_strings values) default
  have configuration (name : String) (values : Option (List (String × Json))) (member : (name, config values) ∈ fields m load_time activation_time)
      (default : Except RegistryError (Option (List (String × Json)))) :
      field (fields m load_time activation_time) name readConfig default = .ok values :=
    field_of_mem distinct name member (readConfig_config values) default
  rw [FullMetadata.of_dict, known, text "name" m.name (by simp [fields]), text "version" m.version (by simp [fields]),
    text "description" m.description (by simp [fields]), text "author" m.author (by simp [fields]), text "website" m.website (by simp [fields]),
    text "license" m.license (by simp [fields]), texts "dependencies" m.dependencies (by simp [fields]),
    texts "revit_versions" m.revit_versions (by simp [fields]), text "python_version" m.python_version (by simp [fields]),
    texts "provides_commands" m.provides_commands (by simp [fields]), texts "provides_services" m.provides_services (by simp [fields]),
    texts "provides_tools" m.provides_tools (by simp [fields]), texts "provides_analyzers" m.provides_analyzers (by simp [fields]),
    configuration "config_schema" m.config_schema (by simp [fields]), configuration "default_config" m.default_config (by simp [fields]),
    text "extension_id" m.extension_id (by simp [fields]), field_of_mem distinct "load_time" (by simp [fields]) load,
    field_of_mem distinct "activation_time" (by simp [fields]) activation]
  rfl

theorem proper_strings (values : List String) : Json.json.proper (strings values) = true := by
  rw [strings, Json.Dialect.proper]
  induction values with
  | nil => rfl
  | cons value rest ih => simp [Json.Dialect.properItems, Json.Dialect.proper, ih]

theorem proper_fields {m : FullMetadata} (proper : m.Proper) {load_time activation_time : Json} (load : Json.json.proper load_time = true)
    (activation : Json.json.proper activation_time = true) : Json.json.proper (.obj (fields m load_time activation_time)) = true := by
  simp only [fields, Json.Dialect.proper, Json.Dialect.properMembers, proper_strings, proper.1, proper.2, load, activation, Bool.and_self]

/-- Metadata are read as they were written, or cannot be written. -/
theorem to_dict_cases (m : FullMetadata) :
    (∃ e, m.to_dict = .error e) ∧ m.Retimed ∨
      ∃ members, m.to_dict = .ok members ∧ ¬m.Retimed ∧ (∀ uuid4, read_entry uuid4 (.obj members) = .ok m.reread) ∧
        (m.Proper → Json.json.proper (.obj members) = true) := by
  rw [FullMetadata.to_dict]
  rcases isoformat_cases m.load_time with ⟨⟨e, raised⟩, retimed⟩ | ⟨load_time, loaded, plain, load, load_proper⟩
  · exact .inl ⟨⟨e, by rw [raised]; rfl⟩, .inl retimed⟩
  · rcases isoformat_cases m.activation_time with ⟨⟨e, raised⟩, retimed⟩ | ⟨activation_time, activated, unmarked, activation, activation_proper⟩
    · exact .inl ⟨⟨e, by rw [loaded, raised]; rfl⟩, .inr retimed⟩
    · refine .inr ⟨fields m load_time activation_time, by rw [loaded, activated]; rfl, ?_, ?_, ?_⟩
      · exact fun retimed => retimed.elim plain unmarked
      · exact fun uuid4 => of_dict_fields uuid4 m load activation
      · exact fun proper => proper_fields proper load_proper activation_proper

/-- The metadata of a list are registered as they were written, or one of them cannot be written. -/
theorem mapM_to_dict (ms : List FullMetadata) :
    (∃ e, ms.mapM FullMetadata.to_dict = .error e) ∧ (∃ m ∈ ms, m.Retimed) ∨
      ∃ dicts, ms.mapM FullMetadata.to_dict = .ok dicts ∧ (∀ m ∈ ms, ¬m.Retimed) ∧
        (∀ uuid4 s, FullRegistry.register_entries uuid4 (dicts.map .obj) s = (.ok (), (ms.map FullMetadata.reread).foldl .register_extension s)) ∧
        ((∀ m ∈ ms, m.Proper) → Json.json.properItems (dicts.map .obj) = true) := by
  induction ms with
  | nil => exact .inr ⟨[], rfl, nofun, fun _ _ => rfl, fun _ => rfl⟩
  | cons m rest ih =>
    rw [List.mapM_cons]
    rcases to_dict_cases m with ⟨⟨e, raised⟩, retimed⟩ | ⟨members, written, plain, read, proper⟩
    · exact .inl ⟨⟨e, by rw [raised]; rfl⟩, m, List.mem_cons_self, retimed⟩
    · rcases ih with ⟨⟨e, raised⟩, other, member, retimed⟩ | ⟨dicts, written_rest, others, registers, proper_rest⟩
      · exact .inl ⟨⟨e, by rw [written, raised]; rfl⟩, other, List.mem_cons_of_mem _ member, retimed⟩
      · refine .inr ⟨members :: dicts, by rw [written, written_rest]; rfl, ?_, ?_, ?_⟩
        · exact List.forall_mem_cons.mpr ⟨plain, others⟩
        · intro uuid4 s
          rw [List.map_cons, FullRegistry.register_entries, read]
          exact registers uuid4 _
        · intro all
          obtain ⟨here, later⟩ := List.forall_mem_cons.mp all
          rw [List.map_cons, Json.Dialect.properItems, proper here, proper_rest later]
          rfl

/-- What cannot be written a second time is what was told by a clock. -/
theorem retimed_reread (m : FullMetadata) : m.reread.Retimed ↔ m.Told := by
  have one (moment : Option Moment) : Retimed (reread moment) ↔ Told moment := by
    match moment with
    | none => exact Iff.rfl
    | some (.datetime t) => exact iff_of_true (isoformat_ne_empty t) trivial
    | some (.text value) => exact Iff.rfl
  exact or_congr (one _) (one _)

/-- What was not told by a clock is written twice alike. -/
theorem to_dict_reread {m : FullMetadata} (untold : ¬m.Told) (plain : ¬m.Retimed) : m.reread.to_dict = m.to_dict := by
  have one (moment : Option Moment) (untold : ¬Told moment) (plain : ¬Retimed moment) : isoformat (reread moment) = isoformat moment := by
    match moment with
    | none => rfl
    | some (.datetime t) => exact absurd trivial untold
    | some (.text value) =>
      obtain rfl : value = "" := not_not.mp plain
      rfl
  obtain ⟨untold_load, untold_activation⟩ := not_or.mp untold
  obtain ⟨plain_load, plain_activation⟩ := not_or.mp plain
  rw [FullMetadata.to_dict, FullMetadata.to_dict, ← one _ untold_load plain_load, ← one _ untold_activation plain_activation]
  rfl

/-! ## A registry that is read back -/

namespace FullRegistry

/-- The last of the registered extensions with a name. -/
def last_named (r : FullRegistry) (name : String) : Option FullMetadata := r.get_all_extensions.reverse.find? fun m => m.name = name

/-- Of the metadata with one key those count that are set last. -/
theorem get?_foldl_set (key : FullMetadata → String) (ms : List FullMetadata) (d : Dict String FullMetadata) (k : String) :
    (ms.foldl (fun d m => d.set (key m) m) d).get? k = (ms.reverse.find? fun m => key m = k).or (d.get? k) := by
  induction ms generalizing d with
  | nil => rfl
  | cons m rest ih =>
    rw [List.foldl_cons, ih, List.reverse_cons, List.find?_append, Option.or_assoc, Dict.get?_set]
    congr 1
    by_cases same : key m = k <;> simp [same]

theorem foldl_register (ms : List FullMetadata) (s : FullRegistry) :
    (ms.foldl register_extension s)._extensions = ms.foldl (fun d m => d.set m.extension_id m) s._extensions ∧
      (ms.foldl register_extension s)._extensions_by_name = ms.foldl (fun d m => d.set m.name m) s._extensions_by_name := by
  induction ms generalizing s with
  | nil => exact ⟨rfl, rfl⟩
  | cons m rest ih => exact ih (s.register_extension m)

theorem mem_all_iff (r : FullRegistry) (m : FullMetadata) : m ∈ r.get_all_extensions ↔ r._extensions.get? m.extension_id = some m := by
  rw [get_all_extensions, Dict.values, List.mem_map]
  constructor
  · rintro ⟨⟨key, value⟩, member, rfl⟩
    have found := (Dict.get?_some_iff _ _ _).mpr member
    rwa [r.by_id key value found]
  · exact fun found => ⟨_, (Dict.get?_some_iff _ _ _).mp found, rfl⟩

/-- A registered record is the only one with its id. -/
theorem find_by_id (r : FullRegistry) (id : String) : (r.get_all_extensions.reverse.find? fun m => m.extension_id = id) = r._extensions.get? id := by
  cases found : r.get_all_extensions.reverse.find? fun m => m.extension_id = id with
  | some m =>
    have member := (r.mem_all_iff m).mp (List.mem_reverse.mp (List.mem_of_find?_eq_some found))
    have own : m.extension_id = id := by simpa using List.find?_some found
    rw [← own, member]
  | none =>
    cases known : r._extensions.get? id with
    | none => rfl
    | some m =>
      obtain rfl := r.by_id id m known
      have other := List.find?_eq_none.mp found m (List.mem_reverse.mpr ((r.mem_all_iff m).mpr known))
      simp at other

/-- What an import of the metadata of one registry makes of another. -/
def imported (r s : FullRegistry) : FullRegistry := (r.get_all_extensions.map FullMetadata.reread).foldl register_extension s

/-- The imported records are found under their ids and, the last one with a name, under their names, and what was there under others. -/
structure Returned (r s t : FullRegistry) : Prop where
  ids : ∀ id, t._extensions.get? id = ((r._extensions.get? id).map FullMetadata.reread).or (s._extensions.get? id)
  names : ∀ name, t._extensions_by_name.get? name = ((r.last_named name).map FullMetadata.reread).or (s._extensions_by_name.get? name)

theorem returned (r s : FullRegistry) : Returned r s (r.imported s) where
  ids id := by
    rw [imported, (foldl_register _ _).1, get?_foldl_set, ← List.map_reverse, List.find?_map]
    exact congrArg (fun found => (found.map FullMetadata.reread).or (s._extensions.get? id)) (r.find_by_id id)
  names name := by
    rw [imported, (foldl_register _ _).2, get?_foldl_set, ← List.map_reverse, List.find?_map]
    rfl

/-- The ids come back in their order. -/
theorem entries_imported (r : FullRegistry) :
    (r.imported empty)._extensions.entries = r._extensions.entries.map fun item => (item.1, item.2.reread) := by
  have items : (r.get_all_extensions.map FullMetadata.reread).map (fun m => (m.extension_id, m)) =
      r._extensions.entries.map fun item => (item.1, item.2.reread) := by
    rw [get_all_extensions, Dict.values, List.map_map, List.map_map]
    refine List.map_congr_left fun item member => ?_
    have found := r.by_id item.1 item.2 ((Dict.get?_some_iff _ _ _).mpr member)
    exact Prod.ext found rfl
  have distinct : ((r._extensions.entries.map fun item => (item.1, item.2.reread)).map Prod.fst).Nodup := by
    rw [List.map_map]
    exact r._extensions.nodup
  have sets (ms : List FullMetadata) : ms.foldl (fun d m => d.set m.extension_id m) ∅ = Dict.ofList (ms.map fun m => (m.extension_id, m)) := by
    rw [Dict.ofList, List.foldl_map]
  rw [imported, (foldl_register _ _).1, ← Dict.entries_ofList distinct, ← items, ← sets]
  rfl

/-- The other calls see the same extensions, but each name is the one of the last extension that has it. -/
structure Restored (r t : FullRegistry) : Prop where
  all : t.registry.get_all_extensions = r.registry.get_all_extensions
  order : t.registry.resolve_load_order = r.registry.resolve_load_order
  found : ∀ key, t.registry.get_extension key = (r.registry._extensions.get? key).or (r.registry.last_named key)

theorem get_all_imported (r : FullRegistry) : (r.imported empty).get_all_extensions = r.get_all_extensions.map FullMetadata.reread := by
  rw [get_all_extensions, Dict.values, entries_imported, List.map_map, get_all_extensions, Dict.values, List.map_map]
  rfl

theorem registry_get_all (r : FullRegistry) : r.registry.get_all_extensions = r.get_all_extensions.map FullMetadata.toExtensionMetadata := by
  show (r._extensions.entries.map fun item => (item.1, item.2.toExtensionMetadata)).map Prod.snd = _
  rw [List.map_map, get_all_extensions, Dict.values, List.map_map]
  rfl

theorem restored (r : FullRegistry) : Restored r (r.imported empty) := by
  have same : (r.imported empty).registry._extensions = r.registry._extensions := by
    refine Dict.ext ?_
    show ((r.imported empty)._extensions.entries.map fun item => (item.1, item.2.toExtensionMetadata)) = _
    rw [entries_imported, List.map_map]
    rfl
  have graph : (r.imported empty).registry.get_dependency_graph = r.registry.get_dependency_graph := by
    rw [ExtensionRegistry.get_dependency_graph, ExtensionRegistry.get_all_extensions, same]
    rfl
  constructor
  · rw [ExtensionRegistry.get_all_extensions, same]
    rfl
  · funext unresolved_order visiting_order
    rw [ExtensionRegistry.resolve_load_order, graph]
    rfl
  · intro key
    have named : (r.imported empty).registry._extensions_by_name.get? key = r.registry.last_named key := by
      rw [registry, get?_bare, (returned r empty).names, ExtensionRegistry.last_named, registry_get_all, ← List.map_reverse, List.find?_map,
        last_named]
      show (((List.find? _ _).map _).or none).map _ = _
      rw [Option.or_none, Option.map_map]
      rfl
    rw [ExtensionRegistry.get_extension_eq, same, named]

/-- A file is read as the metadata that were written. -/
theorem import_export {dicts : List (List (String × Json))} (proper : Json.json.properItems (dicts.map .obj) = true)
    (uuid4 : Nat → String) (files : Files) (file_path : String) (s : FullRegistry) :
    s.import_registry uuid4 (files.set file_path (Json.write Json.json (some 2) 0 (.obj [("extensions", .arr (dicts.map .obj))]))) file_path =
      register_entries uuid4 (dicts.map .obj) s := by
  have members : Json.json.proper (.obj [("extensions", .arr (dicts.map .obj))]) = true := by
    simp [Json.Dialect.proper, Json.Dialect.properMembers, proper]
  rw [import_registry, Dict.get?_set, if_pos rfl]
  simp only [Json.loads, Json.load_write Json.json_lawful _ members]
  rfl

/-- The extensions that an import made can be written again where none had been loaded or activated. -/
theorem export_imported (r : FullRegistry) {dicts : List (List (String × Json))} (written : r.get_all_extensions.mapM FullMetadata.to_dict = .ok dicts)
    (plain : ∀ m ∈ r.get_all_extensions, ¬m.Retimed) :
    (∃ e, (r.imported empty).get_all_extensions.mapM FullMetadata.to_dict = .error e) ∧ (∃ m ∈ r.get_all_extensions, m.Told) ∨
      (r.imported empty).get_all_extensions.mapM FullMetadata.to_dict = .ok dicts ∧ ∀ m ∈ r.get_all_extensions, ¬m.Told := by
  rw [get_all_imported]
  rcases mapM_to_dict (r.get_all_extensions.map FullMetadata.reread) with ⟨raised, m', member, retimed⟩ | ⟨again, rewritten, untold, -⟩
  · obtain ⟨m, known, rfl⟩ := List.mem_map.mp member
    exact .inl ⟨raised, m, known, (retimed_reread m).mp retimed⟩
  · have untold : ∀ m ∈ r.get_all_extensions, ¬m.Told := fun m member told =>
      untold m.reread (List.mem_map_of_mem member) ((retimed_reread m).mpr told)
    refine .inr ⟨?_, untold⟩
    rw [← written]
    have alike (ms : List FullMetadata) (same : ∀ m ∈ ms, m.reread.to_dict = m.to_dict) :
        (ms.map FullMetadata.reread).mapM FullMetadata.to_dict = ms.mapM FullMetadata.to_dict := by
      induction ms with
      | nil => rfl
      | cons m rest ih =>
        obtain ⟨here, later⟩ := List.forall_mem_cons.mp same
        rw [List.map_cons, List.mapM_cons, List.mapM_cons, here, ih later]
    exact alike _ fun m member => to_dict_reread (untold m member) (plain m member)

/-- An extension that has been loaded, and one that needs it. -/
def tools : FullRegistry :=
  (empty.register_extension
    { name := "walls", extension_id := "1", version := "1.0", load_time := some (.datetime ⟨2025, 1, 31, 8, 5, 0, 1200⟩),
      default_config := some [("width", .number "0.2")] }).register_extension
    { name := "doors", extension_id := "2", version := "0.9", dependencies := ["walls"] }

end FullRegistry
end RevitPy.RegistryFiles
