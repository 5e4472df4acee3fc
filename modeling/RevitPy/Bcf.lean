import RevitPy.ByteTexts
import RevitPy.Filing
import RevitPy.PosixPaths
import RevitPy.Strings
import RevitPy.XmlTrees

/-!
# Issues in BCF archives

Every issue is written as an XML file of its own, in a directory with the name of its guid. What is
read back are the issues that were written, but for an empty status, which becomes the default one,
and for empty element ids, which are dropped.
-/

namespace RevitPy.Bcf
variable {δ : Type}

/-- A single BCF issue, with a creation date. -/
structure BcfIssue (δ : Type) where
  guid : String
  title : String := ""
  description : String := ""
  author : String := ""
  creation_date : δ
  status : String := "Open"
  assigned_to : String := ""
  element_ids : List String := []
  deriving DecidableEq

structure BcfError where
  message : String
  bcf_path : String

structure BcfManager (δ : Type) where
  _issues : List (BcfIssue δ) := []

/-- What `zipfile`, `ElementTree` and `datetime` do. An archive consists of names with data. -/
structure Libraries (δ : Type) where
  pack : List (String × Bytes) → Bytes
  unpack : Bytes → Except String (List (String × Bytes))
  tostring : Xml → String
  fromstring : String → Option Xml
  isoformat : δ → String
  fromisoformat : String → Option δ

/-- What is drawn while the files of an archive are read. -/
structure Draws (δ : Type) where
  uuid4 : Nat → String
  now : Nat → δ

/-- The files of a disk. -/
abbrev Disk := Dict String Bytes

section
variable (lib : Libraries δ)

/-- Serialize a BcfIssue to an XML Element. -/
def _issue_to_xml (issue : BcfIssue δ) : Xml :=
  .element "Markup" ∅ none [.element "Topic" (Dict.ofList [("Guid", issue.guid)]) none
    ([Xml.leaf "Title" issue.title, Xml.leaf "Description" issue.description, Xml.leaf "CreationAuthor" issue.author,
      Xml.leaf "CreationDate" (lib.isoformat issue.creation_date), Xml.leaf "TopicStatus" issue.status] ++
      (if issue.assigned_to ≠ "" then [Xml.leaf "AssignedTo" issue.assigned_to] else []) ++
      issue.element_ids.map (Xml.leaf "ReferenceLink"))]

/-- Extract text from a child element safely. -/
def _text (parent : Xml) (tag : String) (default : String := "") : String := match parent.find tag with
  | some child => match child.text with
    | some text => if text ≠ "" then text else default
    | none => default
  | none => default

/-- Deserialize a BcfIssue from XML string. -/
def _xml_to_issue (uuid4 : String) (now : δ) (xml_data : String) : Option (BcfIssue δ) := do
  let root ← lib.fromstring xml_data
  let topic ← root.find "Topic"
  let date_str := _text topic "CreationDate"
  some {
    guid := topic.attrib.getD "Guid" uuid4
    title := _text topic "Title"
    description := _text topic "Description"
    author := _text topic "CreationAuthor"
    creation_date := if date_str ≠ "" then (lib.fromisoformat date_str).getD now else now
    status := _text topic "TopicStatus" "Open"
    assigned_to := _text topic "AssignedTo"
    element_ids := (topic.findall "ReferenceLink").filterMap fun ref => ref.text.filter (· ≠ "") }

/-- `zf.read(name)`: the data of the last file with a name. -/
def read (files : List (String × Bytes)) (name : String) : Option Bytes := (Filing.last (fun file => some file.1) name files).map Prod.snd

/-- The issue of a file, or none, unless it cannot be decoded. -/
def read_file (draws : Draws δ) (files : List (String × Bytes)) (name : String) (i : Nat) : Except String (Option (BcfIssue δ)) :=
  match (read files name).bind Bytes.decode with
  | none => .error "invalid utf-8"
  | some xml_data => .ok (_xml_to_issue lib (draws.uuid4 i) (draws.now i) (String.ofList xml_data))

/-- `name.endswith("markup.xml")` -/
def is_markup (name : String) : Bool := "markup.xml".toList.isSuffixOf name.toList

/-- The issues of an archive. -/
def read_issues (draws : Draws δ) (data : Bytes) : Except String (List (BcfIssue δ)) := do
  let files ← lib.unpack data
  let found ← ((files.map Prod.fst).zipIdx.filter fun entry => is_markup entry.1).mapM fun entry => read_file lib draws files entry.1 entry.2
  return found.filterMap id

/-- Read issues from a BCF ZIP archive. -/
def _read_zip (m : BcfManager δ) (draws : Draws δ) (path : String) (data : Bytes) : Except BcfError (List (BcfIssue δ) × BcfManager δ) :=
  match read_issues lib draws data with
  | .error exc => .error ⟨"Failed to read BCF ZIP: " ++ exc, path⟩
  | .ok issues => .ok (issues, { m with _issues := m._issues ++ issues })

/-- Write BCF issues to a file. -/
def write_bcf (m : BcfManager δ) (disk : Disk) (issues : Option (List (BcfIssue δ)) := none) (path : String := "issues.bcf") :
    Except BcfError (String × Disk) :=
  let issues := issues.getD m._issues
  if issues = [] then .error ⟨"No BCF issues to write", path⟩
  else .ok (path, disk.set path (lib.pack (issues.map fun issue =>
    (issue.guid ++ "/markup.xml", Bytes.encode (lib.tostring (_issue_to_xml lib issue)).toList))))

/-- Read BCF issues from a file, where `_read_json` reads those of JSON files. -/
def read_bcf (u : CaseTable) (_read_json : String → Bytes → Except BcfError (List (BcfIssue δ) × BcfManager δ)) (m : BcfManager δ)
    (draws : Draws δ) (disk : Disk) (path : String) : Except BcfError (List (BcfIssue δ) × BcfManager δ) :=
  match disk.get? path with
  | none => .error ⟨"BCF file not found: " ++ path, path⟩
  | some data =>
    let suffix := u.lower (String.ofList (PosixPath.parse path).suffix)
    if suffix = ".json" then _read_json path data
    else if suffix ∈ [".bcf", ".bcfzip", ".zip"] then _read_zip lib m draws path data
    else .error ⟨"Unsupported BCF file format: " ++ suffix, path⟩

end

/-! ## What the libraries promise -/

/-- The name and the data of the file of an issue. -/
def file (lib : Libraries δ) (issue : BcfIssue δ) : String × Bytes :=
  (issue.guid ++ "/markup.xml", Bytes.encode (lib.tostring (_issue_to_xml lib issue)).toList)

/-- For the files of some issues: archives keep files with different names, written elements are parsed
    again where XML carries what they hold, and dates are read from their texts. -/
structure Libraries.Faithful (lib : Libraries δ) (issues : List (BcfIssue δ)) : Prop where
  unpack_pack : ((issues.map (file lib)).map Prod.fst).Nodup → (∀ f ∈ issues.map (file lib), Xml.TextCarried f.1) →
    lib.unpack (lib.pack (issues.map (file lib))) = .ok (issues.map (file lib))
  fromstring_tostring : ∀ issue ∈ issues, (_issue_to_xml lib issue).Carried →
    lib.fromstring (lib.tostring (_issue_to_xml lib issue)) = some (_issue_to_xml lib issue).parsed
  isoformat_carried : ∀ issue ∈ issues, Xml.TextCarried (lib.isoformat issue.creation_date)
  fromisoformat_isoformat : ∀ issue ∈ issues, lib.fromisoformat (lib.isoformat issue.creation_date) = some issue.creation_date
  fromisoformat_empty : lib.fromisoformat "" = none

/-- The texts of an issue consist of characters that XML carries. -/
structure BcfIssue.Carried (issue : BcfIssue δ) : Prop where
  guid : Xml.TextCarried issue.guid
  title : Xml.TextCarried issue.title
  description : Xml.TextCarried issue.description
  author : Xml.TextCarried issue.author
  status : Xml.TextCarried issue.status
  assigned_to : Xml.TextCarried issue.assigned_to
  element_ids : ∀ id ∈ issue.element_ids, Xml.TextCarried id

/-- What comes back of an issue. -/
def BcfIssue.kept (issue : BcfIssue δ) : BcfIssue δ where
  guid := issue.guid
  title := issue.title
  description := issue.description
  author := issue.author
  creation_date := issue.creation_date
  status := if issue.status ≠ "" then issue.status else "Open"
  assigned_to := issue.assigned_to
  element_ids := issue.element_ids.filter (· ≠ "")

theorem BcfIssue.kept_eq_iff (issue : BcfIssue δ) : issue.kept = issue ↔ issue.status ≠ "" ∧ "" ∉ issue.element_ids := by
  constructor
  · intro same
    have status := congrArg BcfIssue.status same
    have ids := congrArg BcfIssue.element_ids same
    refine ⟨fun empty => ?_, fun member => ?_⟩
    · simp [kept, empty] at status
    · exact of_decide_eq_true (List.filter_eq_self.mp ids "" member) rfl
  · rintro ⟨status, ids⟩
    have all : issue.element_ids.filter (· ≠ "") = issue.element_ids :=
      List.filter_eq_self.mpr fun id member => decide_eq_true fun empty => ids (empty ▸ member)
    rw [kept, if_pos status, all]

/-! ## One issue -/

/-- An empty text is read as a missing one. -/
theorem text_of_parsed (parent : Xml) (tag default : String) : _text parent.parsed tag default = _text parent tag default := by
  rw [_text, _text, Xml.find_parsed]
  cases parent.find tag with
  | none => rfl
  | some child =>
    simp only [Option.map_some, Xml.text_parsed]
    cases child.text with
    | none => rfl
    | some text => by_cases empty : text = "" <;> simp [Option.filter, empty]

theorem text_leaf (tag attrib text) (name content : String) (later : List Xml) (sought default : String) :
    _text (.element tag attrib text (Xml.leaf name content :: later)) sought default =
      if name = sought then (if content ≠ "" then content else default) else _text (.element tag attrib text later) sought default := by
  by_cases here : name = sought <;> simp [_text, Xml.find, Xml.children, here]

theorem text_of_others (tag attrib text) (contents : List String) {name sought : String} (other : name ≠ sought) (default : String) :
    _text (.element tag attrib text (contents.map (Xml.leaf name))) sought default = default := by
  have absent : (contents.map (Xml.leaf name)).find? (fun child => child.tag = sought) = none :=
    List.find?_eq_none.mpr fun child member => by
      obtain ⟨_, -, rfl⟩ := List.mem_map.mp member
      simp [other]
  rw [_text, Xml.find, Xml.children, absent]

/-- The topic of an issue. -/
def topic (lib : Libraries δ) (issue : BcfIssue δ) : Xml :=
  .element "Topic" (Dict.ofList [("Guid", issue.guid)]) none
    (Xml.leaf "Title" issue.title :: Xml.leaf "Description" issue.description :: Xml.leaf "CreationAuthor" issue.author ::
      Xml.leaf "CreationDate" (lib.isoformat issue.creation_date) :: Xml.leaf "TopicStatus" issue.status ::
      ((if issue.assigned_to ≠ "" then [Xml.leaf "AssignedTo" issue.assigned_to] else []) ++ issue.element_ids.map (Xml.leaf "ReferenceLink")))

theorem findall_topic (lib : Libraries δ) (issue : BcfIssue δ) :
    (topic lib issue).findall "ReferenceLink" = issue.element_ids.map (Xml.leaf "ReferenceLink") := by
  have all : (issue.element_ids.map (Xml.leaf "ReferenceLink")).filter (fun child => child.tag = "ReferenceLink") =
      issue.element_ids.map (Xml.leaf "ReferenceLink") :=
    List.filter_eq_self.mpr fun child member => by
      obtain ⟨_, -, rfl⟩ := List.mem_map.mp member
      rfl
  have unassigned : ((if issue.assigned_to ≠ "" then [Xml.leaf "AssignedTo" issue.assigned_to] else []).filter fun child => child.tag = "ReferenceLink") = [] := by
    split <;> rfl
  simp only [topic, Xml.findall, Xml.children, List.filter_cons, List.filter_append, all, unassigned]
  rfl

theorem filterMap_texts (name : String) (ids : List String) :
    ((ids.map (Xml.leaf name)).map Xml.parsed).filterMap (fun ref => ref.text.filter (· ≠ "")) = ids.filter (· ≠ "") := by
  induction ids with
  | nil => rfl
  | cons id ids ih =>
    have text : (Xml.leaf name id).parsed.text = (some id).filter (· ≠ "") := Xml.text_parsed _
    rw [List.map_cons, List.map_cons, List.filterMap_cons, List.filter_cons, ih, text]
    by_cases empty : id = "" <;> simp [Option.filter, empty]

section
variable {lib : Libraries δ} {issues : List (BcfIssue δ)} (faithful : lib.Faithful issues) {issue : BcfIssue δ} (member : issue ∈ issues)
  (carried : issue.Carried)
include faithful member carried

theorem issue_to_xml_carried : (_issue_to_xml lib issue).Carried := by
  refine .element (by decide) (by simp) (by simp) fun topic only => ?_
  rw [List.mem_singleton.mp only]
  refine .element (by decide) (fun item listed => ?_) (by simp) fun child below => ?_
  · rw [Dict.entries_ofList (by simp), List.mem_singleton] at listed
    subst listed
    exact ⟨(by decide : "Guid" ≠ ""), (by decide : "Guid".toList.all Char.isAlpha = true), carried.guid⟩
  · simp only [List.mem_append, List.mem_cons, List.not_mem_nil, or_false, List.mem_map] at below
    rcases below with ((rfl | rfl | rfl | rfl | rfl) | assigned) | ⟨id, listed, rfl⟩
    · exact Xml.leaf_carried (by decide) carried.title
    · exact Xml.leaf_carried (by decide) carried.description
    · exact Xml.leaf_carried (by decide) carried.author
    · exact Xml.leaf_carried (by decide) (faithful.isoformat_carried issue member)
    · exact Xml.leaf_carried (by decide) carried.status
    · split at assigned
      · rw [List.mem_singleton.mp assigned]
        exact Xml.leaf_carried (by decide) carried.assigned_to
      · cases assigned
    · exact Xml.leaf_carried (by decide) (carried.element_ids id listed)

/-- The issue that is read from what was written. -/
theorem xml_to_issue_to_xml (uuid4 : String) (now : δ) :
    _xml_to_issue lib uuid4 now (lib.tostring (_issue_to_xml lib issue)) = some issue.kept := by
  have dated : lib.isoformat issue.creation_date ≠ "" := fun empty => by
    have read := faithful.fromisoformat_isoformat issue member
    rw [empty, faithful.fromisoformat_empty] at read
    cases read
  rw [_xml_to_issue, faithful.fromstring_tostring issue member (issue_to_xml_carried faithful member carried), Option.bind_eq_bind, Option.bind_some, Xml.find_parsed]
  have found : (_issue_to_xml lib issue).find "Topic" = some (topic lib issue) := rfl
  have guid : (topic lib issue).parsed.attrib.getD "Guid" uuid4 = issue.guid := rfl
  have empty_default (text : String) : (if text ≠ "" then text else "") = text := by by_cases empty : text = "" <;> simp [empty]
  have assigned : _text (topic lib issue) "AssignedTo" = issue.assigned_to := by
    by_cases unassigned : issue.assigned_to = ""
    · simp [topic, text_leaf, unassigned, text_of_others]
    · simp [topic, text_leaf, unassigned]
  have ids : ((topic lib issue).parsed.findall "ReferenceLink").filterMap (fun ref => ref.text.filter (· ≠ "")) = issue.element_ids.filter (· ≠ "") := by
    rw [Xml.findall_parsed, findall_topic, filterMap_texts]
  simp only [found, Option.map_some, Option.bind_some, guid, text_of_parsed, assigned, ids]
  simp [topic, text_leaf, empty_default, dated, faithful.fromisoformat_isoformat issue member, BcfIssue.kept]

end

/-! ## All issues -/

theorem is_markup_file (lib : Libraries δ) (issue : BcfIssue δ) : is_markup (file lib issue).1 = true := by
  have suffix : "markup.xml".toList <:+ issue.guid.toList ++ "/markup.xml".toList := ⟨issue.guid.toList ++ ['/'], by simp⟩
  rw [is_markup, file, String.toList_append]
  exact List.isSuffixOf_iff_suffix.mpr suffix

section
variable {lib : Libraries δ} {issues : List (BcfIssue δ)} (faithful : lib.Faithful issues) (draws : Draws δ)

theorem names_distinct (distinct : (issues.map BcfIssue.guid).Nodup) : ((issues.map (file lib)).map Prod.fst).Nodup := by
  have names : (issues.map (file lib)).map Prod.fst = (issues.map BcfIssue.guid).map (· ++ "/markup.xml") := by simp [file, Function.comp_def]
  rw [names]
  exact distinct.map fun a b same => String.append_left_inj _ |>.mp same

include faithful

theorem read_file_of_packed (distinct : (issues.map BcfIssue.guid).Nodup) {issue : BcfIssue δ} (member : issue ∈ issues)
    (carried : issue.Carried) (i : Nat) : read_file lib draws (issues.map (file lib)) (file lib issue).1 i = .ok (some issue.kept) := by
  have identified : Filing.Identified (fun f : String × Bytes => some f.1) (issues.map (file lib)) := by
    refine ⟨fun f _ => ⟨f.1, rfl⟩, ?_⟩
    have names : ((issues.map (file lib)).map Prod.fst).Nodup := names_distinct distinct
    have optional := names.map (Option.some_injective _)
    rwa [List.map_map] at optional
  have found : Filing.last (fun f : String × Bytes => some f.1) (file lib issue).1 (issues.map (file lib)) = some (file lib issue) :=
    (Filing.last_eq_first identified fun _ _ misfiled => absurd rfl misfiled).trans
      ((Filing.first_eq_some_iff identified _ _).mpr ⟨List.mem_map_of_mem member, rfl⟩)
  have decoded : (read (issues.map (file lib)) (file lib issue).1).bind Bytes.decode = some (lib.tostring (_issue_to_xml lib issue)).toList := by
    rw [read, found]
    exact Bytes.decode_encode _
  rw [read_file, decoded]
  simp only [String.ofList_toList, xml_to_issue_to_xml faithful member carried]

theorem read_issues_pack (distinct : (issues.map BcfIssue.guid).Nodup) (carried : ∀ issue ∈ issues, issue.Carried) :
    read_issues lib draws (lib.pack (issues.map (file lib))) = .ok (issues.map BcfIssue.kept) := by
  have named : ∀ f ∈ issues.map (file lib), Xml.TextCarried f.1 := by
    intro f member
    obtain ⟨issue, listed, rfl⟩ := List.mem_map.mp member
    intro c letter
    rw [file, String.toList_append, List.mem_append] at letter
    rcases letter with letter | letter
    · exact (carried issue listed).guid c letter
    · exact List.all_eq_true.mp (by decide : "/markup.xml".toList.all Xml.carries = true) c letter
  -- the files are read one after the other, and each among all of them
  have all (some_issues : List (BcfIssue δ)) (listed : ∀ issue ∈ some_issues, issue ∈ issues) (k : Nat) :
      ((((some_issues.map (file lib)).map Prod.fst).zipIdx k).filter fun entry => is_markup entry.1).mapM
        (fun entry => read_file lib draws (issues.map (file lib)) entry.1 entry.2) = .ok (some_issues.map fun issue => some issue.kept) := by
    induction some_issues generalizing k with
    | nil => rfl
    | cons issue later ih =>
      have here := read_file_of_packed faithful draws distinct (listed issue List.mem_cons_self) (carried issue (listed issue List.mem_cons_self)) k
      rw [List.map_cons, List.map_cons, List.zipIdx_cons, List.filter_cons, if_pos (is_markup_file lib issue), List.mapM_cons, here,
        ih (fun other member => listed other (List.mem_cons_of_mem _ member)) (k + 1)]
      rfl
  rw [read_issues, faithful.unpack_pack (names_distinct distinct) named]
  have read := all issues (fun _ member => member) 0
  simp only [bind, Except.bind] at read ⊢
  rw [read]
  simp [pure, Except.pure, List.filterMap_map]

end

/-- What is written at a path is read from it again. -/
def RoundTrip (lib : Libraries δ) (u : CaseTable) (_read_json : String → Bytes → Except BcfError (List (BcfIssue δ) × BcfManager δ))
    (writer reader : BcfManager δ) (draws : Draws δ) (disk : Disk) (issues : List (BcfIssue δ)) (path : String) : Prop :=
  ∃ written disk' reader', write_bcf lib writer disk (some issues) path = .ok (written, disk') ∧
    read_bcf lib u _read_json reader draws disk' written = .ok (issues, reader')

section
variable (lib : Libraries δ) (u : CaseTable) (_read_json : String → Bytes → Except BcfError (List (BcfIssue δ) × BcfManager δ))
  (writer reader : BcfManager δ) (draws : Draws δ) (disk : Disk) (issues : List (BcfIssue δ)) (path : String) (faithful : lib.Faithful issues)
  (some_issues : issues ≠ []) (distinct : (issues.map BcfIssue.guid).Nodup) (carried : ∀ issue ∈ issues, issue.Carried)
  (supported : u.lower (String.ofList (PosixPath.parse path).suffix) ∈ [".bcf", ".bcfzip", ".zip"])
include faithful some_issues distinct carried supported

theorem round_trip_iff_kept : RoundTrip lib u _read_json writer reader draws disk issues path ↔ issues.map BcfIssue.kept = issues := by
  have not_json : u.lower (String.ofList (PosixPath.parse path).suffix) ≠ ".json" := fun json => by simp [json] at supported
  have written : write_bcf lib writer disk (some issues) path = .ok (path, disk.set path (lib.pack (issues.map (file lib)))) := if_neg some_issues
  have returned : read_bcf lib u _read_json reader draws (disk.set path (lib.pack (issues.map (file lib)))) path =
      .ok (issues.map BcfIssue.kept, { reader with _issues := reader._issues ++ issues.map BcfIssue.kept }) := by
    simp only [read_bcf, Dict.get?_set_self, if_neg not_json, if_pos supported, _read_zip, read_issues_pack faithful draws distinct carried]
  constructor
  · rintro ⟨_, _, reader', wrote, read⟩
    cases written.symm.trans wrote
    exact congrArg Prod.fst (Except.ok.inj (returned.symm.trans read))
  · intro same
    rw [same] at returned
    exact ⟨path, _, _, written, returned⟩

/-- The issues come back exactly when each has a status and no element id is empty. -/
theorem bcf_round_trip_iff :
    RoundTrip lib u _read_json writer reader draws disk issues path ↔ ∀ issue ∈ issues, issue.status ≠ "" ∧ "" ∉ issue.element_ids := by
  have each : issues.map BcfIssue.kept = issues.map id ↔ ∀ issue ∈ issues, issue.kept = id issue := List.map_inj_left
  rw [List.map_id] at each
  exact (round_trip_iff_kept lib u _read_json writer reader draws disk issues path faithful some_issues distinct carried supported).trans
    (each.trans (forall₂_congr fun issue _ => issue.kept_eq_iff))

end

/-! ## Two issues -/

/-- Dates that are their texts. -/
def dates : Libraries String where
  pack _ := []
  unpack _ := .error "File is not a zip file"
  tostring _ := ""
  fromstring _ := none
  isoformat date := date
  fromisoformat text := if text = "" then none else some text

/-- Libraries for one issue with the text of its element. -/
def library (issue : BcfIssue String) (xml_data : String) : Libraries String where
  __ := dates
  pack _ := [0x50, 0x4b, 0x03, 0x04]
  unpack _ := .ok [(issue.guid ++ "/markup.xml", Bytes.encode xml_data.toList)]
  tostring _ := xml_data
  fromstring text := if text = xml_data then some (_issue_to_xml dates issue).parsed else none

def noted (status : String) : BcfIssue String where
  guid := "b7e1"
  title := "Gap"
  author := "planner"
  creation_date := "2024-05-01T12:00:00"
  status
  element_ids := ["W1"]

def markup (status_element : String) : String :=
  "<Markup><Topic Guid=\"b7e1\"><Title>Gap</Title><Description /><CreationAuthor>planner</CreationAuthor>" ++
  "<CreationDate>2024-05-01T12:00:00</CreationDate>" ++ status_element ++ "<ReferenceLink>W1</ReferenceLink></Topic></Markup>"

theorem library_faithful (issue : BcfIssue String) (xml_data : String) (dated : issue.creation_date ≠ "") (carried : Xml.TextCarried issue.creation_date) :
    (library issue xml_data).Faithful [issue] where
  unpack_pack _ _ := rfl
  fromstring_tostring other member _ := by
    rw [List.mem_singleton.mp member]
    exact if_pos rfl
  isoformat_carried other member := by
    rw [List.mem_singleton.mp member]
    exact carried
  fromisoformat_isoformat other member := by
    rw [List.mem_singleton.mp member]
    exact if_neg dated
  fromisoformat_empty := rfl

theorem carried_of_all (text : String) (all : text.toList.all Xml.carries = true) : Xml.TextCarried text := List.all_eq_true.mp all

theorem noted_faithful (status status_element : String) : (library (noted status) (markup status_element)).Faithful [noted status] :=
  library_faithful _ _ (by decide : "2024-05-01T12:00:00" ≠ "") (carried_of_all "2024-05-01T12:00:00" (by decide))

theorem noted_carried (status : String) (carried : Xml.TextCarried status) : ∀ issue ∈ [noted status], issue.Carried := by
  intro issue member
  rw [List.mem_singleton.mp member]
  refine ⟨carried_of_all "b7e1" (by decide), carried_of_all "Gap" (by decide), nofun, carried_of_all "planner" (by decide), carried, nofun, ?_⟩
  intro id listed
  rw [List.mem_singleton.mp listed]
  exact carried_of_all "W1" (by decide)

def draws : Draws String := ⟨fun _ => "0", fun _ => "2025-01-01T00:00:00"⟩

theorem noted_round_trip : RoundTrip (library (noted "Closed") (markup "<TopicStatus>Closed</TopicStatus>")) .ascii (fun path _ => .error ⟨"", path⟩)
    ⟨[]⟩ ⟨[]⟩ draws ∅ [noted "Closed"] "issues.bcf" :=
  (bcf_round_trip_iff _ _ _ _ _ _ _ _ _ (noted_faithful "Closed" "<TopicStatus>Closed</TopicStatus>") (by decide) (by decide)
    (noted_carried "Closed" (carried_of_all "Closed" (by decide))) (by decide)).mpr (by decide)

/-- An issue without a status comes back as an open one. -/
theorem status_replaced : ¬∀ (lib : Libraries String) (u : CaseTable) (_read_json : String → Bytes → Except BcfError (List (BcfIssue String) × BcfManager String))
    (writer reader : BcfManager String) (draws : Draws String) (disk : Disk) (issues : List (BcfIssue String)) (path : String), lib.Faithful issues →
    issues ≠ [] → (issues.map BcfIssue.guid).Nodup → (∀ issue ∈ issues, issue.Carried) →
    u.lower (String.ofList (PosixPath.parse path).suffix) ∈ [".bcf", ".bcfzip", ".zip"] →
    RoundTrip lib u _read_json writer reader draws disk issues path := by
  intro law
  have faithful := noted_faithful "" "<TopicStatus />"
  have carried := noted_carried "" nofun
  have same := (round_trip_iff_kept _ .ascii (fun path _ => .error ⟨"", path⟩) ⟨[]⟩ ⟨[]⟩ draws ∅ _ "issues.bcf" faithful (by decide) (by decide) carried
    (by decide)).mp (law _ _ _ _ _ _ _ _ _ faithful (by decide) (by decide) carried (by decide))
  exact absurd same (by decide)

end RevitPy.Bcf
