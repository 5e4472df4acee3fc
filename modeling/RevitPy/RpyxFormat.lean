import Mathlib.Data.List.Nodup
import RevitPy.PosixPaths

/-!
# Packages in the rpyx format

The builder leaves out files by patterns that it matches against the last component of
their paths. The extractor leaves out entries by the first characters of their names. What
comes out of a package is what went in where both leave out the same files.
-/

namespace RevitPy
open PosixPath
variable {β : Type}

/-! ## Patterns -/

/-- `fnmatch` for patterns whose only special character is the star. -/
def fnmatch : List Char → List Char → Bool
  | [], name => name.isEmpty
  | c :: pattern, name =>
    if c = '*' then name.tails.any (fnmatch pattern)
    else match name with
      | d :: name => c = d && fnmatch pattern name
      | [] => false

def skip_patterns (include_dev : Bool) : List String :=
  if include_dev then [".git*", "__pycache__*", "*.pyc", "*.pyo"]
  else [".git*", "__pycache__*", "*.pyc", "*.pyo", ".DS_Store", "Thumbs.db", "*.tmp", "*.log"]

/-- A name matches one of the patterns. -/
def skips (include_dev : Bool) (part : PathComponent) : Bool :=
  (skip_patterns include_dev).any fun pattern => fnmatch pattern.toList part.text

/-! ## Files -/

/-- The path of a file, from the directory in which it is looked at. -/
abbrev RelativePath := List PathComponent

/-- The files below a directory, in the order in which `rglob` finds them. -/
structure SourceTree (β : Type) where
  files : List (RelativePath × β)
  named : ∀ file ∈ files, file.1 ≠ []
  ordinary : ∀ file ∈ files, dotdot ∉ file.1
  distinct : (files.map Prod.fst).Nodup

/-- `str(path)`: the components with slashes between them. -/
def path_name (path : RelativePath) : List Char := ['/'].intercalate (path.map PathComponent.text)

/-- An entry of an archive: its name and its bytes. -/
abbrev ArchiveEntry (β : Type) := List Char × β

/-! ## Builder -/

def contains (text part : String) : Bool := text.toList.tails.any fun tail => part.toList.isPrefixOf tail

/-- `PurePath.match` for patterns of one component. -/
def is_skipped (include_dev : Bool) (path : RelativePath) : Bool := path.getLast?.any (skips include_dev)

/-- Build the .rpyx package. `issues` are those that `validate_structure` finds, the
    manifest and the build metadata are the JSON texts that are written. -/
def build_package (tree : SourceTree β) (manifest : Option β) (issues : List String) (build_metadata : β) (include_dev : Bool) :
    Except String (List (ArchiveEntry β)) :=
  match manifest with
  | none => .error "No manifest loaded. Call load_manifest() first."
  | some manifest_json =>
    let critical_issues := issues.filter fun issue => contains issue "Missing required"
    if critical_issues ≠ [] then .error ("Package validation failed: " ++ "; ".intercalate critical_issues)
    else
      let included := tree.files.filter fun file => !is_skipped include_dev file.1
      .ok (("rpyx-manifest.json".toList, manifest_json) :: included.map (fun file => (path_name file.1, file.2)) ++
        [("rpyx-build.json".toList, build_metadata)])

/-! ## Extractor -/

/-- Writing a file replaces what stands at its path. -/
def write_file (directory : List (RelativePath × β)) (file : RelativePath × β) : List (RelativePath × β) :=
  directory.filter (fun other => other.1 ≠ file.1) ++ [file]

def is_dir (name : List Char) : Bool := name.getLast? = some '/'

/-- Where `ZipFile.extract` writes an entry; it leaves out components that lead up. -/
def extract_path (name : List Char) : RelativePath := (components name).filter fun part => part ≠ dotdot

/-- Extract package to destination directory, of which the files are given. -/
def extract_to (archive : List (ArchiveEntry β)) (destination : List (RelativePath × β)) (overwrite : Bool) :
    Except String (List (RelativePath × β)) :=
  if destination ≠ [] ∧ overwrite = false then .error "Destination directory not empty"
  else
    let extracted := archive.filter fun entry => !is_dir entry.1 && !"rpyx-".toList.isPrefixOf entry.1
    .ok ((extracted.map fun entry => (extract_path entry.1, entry.2)).foldl write_file destination)

/-! ## Names of entries -/

variable {path : RelativePath}

theorem component_text (part : PathComponent) : component? part.text = some part :=
  dif_pos ⟨part.nonempty, part.not_dot, part.no_slash⟩

theorem splitOn_path_name (named : path ≠ []) : (path_name path).splitOn '/' = path.map PathComponent.text := by
  refine List.splitOn_intercalate '/' ?_ (by simpa using named)
  intro text member
  obtain ⟨part, _, rfl⟩ := List.mem_map.mp member
  exact part.no_slash

theorem components_path_name (named : path ≠ []) : components (path_name path) = path := by
  rw [components, splitOn_path_name named, List.filterMap_map]
  have same : component? ∘ PathComponent.text = some := funext component_text
  rw [same, List.filterMap_some]

theorem extract_path_name (named : path ≠ []) (ordinary : dotdot ∉ path) : extract_path (path_name path) = path := by
  rw [extract_path, components_path_name named, List.filter_eq_self]
  intro part member
  have other : part ≠ dotdot := fun same => ordinary (same ▸ member)
  simpa using other

/-- The name of a file does not end with a slash. -/
theorem is_dir_path_name (named : path ≠ []) : is_dir (path_name path) = false := by
  refine decide_eq_false fun slash => ?_
  obtain ⟨before, ends⟩ := List.getLast?_eq_some_iff.mp slash
  have texts := splitOn_path_name named
  rw [ends, List.splitOn_append_cons_self, List.splitOn_nil] at texts
  have empty : [] ∈ path.map PathComponent.text := texts ▸ List.mem_append_right _ (List.mem_singleton_self [])
  obtain ⟨part, _, none⟩ := List.mem_map.mp empty
  exact part.nonempty none

theorem path_name_cons (part : PathComponent) (rest : RelativePath) :
    path_name (part :: rest) = part.text ∨ ∃ more, path_name (part :: rest) = part.text ++ '/' :: more := by
  cases rest with
  | nil => exact .inl (by simp [path_name])
  | cons next rest => exact .inr ⟨path_name (next :: rest), by simp [path_name, List.intercalate]⟩

theorem prefix_of_prefix_append_slash {start text more : List Char} (no_slash : '/' ∉ start) (begins : start <+: text ++ '/' :: more) :
    start <+: text := by
  rcases List.prefix_or_prefix_of_prefix begins (List.prefix_append text ('/' :: more)) with short | ⟨tail, rfl⟩
  · exact short
  · cases tail with
    | nil => simp
    | cons c tail =>
      rw [List.prefix_append_right_inj, List.cons_prefix_cons] at begins
      exact absurd (List.mem_append_right text (begins.1 ▸ List.mem_cons_self)) no_slash

/-- At the root, or below a directory at the root, whose name begins as those of the
    metadata do. -/
def is_reserved (path : RelativePath) : Bool := path.head?.any fun part => "rpyx-".toList.isPrefixOf part.text

theorem reserved_path_name (named : path ≠ []) : "rpyx-".toList.isPrefixOf (path_name path) = is_reserved path := by
  obtain ⟨part, rest, rfl⟩ := List.exists_cons_of_ne_nil named
  rw [Bool.eq_iff_iff, List.isPrefixOf_iff_prefix]
  show _ ↔ "rpyx-".toList.isPrefixOf part.text = true
  rw [List.isPrefixOf_iff_prefix]
  rcases path_name_cons part rest with same | ⟨more, same⟩
  · rw [same]
  · rw [same]
    exact ⟨prefix_of_prefix_append_slash (by decide), fun begins => begins.trans (List.prefix_append _ _)⟩

/-! ## Round trip -/

theorem foldl_write_file {directory files : List (RelativePath × β)} (distinct : ((directory ++ files).map Prod.fst).Nodup) :
    files.foldl write_file directory = directory ++ files := by
  induction files generalizing directory with
  | nil => simp
  | cons file rest ih =>
    have fresh : directory.filter (fun other => other.1 ≠ file.1) = directory := by
      rw [List.filter_eq_self]
      intro other member
      rw [List.map_append, List.nodup_append] at distinct
      simpa using distinct.2.2 other.1 (List.mem_map_of_mem member) file.1 (by simp)
    have written : write_file directory file = directory ++ [file] := by rw [write_file, fresh]
    rw [List.foldl_cons, written, ih (by simpa using distinct)]
    simp

/-- An entry that the extractor writes. -/
def is_extracted (entry : ArchiveEntry β) : Bool := !is_dir entry.1 && !"rpyx-".toList.isPrefixOf entry.1

/-- Of the entries of files, the extractor leaves out those with reserved paths. -/
theorem extracted_entries {files : List (RelativePath × β)} (named : ∀ file ∈ files, file.1 ≠ []) (ordinary : ∀ file ∈ files, dotdot ∉ file.1) :
    ((files.map fun file => (path_name file.1, file.2)).filter is_extracted).map (fun entry => (extract_path entry.1, entry.2)) =
      files.filter fun file => !is_reserved file.1 := by
  induction files with
  | nil => rfl
  | cons file rest ih =>
    have here : file.1 ≠ [] := named file List.mem_cons_self
    have later := ih (fun other member => named other (List.mem_cons_of_mem _ member)) fun other member => ordinary other (List.mem_cons_of_mem _ member)
    have kept : is_extracted (path_name file.1, file.2) = !is_reserved file.1 := by
      simp only [is_extracted, is_dir_path_name here, reserved_path_name here, Bool.not_false, Bool.true_and]
    rw [List.map_cons, List.filter_cons, List.filter_cons, kept]
    split
    · rw [List.map_cons, later, extract_path_name here (ordinary file List.mem_cons_self)]
    · exact later

/-- What is extracted: the files that were included and whose paths are not reserved. -/
theorem extract_build (tree : SourceTree β) {manifest : Option β} {issues : List String} {build_metadata : β} {include_dev : Bool}
    {archive : List (ArchiveEntry β)} (built : build_package tree manifest issues build_metadata include_dev = .ok archive) (overwrite : Bool) :
    extract_to archive [] overwrite =
      .ok ((tree.files.filter fun file => !is_skipped include_dev file.1).filter fun file => !is_reserved file.1) := by
  unfold build_package at built
  split at built
  · cases built
  · next manifest_json =>
    simp only at built
    split at built
    · cases built
    · obtain rfl := Except.ok.inj built
      have manifest_left_out : is_extracted ("rpyx-manifest.json".toList, manifest_json) = false := rfl
      have metadata_left_out : is_extracted ("rpyx-build.json".toList, build_metadata) = false := rfl
      have entries := extracted_entries (fun file member => tree.named file (List.mem_of_mem_filter member))
        fun file member => tree.ordinary file (List.mem_of_mem_filter (p := fun file => !is_skipped include_dev file.1) member)
      rw [extract_to, if_neg (by simp)]
      show Except.ok ((List.filter is_extracted _).map _ |>.foldl write_file []) = _
      rw [List.filter_append, List.filter_cons, manifest_left_out, List.filter_cons, metadata_left_out, List.filter_nil, if_neg Bool.false_ne_true,
        if_neg Bool.false_ne_true, List.append_nil, entries, foldl_write_file]
      · rfl
      · exact tree.distinct.sublist ((List.filter_sublist.trans List.filter_sublist).map _)

/-- The name of a file or of a directory above it matches a pattern. -/
def is_covered (include_dev : Bool) (path : RelativePath) : Bool := path.any (skips include_dev)

/-- Some directory above a file matches a pattern. -/
def is_below_skipped (include_dev : Bool) (path : RelativePath) : Bool := path.dropLast.any (skips include_dev)

theorem covered_eq (include_dev : Bool) (named : path ≠ []) :
    is_covered include_dev path = (is_below_skipped include_dev path || is_skipped include_dev path) := by
  rcases List.eq_nil_or_concat path with rfl | ⟨above, name, rfl⟩
  · exact absurd rfl named
  · simp [is_covered, is_below_skipped, is_skipped]

/-- A package extracted to an empty directory gives the files that are not covered. -/
def RoundTrip (tree : SourceTree β) (include_dev : Bool) (archive : List (ArchiveEntry β)) : Prop :=
  ∀ overwrite, ∃ extracted, extract_to archive [] overwrite = .ok extracted ∧
    ∀ file, file ∈ extracted ↔ file ∈ tree.files ∧ is_covered include_dev file.1 = false

def main_py : RelativePath := [⟨"main.py".toList, by decide, by decide, by decide⟩]

def git_config : RelativePath :=
  [⟨".git".toList, by decide, by decide, by decide⟩, ⟨"config".toList, by decide, by decide, by decide⟩]

def module_tree : SourceTree String where
  files := [(main_py, "import revitpy")]
  named := by decide
  ordinary := by decide
  distinct := by decide

def checkout : SourceTree String where
  files := [(main_py, "import revitpy"), (git_config, "[core]")]
  named := by decide
  ordinary := by decide
  distinct := by decide

end RevitPy
