import RevitPy.Names
import RevitPy.PosixPaths

/-!
# Files of cached packages

`cache_package` makes a path of whatever stands in a package's name and version. The file
lies in the cache exactly where neither of them begins a path of its own and their
components do not lead out of it.
-/

namespace RevitPy
open PosixPath

structure DesktopPackageCache where
  cache_dir : PosixPath
  packages_dir : PosixPath

namespace DesktopPackageCache

/-- The directories of a new cache manager. -/
def init (home : PosixPath) (cache_dir : Option String) : DesktopPackageCache :=
  let cache_dir := match cache_dir with
    | none | some "" => (home.join ".revitpy").join "cache"
    | some cache_dir => parse cache_dir
  { cache_dir, packages_dir := cache_dir.join "packages" }

variable (u : CaseTable)

/-- The path to which `cache_package` writes. -/
def file_path (cache : DesktopPackageCache) (package_name version : String) : PosixPath :=
  let package_dir := cache.packages_dir.join (normalize_name u package_name)
  package_dir.join (version ++ ".rpyx")

/-! ## Requests -/

/-- What `cache_package` is called with, as far as it decides about the path. -/
structure Request where
  package_name : String
  version : String

variable (cwd : Directory) (cache : DesktopPackageCache) (r : Request)

def Request.pair : String × String := (normalize_name u r.package_name, r.version)

/-- Where the file of a request is written. -/
def file : Directory := (cache.file_path u r.package_name r.version).location cwd

/-- Two requests write inside `packages_dir`, and different pairs write apart. -/
structure Separate (first second : Request) : Prop where
  first_inside : Inside (cache.packages_dir.location cwd) (cache.file u cwd first)
  second_inside : Inside (cache.packages_dir.location cwd) (cache.file u cwd second)
  apart : first.pair u ≠ second.pair u → cache.file u cwd first ≠ cache.file u cwd second

/-- The components below `packages_dir`. -/
def Request.parts : List PathComponent := (parse (normalize_name u r.package_name)).parts ++ (parse (r.version ++ ".rpyx")).parts

def packages : PathComponent := ⟨"packages".toList, by decide, by decide, by decide⟩

/-- Where a request leads, seen from the cache directory. -/
def Request.descent : Option Directory := descend [packages] (r.parts u)

/-- Neither name nor version is absolute, and their components lead from `packages_dir` to
    below it without leaving the cache directory. -/
structure Request.Confined : Prop where
  relative_name : (parse (normalize_name u r.package_name)).absolute = false
  relative_version : (parse (r.version ++ ".rpyx")).absolute = false
  below : ∃ rest, rest ≠ [] ∧ r.descent u = some (packages :: rest)

/-! ## Locations -/

variable {u cwd cache r}

theorem packages_location {home : PosixPath} {cache_dir : Option String} :
    (init home cache_dir).packages_dir.location cwd = (init home cache_dir).cache_dir.location cwd ++ [packages] :=
  location_join cwd _ "packages"

theorem file_of_relative (relative_name : (parse (normalize_name u r.package_name)).absolute = false)
    (relative_version : (parse (r.version ++ ".rpyx")).absolute = false) :
    cache.file u cwd r = (r.parts u).foldl enter (cache.packages_dir.location cwd) := by
  simp only [file, file_path, location_join, relative_name, relative_version, Request.parts, List.foldl_append, Bool.false_eq_true, ↓reduceIte]

theorem Request.Confined.file {home : PosixPath} {cache_dir : Option String} (confined : r.Confined u) {reached : Directory}
    (leads : r.descent u = some reached) :
    (init home cache_dir).file u cwd r = (init home cache_dir).cache_dir.location cwd ++ reached := by
  rw [file_of_relative confined.relative_name confined.relative_version, packages_location]
  exact foldl_enter_of_descend leads

/-- A confined request writes inside the cache, wherever this is. -/
theorem Request.Confined.inside {home : PosixPath} {cache_dir : Option String} (confined : r.Confined u) :
    Inside ((init home cache_dir).packages_dir.location cwd) ((init home cache_dir).file u cwd r) := by
  obtain ⟨rest, nonempty, leads⟩ := confined.below
  have split (above : Directory) : above ++ packages :: rest = above ++ [packages] ++ rest := List.append_cons _ _ _
  rw [confined.file leads, packages_location, split]
  constructor
  · exact List.prefix_append _ _
  · intro same
    exact nonempty (List.self_eq_append_right.mp same)

theorem exists_longer (parts : List PathComponent) : ∃ size, ∀ part ∈ parts, part.text.length ≤ size := by
  induction parts with
  | nil => exact ⟨0, by simp⟩
  | cons first rest ih =>
    obtain ⟨size, bound⟩ := ih
    refine ⟨max first.text.length size, fun part member => ?_⟩
    rcases List.mem_cons.mp member with rfl | later
    · exact Nat.le_max_left _ _
    · exact Nat.le_trans (bound part later) (Nat.le_max_right _ _)

/-- Some component is named nowhere. -/
theorem exists_unnamed (parts : List PathComponent) : ∃ part, part ∉ parts := by
  obtain ⟨size, bound⟩ := exists_longer parts
  refine ⟨⟨List.replicate (size + 2) 'x', by simp, by simp [List.replicate_succ], by simp⟩, fun member => ?_⟩
  have short : (List.replicate (size + 2) 'x').length ≤ size := bound _ member
  rw [List.length_replicate] at short
  omega

section
variable {part : PathComponent} (unnamed : part ∉ r.parts u)
include unnamed

/-- A file below a directory that the request does not name has no path of its own. -/
theorem relative_of_mem_file (below : part ∈ cache.file u cwd r) :
    (parse (normalize_name u r.package_name)).absolute = false ∧ (parse (r.version ++ ".rpyx")).absolute = false := by
  rw [Request.parts, List.mem_append, not_or] at unnamed
  rw [file, file_path, location_join, location_join] at below
  have relative_version : (parse (r.version ++ ".rpyx")).absolute = false := by
    cases absolute : (parse (r.version ++ ".rpyx")).absolute with
    | false => rfl
    | true =>
      rw [absolute, if_pos rfl] at below
      exact absurd below (not_mem_foldl_enter unnamed.2 List.not_mem_nil)
  refine ⟨?_, relative_version⟩
  cases absolute : (parse (normalize_name u r.package_name)).absolute with
  | false => rfl
  | true =>
    rw [relative_version, absolute, if_pos rfl, if_neg Bool.false_ne_true] at below
    exact absurd below (not_mem_foldl_enter unnamed.2 (not_mem_foldl_enter unnamed.1 List.not_mem_nil))

/-- A request whose file is inside a cache, below a directory that it does not name. -/
theorem confined_of_inside (apart : part ≠ packages) {home : PosixPath}
    (inside : Inside ((init home (some ".")).packages_dir.location [part]) ((init home (some ".")).file u [part] r)) : r.Confined u := by
  have here : (init home (some ".")).packages_dir.location [part] = [part] ++ [packages] := rfl
  rw [here] at inside
  obtain ⟨⟨rest, continues⟩, differs⟩ := inside
  have below : part ∈ (init home (some ".")).file u [part] r := by
    rw [← continues]
    simp
  obtain ⟨relative_name, relative_version⟩ := relative_of_mem_file unnamed below
  refine ⟨relative_name, relative_version, rest, ?_, ?_⟩
  · rintro rfl
    exact differs (by simpa using continues)
  · rw [file_of_relative relative_name relative_version, here] at continues below
    rcases leads : r.descent u with _ | reached
    · exact absurd below (not_mem_of_descend_none leads unnamed (by simpa using apart))
    · rw [foldl_enter_of_descend leads, List.append_assoc] at continues
      rw [← List.append_cancel_left continues]
      rfl

end

/-! ## Names and versions without slashes -/

variable (u r) in
/-- The normalized name is the name of a file, and the version has no slash. -/
structure Request.Plain : Prop where
  name : '/' ∉ (normalize_name u r.package_name).toList
  name_nonempty : (normalize_name u r.package_name).toList ≠ []
  name_not_dot : (normalize_name u r.package_name).toList ≠ ['.']
  name_not_dotdot : (normalize_name u r.package_name).toList ≠ ['.', '.']
  version : '/' ∉ r.version.toList

theorem parts_of_no_slash {s : String} (slash : '/' ∉ s.toList) (nonempty : s.toList ≠ []) (not_dot : s.toList ≠ ['.']) :
    ∃ part : PathComponent, part.text = s.toList ∧ (parse s).parts = [part] := by
  refine ⟨⟨s.toList, nonempty, not_dot, slash⟩, rfl, ?_⟩
  have proper : s.toList ≠ [] ∧ s.toList ≠ ['.'] ∧ '/' ∉ s.toList := ⟨nonempty, not_dot, slash⟩
  simp only [parse, components, List.splitOn_eq_singleton slash, List.filterMap_cons, List.filterMap_nil, component?, dif_pos proper]

theorem absolute_of_no_slash {s : String} (slash : '/' ∉ s.toList) : (parse s).absolute = false := by
  refine decide_eq_false fun first => slash ?_
  exact List.mem_of_mem_head? first

theorem version_no_slash (plain : r.Plain u) : '/' ∉ (r.version ++ ".rpyx").toList := by
  rw [String.toList_append, List.mem_append, not_or]
  exact ⟨plain.version, by decide⟩

theorem version_long : 5 ≤ (r.version ++ ".rpyx").toList.length := by
  rw [String.toList_append, List.length_append]
  exact Nat.le_add_left 5 _

/-- A plain request leads to a file of that name in a directory of that name. -/
theorem descent_of_plain (plain : r.Plain u) : ∃ name file : PathComponent,
    name.text = (normalize_name u r.package_name).toList ∧ file.text = (r.version ++ ".rpyx").toList ∧ r.descent u = some [packages, name, file] := by
  have long := version_long (r := r)
  have nonempty : (r.version ++ ".rpyx").toList ≠ [] := by
    intro none
    simp [none] at long
  have not_dot : (r.version ++ ".rpyx").toList ≠ ['.'] := by
    intro dot
    simp [dot] at long
  obtain ⟨name, name_text, name_parts⟩ := parts_of_no_slash plain.name plain.name_nonempty plain.name_not_dot
  obtain ⟨file, file_text, file_parts⟩ := parts_of_no_slash (version_no_slash plain) nonempty not_dot
  refine ⟨name, file, name_text, file_text, ?_⟩
  have name_not_up : name ≠ dotdot := by
    rintro rfl
    exact plain.name_not_dotdot name_text.symm
  have file_not_up : file ≠ dotdot := by
    rintro rfl
    rw [← file_text] at long
    exact absurd long (by decide)
  rw [Request.descent, Request.parts, name_parts, file_parts]
  simp [descend, name_not_up, file_not_up]

theorem confined_of_plain (plain : r.Plain u) : r.Confined u := by
  obtain ⟨name, file, _, _, leads⟩ := descent_of_plain plain
  exact ⟨absolute_of_no_slash plain.name, absolute_of_no_slash (version_no_slash plain), [name, file], by simp, leads⟩

/-- Plain requests for different pairs lead to different places. -/
theorem descents_apart_of_plain {other : Request} (plain : r.Plain u) (other_plain : other.Plain u) (different : r.pair u ≠ other.pair u) :
    r.descent u ≠ other.descent u := by
  obtain ⟨name, file, name_text, file_text, leads⟩ := descent_of_plain plain
  obtain ⟨other_name, other_file, other_name_text, other_file_text, other_leads⟩ := descent_of_plain other_plain
  rw [leads, other_leads]
  intro same
  obtain ⟨rfl, rfl⟩ : name = other_name ∧ file = other_file := by simpa using same
  have names : normalize_name u r.package_name = normalize_name u other.package_name :=
    String.toList_inj.mp (name_text.symm.trans other_name_text)
  have versions : (r.version ++ ".rpyx").toList = (other.version ++ ".rpyx").toList := file_text.symm.trans other_file_text
  rw [String.toList_append, String.toList_append, List.append_cancel_right_eq] at versions
  exact different (Prod.ext names (String.toList_inj.mp versions))

instance (directory file : Directory) : Decidable (Inside directory file) := inferInstanceAs (Decidable (_ ∧ _))

end DesktopPackageCache
end RevitPy
