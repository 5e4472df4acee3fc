import Mathlib.Data.List.Basic

/-!
# POSIX paths

A path is kept as its components. A relative path continues the path before it, an
absolute one replaces it, and `..` leads from a directory to the one above. Symbolic links
are left out.
-/

namespace RevitPy

/-- What can stand between two slashes of a path and means something. -/
structure PathComponent where
  text : List Char
  nonempty : text ≠ []
  not_dot : text ≠ ['.']
  no_slash : '/' ∉ text
deriving DecidableEq

/-- A path as it is kept: whether it begins at the root, and its components. -/
structure PosixPath where
  absolute : Bool
  parts : List PathComponent
deriving DecidableEq

namespace PosixPath

def component? (text : List Char) : Option PathComponent :=
  if proper : text ≠ [] ∧ text ≠ ['.'] ∧ '/' ∉ text then some ⟨text, proper.1, proper.2.1, proper.2.2⟩ else none

/-- The components between the slashes of a text. -/
def components (text : List Char) : List PathComponent := (text.splitOn '/').filterMap component?

/-- `Path(s)` -/
def parse (s : String) : PosixPath := ⟨s.toList.head? = some '/', components s.toList⟩

/-- `p / s` -/
def join (p : PosixPath) (s : String) : PosixPath :=
  let q := parse s
  if q.absolute then q else ⟨p.absolute, p.parts ++ q.parts⟩

def dotdot : PathComponent := ⟨['.', '.'], by decide, by decide, by decide⟩

/-- A directory, as the way from the root to it. -/
abbrev Directory := List PathComponent

/-- One component further. -/
def enter (directory : Directory) (part : PathComponent) : Directory :=
  if part = dotdot then directory.dropLast else directory ++ [part]

/-- Where a path leads. -/
def location (cwd : Directory) (p : PosixPath) : Directory := p.parts.foldl enter (if p.absolute then [] else cwd)

/-- One location lies properly below another. -/
def Inside (directory file : Directory) : Prop := directory <+: file ∧ directory ≠ file

/-- Where components lead from a directory below some other, unless they lead out of that
    one. -/
def descend : Directory → List PathComponent → Option Directory
  | directory, [] => some directory
  | directory, part :: rest =>
    if part = dotdot then if directory = [] then none else descend directory.dropLast rest
    else descend (directory ++ [part]) rest

variable {directory : Directory} {parts : List PathComponent} {part : PathComponent}

theorem location_join (cwd : Directory) (p : PosixPath) (s : String) :
    (p.join s).location cwd = (parse s).parts.foldl enter (if (parse s).absolute then [] else p.location cwd) := by
  by_cases absolute : (parse s).absolute = true
  · simp [join, location, absolute]
  · simp [join, location, absolute]

/-- Below a directory, components lead where they lead without it. -/
theorem foldl_enter_of_descend {above reached : Directory} (found : descend directory parts = some reached) :
    parts.foldl enter (above ++ directory) = above ++ reached := by
  induction parts generalizing directory with
  | nil =>
    obtain rfl := Option.some.inj found
    rfl
  | cons part rest ih =>
    unfold descend at found
    rw [List.foldl_cons, enter]
    by_cases up : part = dotdot
    · rw [if_pos up] at found ⊢
      split at found
      · cases found
      · next nonempty =>
        rw [List.dropLast_append_of_ne_nil nonempty]
        exact ih found
    · rw [if_neg up] at found ⊢
      rw [List.append_assoc]
      exact ih found

/-- What is named nowhere is not come to. -/
theorem not_mem_foldl_enter (unnamed : part ∉ parts) (outside : part ∉ directory) : part ∉ parts.foldl enter directory := by
  induction parts generalizing directory with
  | nil => exact outside
  | cons first rest ih =>
    rw [List.mem_cons, not_or] at unnamed
    refine ih unnamed.2 ?_
    unfold enter
    split
    · exact fun member => outside (List.dropLast_subset _ member)
    · intro member
      rcases List.mem_append.mp member with before | last
      · exact outside before
      · exact unnamed.1 (List.mem_singleton.mp last)

/-- Who has left a directory does not come back to it without its name. -/
theorem not_mem_of_descend_none (left : descend directory parts = none) (unnamed : part ∉ parts) (outside : part ∉ directory) :
    part ∉ parts.foldl enter (part :: directory) := by
  induction parts generalizing directory with
  | nil => cases left
  | cons first rest ih =>
    unfold descend at left
    rw [List.mem_cons, not_or] at unnamed
    rw [List.foldl_cons, enter]
    by_cases up : first = dotdot
    · rw [if_pos up] at left ⊢
      split at left
      · next empty =>
        subst empty
        exact not_mem_foldl_enter unnamed.2 List.not_mem_nil
      · next nonempty =>
        have shorter : (part :: directory).dropLast = part :: directory.dropLast := List.dropLast_cons_of_ne_nil nonempty
        rw [shorter]
        exact ih left unnamed.2 fun member => outside (List.dropLast_subset _ member)
    · rw [if_neg up] at left ⊢
      refine ih left unnamed.2 fun member => ?_
      rcases List.mem_append.mp member with before | last
      · exact outside before
      · exact unnamed.1 (List.mem_singleton.mp last)

/-! ## Names -/

/-- `p.name`, empty where the path has no components. -/
def name (p : PosixPath) : List Char := match p.parts.getLast? with
  | none => []
  | some part => part.text

/-- A name up to its last dot and from it on. A dot at the begin or at the end does not count. -/
def splitSuffix (name : List Char) : List Char × List Char :=
  let ext := (name.reverse.takeWhile (· ≠ '.')).reverse
  let stem := (name.reverse.dropWhile (· ≠ '.')).reverse.dropLast
  if stem = [] ∨ ext = [] then (name, []) else (stem, '.' :: ext)

/-- `p.stem` -/
def stem (p : PosixPath) : List Char := (splitSuffix p.name).1
/-- `p.suffix` -/
def suffix (p : PosixPath) : List Char := (splitSuffix p.name).2

/-- What stands behind the last slash. -/
def lastSegment (text : List Char) : List Char := (text.reverse.takeWhile (· ≠ '/')).reverse

theorem splitSuffix_append {stem ext : List Char} (some_stem : stem ≠ []) (some_ext : ext ≠ []) (last : '.' ∉ ext) :
    splitSuffix (stem ++ '.' :: ext) = (stem, '.' :: ext) := by
  have all : ∀ c ∈ ext.reverse, decide (c ≠ '.') = true := by
    intro c member
    simpa using fun same : c = '.' => last (same ▸ List.mem_reverse.mp member)
  have shape : (stem ++ '.' :: ext).reverse = ext.reverse ++ '.' :: stem.reverse := by simp
  have taken : (stem ++ '.' :: ext).reverse.takeWhile (· ≠ '.') = ext.reverse := by
    rw [shape, List.takeWhile_append_of_pos all]
    simp
  have dropped : (stem ++ '.' :: ext).reverse.dropWhile (· ≠ '.') = '.' :: stem.reverse := by
    rw [shape, List.dropWhile_append_of_pos all]
    simp
  simp only [splitSuffix, taken, dropped, List.reverse_reverse, List.reverse_cons, List.dropLast_concat]
  exact if_neg (by simp [some_stem, some_ext])

/-- A name whose only dot is its first character has no suffix. -/
theorem splitSuffix_hidden {ext : List Char} (last : '.' ∉ ext) : splitSuffix ('.' :: ext) = ('.' :: ext, []) := by
  have all : ∀ c ∈ ext.reverse, decide (c ≠ '.') = true := by
    intro c member
    simpa using fun same : c = '.' => last (same ▸ List.mem_reverse.mp member)
  have dropped : ('.' :: ext).reverse.dropWhile (· ≠ '.') = ['.'] := by
    rw [List.reverse_cons, List.dropWhile_append_of_pos all]
    simp
  simp only [splitSuffix, dropped]
  exact if_pos (by simp)

theorem slash_notMem_lastSegment (text : List Char) : '/' ∉ lastSegment text := by
  intro member
  have all := List.all_takeWhile (p := fun c => decide (c ≠ '/')) (l := text.reverse)
  simpa using List.all_eq_true.mp all '/' (List.mem_reverse.mp member)

theorem lastSegment_cases (text : List Char) : text = lastSegment text ∨ ∃ before, text = before ++ '/' :: lastSegment text := by
  have split := List.takeWhile_append_dropWhile (p := fun c => decide (c ≠ '/')) (l := text.reverse)
  cases rest : text.reverse.dropWhile fun c => decide (c ≠ '/') with
  | nil =>
    rw [rest, List.append_nil] at split
    exact Or.inl (by rw [lastSegment, split, List.reverse_reverse])
  | cons c before =>
    have slash : c = '/' := by
      have left : (text.reverse.dropWhile fun c => decide (c ≠ '/')) ≠ [] := by simp only [rest, ne_eq, reduceCtorEq, not_false_eq_true]
      have stops := List.head_dropWhile_not (fun c => decide (c ≠ '/')) left
      simp only [rest, List.head_cons] at stops
      simpa using stops
    refine Or.inr ⟨before.reverse, ?_⟩
    rw [rest, slash] at split
    rw [lastSegment, ← List.reverse_inj, List.reverse_append, List.reverse_cons, List.reverse_reverse, List.reverse_reverse,
      List.append_assoc, List.singleton_append, split]

theorem lastSegment_append_ne_nil (text : List Char) {c : Char} (other : c ≠ '/') : lastSegment (text ++ [c]) ≠ [] := by
  simp [lastSegment, other]

theorem component?_text (part : PathComponent) : component? part.text = some part := dif_pos ⟨part.nonempty, part.not_dot, part.no_slash⟩

theorem components_of_last {text : List Char} (split : text = part.text ∨ ∃ before, text = before ++ '/' :: part.text) :
    ∃ before, components text = before ++ [part] := by
  have single : ([part.text].filterMap component?) = [part] := by simp [component?_text]
  rcases split with rfl | ⟨before, rfl⟩
  · exact ⟨[], by rw [components, List.splitOn_eq_singleton part.no_slash, single]; rfl⟩
  · refine ⟨(before.splitOn '/').filterMap component?, ?_⟩
    rw [components, List.splitOn_append_cons_self, List.splitOn_eq_singleton part.no_slash, List.filterMap_append, single]

theorem lastSegment_append (text : List Char) {ext : List Char} (slash : '/' ∉ ext) : lastSegment (text ++ ext) = lastSegment text ++ ext := by
  have all : ∀ c ∈ ext.reverse, decide (c ≠ '/') = true := by
    intro c member
    simpa using fun same : c = '/' => slash (same ▸ List.mem_reverse.mp member)
  rw [lastSegment, List.reverse_append, List.takeWhile_append_of_pos all, List.reverse_append, List.reverse_reverse, lastSegment]

/-- A path whose text ends in a name has it. -/
theorem name_parse {path : String} (nonempty : lastSegment path.toList ≠ []) (not_dot : lastSegment path.toList ≠ ['.']) :
    (parse path).name = lastSegment path.toList := by
  let part : PathComponent := ⟨lastSegment path.toList, nonempty, not_dot, slash_notMem_lastSegment _⟩
  have split : path.toList = part.text ∨ ∃ before, path.toList = before ++ '/' :: part.text := lastSegment_cases path.toList
  obtain ⟨before, parts⟩ := components_of_last split
  have last : (parse path).parts.getLast? = some part := by rw [parse, parts, List.getLast?_concat]
  simp [name, last, part]

/-- The name of a file in a directory, whose text may lead through others. -/
theorem name_join (p : PosixPath) (text ext : String) (some_ext : 1 < ext.toList.length) (slash : '/' ∉ ext.toList) :
    (p.join (text ++ ext)).name = lastSegment text.toList ++ ext.toList := by
  have long : 1 < (lastSegment text.toList ++ ext.toList).length := by
    rw [List.length_append]
    omega
  let part : PathComponent :=
    { text := lastSegment text.toList ++ ext.toList
      nonempty := fun empty => by simp [empty] at long
      not_dot := fun dot => by simp [dot] at long
      no_slash := fun member => (List.mem_append.mp member).elim (slash_notMem_lastSegment _) slash }
  have split : (text ++ ext).toList = part.text ∨ ∃ before, (text ++ ext).toList = before ++ '/' :: part.text := by
    rw [String.toList_append]
    rcases lastSegment_cases text.toList with whole | ⟨before, split⟩
    · exact Or.inl (congrArg (· ++ ext.toList) whole)
    · refine Or.inr ⟨before, ?_⟩
      have longer := congrArg (· ++ ext.toList) split
      simpa using longer
  obtain ⟨before, parts⟩ := components_of_last split
  have last : (p.join (text ++ ext)).parts.getLast? = some part := by
    unfold join parse
    dsimp only
    split
    · rw [parts, List.getLast?_concat]
    · rw [parts, ← List.append_assoc, List.getLast?_concat]
  rw [name, last]

end PosixPath
end RevitPy
