import Mathlib.Data.List.Chain
import RevitPy.Strings

/-!
# Package names

The resolver and the package cache each normalize names on their own. The
resolver writes every run of `-`, `_` and `.` as one hyphen. The cache replaces
single underscores and spaces, and keeps dots and runs.
-/

namespace RevitPy
open CaseTable (replace)

/-! ## Regular expressions and replacement -/

/-- The character class `[-_.]`. -/
def isRunChar (c : Char) : Bool := c = '-' || c = '_' || c = '.'

/-- `re.sub(r"[-_.]+", "-", word)`; the flag says that a run is being read. -/
def collapse : Bool → List Char → List Char
  | _, [] => []
  | inRun, c :: rest =>
    if isRunChar c then
      if inRun then collapse true rest else '-' :: collapse true rest
    else c :: collapse false rest

/-- Normalize package name according to PEP 508. -/
def PackageSpec.normalize_name (u : CaseTable) (name : String) : String :=
  u.lower (String.ofList (collapse false name.toList))

/-- Normalize package name for consistent caching. -/
def DesktopPackageCache.normalize_name (u : CaseTable) (name : String) : String :=
  String.ofList (replace ' ' '-' (replace '_' '-' (u.lower name).toList))

namespace Names
variable (u : CaseTable)

theorem run_separator {c : Char} (run : isRunChar c = true) : c ∈ separators := by
  simp only [isRunChar, Bool.or_eq_true, decide_eq_true_eq] at run
  rcases run with (rfl | rfl) | rfl <;> decide

theorem space_of_not_run {c : Char} (separator : c ∈ separators) (other : ¬isRunChar c = true) : c = ' ' :=
  forall_separators (p := fun c => ¬isRunChar c = true → c = ' ') (absurd rfl) (absurd rfl) (absurd rfl) (fun _ => rfl) c
    separator other

@[simp] theorem hyphen_run : isRunChar '-' = true := by decide

/-! ## Normalizing twice -/

/-- Single hyphens are the only run characters; none begins the word where the
    flag is set. -/
def Collapsed : Bool → List Char → Prop
  | _, [] => True
  | inRun, c :: rest => if isRunChar c then c = '-' ∧ inRun = false ∧ Collapsed true rest else Collapsed false rest

theorem collapsed_collapse (inRun : Bool) (word : List Char) : Collapsed inRun (collapse inRun word) := by
  induction word generalizing inRun with
  | nil => trivial
  | cons c rest ih =>
    by_cases run : isRunChar c = true
    · cases inRun with
      | true => simpa [collapse, run] using ih true
      | false => simpa [collapse, run, Collapsed] using ih true
    · simpa [collapse, run, Collapsed] using ih false

theorem collapse_of_collapsed (inRun : Bool) (word : List Char) (collapsed : Collapsed inRun word) :
    collapse inRun word = word := by
  induction word generalizing inRun with
  | nil => rfl
  | cons c rest ih =>
    by_cases run : isRunChar c = true
    · simp only [Collapsed, run, ↓reduceIte] at collapsed
      obtain ⟨rfl, rfl, later⟩ := collapsed
      simp [collapse, ih true later]
    · simp only [Collapsed, run, Bool.false_eq_true, ↓reduceIte] at collapsed
      simp [collapse, run, ih false collapsed]

theorem collapsed_append_letters {letters : List Char} (nonempty : letters ≠ [])
    (plain : ∀ c ∈ letters, isRunChar c = false) (inRun : Bool) (rest : List Char) (collapsed : Collapsed false rest) :
    Collapsed inRun (letters ++ rest) := by
  induction letters generalizing inRun with
  | nil => exact absurd rfl nonempty
  | cons c more ih =>
    have head := plain c (by simp)
    simp only [List.cons_append, Collapsed, head, Bool.false_eq_true, ↓reduceIte]
    by_cases last : more = []
    · simpa [last] using collapsed
    · exact ih last (fun d member => plain d (by simp [member])) false

theorem collapsed_lower (inRun : Bool) (before word : List Char) (collapsed : Collapsed inRun word) :
    Collapsed inRun (u.lowerFrom before word) := by
  induction word generalizing inRun before with
  | nil => trivial
  | cons c after ih =>
    by_cases run : isRunChar c = true
    · simp only [Collapsed, run, ↓reduceIte] at collapsed
      rw [CaseTable.lowerFrom, u.lowerChar_separator before (run_separator run)]
      obtain ⟨rfl, rfl, later⟩ := collapsed
      simpa [Collapsed] using ih true ('-' :: before) later
    · simp only [Collapsed, run, Bool.false_eq_true, ↓reduceIte] at collapsed
      refine collapsed_append_letters (u.lowerChar_nonempty before c after) ?_ inRun _ (ih false _ collapsed)
      intro d member
      by_cases separator : c ∈ separators
      · rw [u.lowerChar_separator before separator, List.mem_singleton] at member
        rw [member]
        simpa using run
      · have letter := u.lowerChar_letter before separator after d member
        by_contra other
        exact letter (run_separator (by simpa using other))

/-- Normalizing a normalized name changes nothing. -/
theorem normalize_name_idempotent (name : String) :
    PackageSpec.normalize_name u (PackageSpec.normalize_name u name) = PackageSpec.normalize_name u name := by
  simp only [PackageSpec.normalize_name, CaseTable.lower, String.toList_ofList]
  rw [collapse_of_collapsed false _ (collapsed_lower u false [] _ (collapsed_collapse false name.toList)),
    u.lowerFrom_lowerFrom]

/-! ## Separators under the two normalizers -/

theorem resolver_chars (name : String) :
    (PackageSpec.normalize_name u name).toList = u.lowerFrom [] (collapse false name.toList) := by
  simp [PackageSpec.normalize_name, CaseTable.lower]

theorem cache_chars (name : String) :
    (DesktopPackageCache.normalize_name u name).toList =
      replace ' ' '-' (replace '_' '-' (u.lowerFrom [] name.toList)) := by
  simp [DesktopPackageCache.normalize_name, CaseTable.lower]

theorem collapse_of_plain (inRun : Bool) (word : List Char) (plain : ∀ c ∈ word, isRunChar c = false) :
    collapse inRun word = word := by
  induction word generalizing inRun with
  | nil => rfl
  | cons c rest ih =>
    simp [collapse, plain c (by simp), ih false fun d member => plain d (by simp [member])]

theorem mem_collapse_hyphen (word : List Char) (c : Char) (run : isRunChar c = true) (member : c ∈ word) :
    '-' ∈ collapse false word := by
  induction word with
  | nil => simp at member
  | cons d rest ih =>
    by_cases head : isRunChar d = true
    · simp [collapse, head]
    · rcases List.mem_cons.mp member with equal | later
      · exact absurd (equal ▸ run) head
      · simp [collapse, head, ih later]

/-- Writing a run character twice does not change what the run collapses to. -/
theorem collapse_double (inRun : Bool) (left right : List Char) {c : Char} (run : isRunChar c = true) :
    collapse inRun (left ++ c :: c :: right) = collapse inRun (left ++ c :: right) := by
  induction left generalizing inRun with
  | nil => cases inRun <;> simp [collapse, run]
  | cons d rest ih =>
    simp only [List.cons_append, collapse]
    rw [ih true, ih false]

theorem count_space_collapse (inRun : Bool) (word : List Char) : (collapse inRun word).count ' ' = word.count ' ' := by
  induction word generalizing inRun with
  | nil => rfl
  | cons c rest ih =>
    by_cases run : isRunChar c = true
    · have other : c ≠ ' ' := by rintro rfl; revert run; decide
      cases inRun <;> simp [collapse, run, ih true, other]
    · simp [collapse, run, ih false, List.count_cons]

/-- The hyphens and dots of a cache key are the separators of the name. -/
theorem count_cache (name : String) :
    (DesktopPackageCache.normalize_name u name).toList.countP (· ∈ separators) =
      name.toList.countP (· ∈ separators) := by
  have kept (word : List Char) : (replace ' ' '-' (replace '_' '-' word)).countP (· ∈ separators) =
      word.countP (· ∈ separators) := by
    rw [replace, replace, List.countP_map, List.countP_map]
    apply List.countP_congr
    intro c _
    by_cases underscore : c = '_'
    · subst underscore; decide
    · by_cases space : c = ' '
      · subst space; decide
      · simp [underscore, space]
  have lowered (word before : List Char) : (u.lowerFrom before word).countP (· ∈ separators) =
      word.countP (· ∈ separators) := by
    induction word generalizing before with
    | nil => rfl
    | cons c after ih =>
      rw [CaseTable.lowerFrom, List.countP_append, ih, List.countP_cons]
      by_cases separator : c ∈ separators
      · simp [u.lowerChar_separator before separator, separator, Nat.add_comm]
      · have none : (u.lowerChar before c after).countP (· ∈ separators) = 0 := by
          rw [List.countP_eq_zero]
          intro d member
          simpa using u.lowerChar_letter before separator after d member
        simp [none, separator]
  rw [cache_chars, kept, lowered]

/-- A name without separators is only lower-cased, by either normalizer. -/
theorem normalize_plain (name : String) (plain : ∀ c ∈ name.toList, c ∉ separators) :
    PackageSpec.normalize_name u name = u.lower name ∧ DesktopPackageCache.normalize_name u name = u.lower name := by
  have noRun : ∀ c ∈ name.toList, isRunChar c = false := by
    intro c member
    by_contra run
    exact plain c member (run_separator (by simpa using run))
  have lowered : ∀ c ∈ u.lowerFrom [] name.toList, c ∉ separators := by
    intro c member separator
    exact plain c ((u.mem_lowerFrom [] name.toList separator).mp member) separator
  have unchanged : ∀ c ∈ u.lowerFrom [] name.toList, (if c = '_' then '-' else c) = c ∧ (if c = ' ' then '-' else c) = c := by
    intro c member
    have letter := lowered c member
    constructor
    · rw [if_neg]; rintro rfl; exact letter (by decide)
    · rw [if_neg]; rintro rfl; exact letter (by decide)
  constructor
  · rw [PackageSpec.normalize_name, collapse_of_plain false _ noRun, String.ofList_toList]
  · apply String.toList_injective
    rw [cache_chars, replace, replace, List.map_congr_left fun c member => (unchanged c member).1, List.map_id',
      List.map_congr_left fun c member => (unchanged c member).2, List.map_id']
    simp [CaseTable.lower]

/-- A name has no separator when its normal form, by either normalizer, has none. -/
private theorem plain_of_resolver (name : String)
    (plain : ∀ c ∈ (PackageSpec.normalize_name u name).toList, c ∉ separators) : ∀ c ∈ name.toList, c ∉ separators := by
  rw [resolver_chars] at plain
  intro c member separator
  by_cases run : isRunChar c = true
  · have hyphen := mem_collapse_hyphen name.toList c run member
    exact plain '-' ((u.mem_lowerFrom [] _ (by decide)).mpr hyphen) (by decide)
  · obtain rfl := space_of_not_run separator run
    have kept : ' ' ∈ collapse false name.toList := by
      rw [← List.count_pos_iff, count_space_collapse, List.count_pos_iff]
      exact member
    exact plain ' ' ((u.mem_lowerFrom [] _ (by decide)).mpr kept) (by decide)

private theorem plain_of_cache (name : String)
    (plain : ∀ c ∈ (DesktopPackageCache.normalize_name u name).toList, c ∉ separators) :
    ∀ c ∈ name.toList, c ∉ separators := by
  have counts := count_cache u name
  rw [List.countP_eq_zero.mpr (by simpa using plain)] at counts
  simpa using List.countP_eq_zero.mp counts.symm

/-! ## Names on which the normalizers agree -/

/-- Hyphens and underscores stand alone between words, and there are no dots
    or spaces. -/
def Tidy (name : String) : Prop :=
  (∀ c ∈ name.toList, c ≠ '.' ∧ c ≠ ' ') ∧
    name.toList.IsChain fun c d => isRunChar c = true → isRunChar d = false

instance (name : String) : Decidable (Tidy name) :=
  @instDecidableAnd _ _ (List.decidableBAll _ _) (inferInstanceAs (Decidable (List.IsChain _ _)))

private theorem collapse_single (inRun : Bool) (word : List Char) (dotless : ∀ c ∈ word, c ≠ '.')
    (single : word.IsChain fun c d => isRunChar c = true → isRunChar d = false)
    (apart : inRun = true → ∀ c ∈ word.head?, isRunChar c = false) :
    collapse inRun word = replace '_' '-' word := by
  induction word generalizing inRun with
  | nil => rfl
  | cons c rest ih =>
    have later : ∀ d ∈ rest, d ≠ '.' := fun d member => dotless d (by simp [member])
    by_cases run : isRunChar c = true
    · have outside : inRun = false := by
        by_contra inside
        have := apart (by simpa using inside) c (by simp)
        simp [run] at this
      have next : ∀ d ∈ rest.head?, isRunChar d = false := fun d head =>
        (List.isChain_cons.mp single).1 d head run
      have image : (if c = '_' then '-' else c) = '-' := by
        have other := dotless c (by simp)
        simp only [isRunChar, Bool.or_eq_true, decide_eq_true_eq] at run
        rcases run with (rfl | rfl) | rfl
        · rfl
        · rfl
        · exact absurd rfl other
      subst outside
      simp [collapse, run, replace, image, ih true later (List.isChain_cons.mp single).2 fun _ => next]
    · have image : (if c = '_' then '-' else c) = c := by
        rw [if_neg]
        rintro rfl
        exact run (by decide)
      simp [collapse, run, replace, image, ih false later (List.isChain_cons.mp single).2 (by simp)]

/-- The normalizers give a tidy name the same normal form. -/
theorem normalize_tidy (name : String) (tidy : Tidy name) :
    PackageSpec.normalize_name u name = DesktopPackageCache.normalize_name u name := by
  have spaceless : ' ' ∉ u.lowerFrom [] name.toList := fun member =>
    (tidy.1 ' ' ((u.mem_lowerFrom [] name.toList (by decide)).mp member)).2 rfl
  have kept : ∀ c ∈ replace '_' '-' (u.lowerFrom [] name.toList), (if c = ' ' then '-' else c) = c := by
    intro c member
    obtain ⟨d, inside, rfl⟩ := List.mem_map.mp member
    rw [if_neg]
    split
    · decide
    · rintro rfl
      exact spaceless inside
  have single := collapse_single false name.toList (fun c member => (tidy.1 c member).1) tidy.2 (by simp)
  have lowered : u.lowerFrom [] (replace '_' '-' name.toList) = replace '_' '-' (u.lowerFrom [] name.toList) :=
    u.lowerFrom_replace (by decide) (by decide) [] name.toList
  apply String.toList_injective
  rw [resolver_chars, cache_chars, single, lowered]
  conv_rhs => rw [replace, List.map_congr_left kept, List.map_id']

/-- A run character can be doubled without the resolver noticing. -/
private theorem resolver_doubled (left right : List Char) {c : Char} (run : isRunChar c = true) :
    PackageSpec.normalize_name u (String.ofList (left ++ c :: right)) =
      PackageSpec.normalize_name u (String.ofList (left ++ c :: c :: right)) := by
  simp only [PackageSpec.normalize_name, String.toList_ofList, collapse_double _ left right run]

private theorem cache_doubled (left right : List Char) {c : Char} (run : isRunChar c = true) :
    DesktopPackageCache.normalize_name u (String.ofList (left ++ c :: right)) ≠
      DesktopPackageCache.normalize_name u (String.ofList (left ++ c :: c :: right)) := by
  intro equal
  have counts := congrArg (fun name => name.toList.countP (· ∈ separators)) equal
  simp only [count_cache, String.toList_ofList, List.countP_append, List.countP_cons, run_separator run,
    decide_true, ↓reduceIte] at counts
  omega

/-- A space can be written as a hyphen without the cache noticing. -/
private theorem cache_hyphenated (name : String) :
    DesktopPackageCache.normalize_name u name =
      DesktopPackageCache.normalize_name u (String.ofList (replace ' ' '-' name.toList)) := by
  have lowered : u.lowerFrom [] (replace ' ' '-' name.toList) = replace ' ' '-' (u.lowerFrom [] name.toList) :=
    u.lowerFrom_replace (by decide) (by decide) [] name.toList
  apply String.toList_injective
  rw [cache_chars, cache_chars, String.toList_ofList, lowered]
  simp only [replace, List.map_map]
  apply List.map_congr_left
  intro c _
  by_cases space : c = ' '
  · subst space; decide
  · by_cases underscore : c = '_'
    · subst underscore; decide
    · simp [space, underscore]

private theorem resolver_hyphenated (name : String) (space : ' ' ∈ name.toList) :
    PackageSpec.normalize_name u name ≠
      PackageSpec.normalize_name u (String.ofList (replace ' ' '-' name.toList)) := by
  intro equal
  have counts := congrArg (fun normal => normal.toList.count ' ') equal
  simp only [resolver_chars, u.count_lowerFrom [] _ (show ' ' ∈ separators by decide), count_space_collapse,
    String.toList_ofList] at counts
  have absent : (replace ' ' '-' name.toList).count ' ' = 0 := by
    rw [List.count_eq_zero, replace, List.mem_map]
    rintro ⟨c, -, image⟩
    split at image
    · exact absurd image (by decide)
    · contradiction
  have present := List.count_pos_iff.mpr space
  omega

end Names
end RevitPy
