import Mathlib.Data.List.Basic
import Mathlib.Tactic.IntervalCases

/-!
# Lower-casing strings

`str.lower` maps each character by the Unicode character database of the
interpreter, except for the capital sigma, whose image depends on the letters
around it. The database is a parameter; what is asked of it are its entries for
the punctuation that package names use.
-/

namespace RevitPy

/-- The punctuation that may stand between the words of a package name. -/
def separators : List Char := ['-', '_', '.', ' ']

theorem forall_separators {p : Char → Prop} (hyphen : p '-') (underscore : p '_') (dot : p '.') (space : p ' ') :
    ∀ c ∈ separators, p c := by
  intro c member
  simp only [separators, List.mem_cons, List.not_mem_nil, or_false] at member
  rcases member with rfl | rfl | rfl | rfl
  · exact hyphen
  · exact underscore
  · exact dot
  · exact space

/-- The Unicode data that `str.lower` reads. -/
structure CaseTable where
  /-- Full lower-case mapping, for every character but the capital sigma. -/
  toLower : Char → List Char
  cased : Char → Bool
  caseIgnorable : Char → Bool
  lower_separator : ∀ c ∈ separators, toLower c = [c]
  lower_letter : ∀ c, c ∉ separators → ∀ d ∈ toLower c, d ∉ separators
  lower_nonempty : ∀ c, toLower c ≠ []
  lower_fixed : ∀ c, c ≠ 'Σ' → ∀ d ∈ toLower c, d ≠ 'Σ' ∧ toLower d = [d]
  lower_sigma : toLower 'σ' = ['σ'] ∧ toLower 'ς' = ['ς']
  uncased_separator : ∀ c ∈ separators, cased c = false
  noticed_separator : ∀ c ∈ separators, c ≠ '.' → caseIgnorable c = false

namespace CaseTable

/-- A capital sigma ends a word when a cased letter stands before it and none
    after it, passing over the characters that case ignores. `before` is read
    backwards from the sigma. -/
def finalSigma (u : CaseTable) (before after : List Char) : Bool :=
  (before.dropWhile u.caseIgnorable).head?.any u.cased &&
    !(after.dropWhile u.caseIgnorable).head?.any u.cased

/-- The image of one character between `before`, read backwards, and `after`. -/
def lowerChar (u : CaseTable) (before : List Char) (c : Char) (after : List Char) : List Char :=
  if c = 'Σ' then [if u.finalSigma before after then 'ς' else 'σ'] else u.toLower c

def lowerFrom (u : CaseTable) : List Char → List Char → List Char
  | _, [] => []
  | before, c :: after => u.lowerChar before c after ++ lowerFrom u (c :: before) after

/-- `s.lower()`. -/
def lower (u : CaseTable) (s : String) : String := String.ofList (u.lowerFrom [] s.toList)

variable (u : CaseTable)

theorem lowerChar_separator (before : List Char) {c : Char} (member : c ∈ separators) (after : List Char) :
    u.lowerChar before c after = [c] := by
  have other : c ≠ 'Σ' := by rintro rfl; revert member; decide
  rw [lowerChar, if_neg other, u.lower_separator c member]

theorem lowerChar_letter (before : List Char) {c : Char} (letter : c ∉ separators) (after : List Char) :
    ∀ d ∈ u.lowerChar before c after, d ∉ separators := by
  unfold lowerChar
  split
  · intro d member
    rw [List.mem_singleton] at member
    subst member
    split <;> decide
  · exact u.lower_letter c letter

theorem lowerChar_nonempty (before : List Char) (c : Char) (after : List Char) : u.lowerChar before c after ≠ [] := by
  unfold lowerChar
  split
  · simp
  · exact u.lower_nonempty c

theorem lowerChar_fixed (before : List Char) (c : Char) (after : List Char) :
    ∀ d ∈ u.lowerChar before c after, d ≠ 'Σ' ∧ u.toLower d = [d] := by
  unfold lowerChar
  split
  · intro d member
    rw [List.mem_singleton] at member
    subst member
    split
    · exact ⟨by decide, u.lower_sigma.2⟩
    · exact ⟨by decide, u.lower_sigma.1⟩
  · next other => exact u.lower_fixed c other

/-- Lower-casing keeps every separator and adds none. -/
theorem count_lowerFrom (before word : List Char) {c : Char} (member : c ∈ separators) :
    (u.lowerFrom before word).count c = word.count c := by
  induction word generalizing before with
  | nil => rfl
  | cons d after ih =>
    rw [lowerFrom, List.count_append, ih, List.count_cons]
    by_cases letter : d ∈ separators
    · rw [u.lowerChar_separator before letter after, List.count_singleton]
      omega
    · have absent : c ∉ u.lowerChar before d after := fun inside => u.lowerChar_letter before letter after c inside member
      have other : d ≠ c := fun equal => letter (equal ▸ member)
      simp [List.count_eq_zero_of_not_mem absent, other]

theorem mem_lowerFrom (before word : List Char) {c : Char} (member : c ∈ separators) :
    c ∈ u.lowerFrom before word ↔ c ∈ word := by
  rw [← List.count_pos_iff, u.count_lowerFrom before word member, List.count_pos_iff]

theorem lowerFrom_fixed (before word : List Char) : ∀ d ∈ u.lowerFrom before word, d ≠ 'Σ' ∧ u.toLower d = [d] := by
  induction word generalizing before with
  | nil => simp [lowerFrom]
  | cons c after ih =>
    intro d member
    rcases List.mem_append.mp member with head | tail
    · exact u.lowerChar_fixed before c after d head
    · exact ih (c :: before) d tail

theorem lowerFrom_of_fixed (before word : List Char) (fixed : ∀ d ∈ word, d ≠ 'Σ' ∧ u.toLower d = [d]) :
    u.lowerFrom before word = word := by
  induction word generalizing before with
  | nil => rfl
  | cons c after ih =>
    have head := fixed c (by simp)
    rw [lowerFrom, lowerChar, if_neg head.1, head.2, ih _ fun d member => fixed d (by simp [member])]
    rfl

/-- Lower-casing a lower-cased word changes nothing. -/
theorem lowerFrom_lowerFrom (before before' word : List Char) :
    u.lowerFrom before (u.lowerFrom before' word) = u.lowerFrom before' word :=
  u.lowerFrom_of_fixed before _ (u.lowerFrom_fixed before' word)

/-- `word.replace(old, new)` for single characters. -/
def replace (old new : Char) (word : List Char) : List Char := word.map fun c => if c = old then new else c

section
variable {old new : Char} (oldSeparator : old ∈ separators ∧ old ≠ '.') (newSeparator : new ∈ separators ∧ new ≠ '.')
include oldSeparator newSeparator

private theorem context_replace (word : List Char) :
    ((replace old new word).dropWhile u.caseIgnorable).head?.any u.cased =
      (word.dropWhile u.caseIgnorable).head?.any u.cased := by
  have cased (c : Char) : u.cased (if c = old then new else c) = u.cased c := by
    split
    · next same => rw [same, u.uncased_separator new newSeparator.1, u.uncased_separator old oldSeparator.1]
    · rfl
  have ignored (c : Char) : u.caseIgnorable (if c = old then new else c) = u.caseIgnorable c := by
    split
    · next same => rw [same, u.noticed_separator new newSeparator.1 newSeparator.2,
        u.noticed_separator old oldSeparator.1 oldSeparator.2]
    · rfl
  rw [replace, List.dropWhile_map, List.head?_map, Option.any_map]
  simp only [Function.comp_def, cased, ignored]

private theorem lowerChar_replace (before : List Char) (c : Char) (after : List Char) :
    u.lowerChar (replace old new before) (if c = old then new else c) (replace old new after) =
      replace old new (u.lowerChar before c after) := by
  by_cases same : c = old
  · subst same
    rw [if_pos rfl, u.lowerChar_separator _ newSeparator.1, u.lowerChar_separator _ oldSeparator.1]
    simp [replace]
  · rw [if_neg same]
    by_cases separator : c ∈ separators
    · rw [u.lowerChar_separator _ separator, u.lowerChar_separator _ separator]
      simp [replace, same]
    · have kept : ∀ d ∈ u.lowerChar before c after, (if d = old then new else d) = d := by
        intro d member
        rw [if_neg]
        rintro rfl
        exact u.lowerChar_letter before separator after d member oldSeparator.1
      have unchanged : replace old new (u.lowerChar before c after) = u.lowerChar before c after := by
        rw [replace, List.map_congr_left kept, List.map_id']
      rw [unchanged]
      unfold lowerChar finalSigma
      rw [context_replace u oldSeparator newSeparator, context_replace u oldSeparator newSeparator]

/-- Hyphens, underscores and spaces end a word alike, so they can be exchanged
    before or after lower-casing. -/
theorem lowerFrom_replace (before word : List Char) :
    u.lowerFrom (replace old new before) (replace old new word) = replace old new (u.lowerFrom before word) := by
  induction word generalizing before with
  | nil => rfl
  | cons c after ih =>
    have tail := ih (c :: before)
    simp only [replace, List.map_cons] at tail
    have head := lowerChar_replace u oldSeparator newSeparator before c after
    simp only [replace] at head
    simp only [replace, List.map_cons, lowerFrom, List.map_append, head, tail]

end

private theorem toLower_cases (c : Char) : c ∈ "ABCDEFGHIJKLMNOPQRSTUVWXYZ".toList ∨ c.toLower = c := by
  unfold Char.toLower
  split
  · next capital =>
    left
    have low : 65 ≤ c.toNat := UInt32.le_iff_toNat_le.mp capital.1
    have high : c.toNat ≤ 90 := UInt32.le_iff_toNat_le.mp capital.2
    rw [← Char.ofNat_toNat c]
    generalize c.toNat = n at low high
    interval_cases n <;> decide
  · exact Or.inr rfl

private theorem toLower_capital (c : Char) (capital : c ∈ "ABCDEFGHIJKLMNOPQRSTUVWXYZ".toList) :
    c.toLower ∉ separators ∧ c.toLower ≠ 'Σ' ∧ c.toLower.toLower = c.toLower := by
  have checked : "ABCDEFGHIJKLMNOPQRSTUVWXYZ".toList.all (fun c =>
      decide (c.toLower ∉ separators ∧ c.toLower ≠ 'Σ' ∧ c.toLower.toLower = c.toLower)) = true := by decide
  simpa only [decide_eq_true_eq] using List.all_eq_true.mp checked c capital

/-- The table of an interpreter that knows no letters beyond ASCII. -/
def ascii : CaseTable where
  toLower c := [c.toLower]
  cased c := c.isAlpha
  caseIgnorable c := c = '.' || c = ':' || c = '\'' || c = '^' || c = Char.ofNat 96
  lower_separator := forall_separators rfl rfl rfl rfl
  lower_letter := by
    intro c letter d member
    rw [List.mem_singleton] at member
    subst member
    rcases toLower_cases c with capital | same
    · exact (toLower_capital c capital).1
    · rw [same]; exact letter
  lower_nonempty := by simp
  lower_fixed := by
    intro c other d member
    rw [List.mem_singleton] at member
    subst member
    rcases toLower_cases c with capital | same
    · exact ⟨(toLower_capital c capital).2.1, by rw [(toLower_capital c capital).2.2]⟩
    · rw [same, same]; exact ⟨other, rfl⟩
  lower_sigma := by decide
  uncased_separator := forall_separators rfl rfl rfl rfl
  noticed_separator := forall_separators (fun _ => rfl) (fun _ => rfl) (fun dot => absurd rfl dot) fun _ => rfl

end CaseTable
end RevitPy
