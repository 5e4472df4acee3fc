import Mathlib.Algebra.Group.Nat.Defs
import Mathlib.Data.List.Basic

/-!
# Quoted strings

Hexadecimal digits, and the text between quotation marks, in which each character is written
by some escape.
-/

namespace RevitPy.Quoted

/-! ## Hexadecimal digits -/

def hexValue? (c : Char) : Option Nat :=
  if '0' ≤ c ∧ c ≤ '9' then some (c.toNat - 48)
  else if 'a' ≤ c ∧ c ≤ 'f' then some (c.toNat - 87)
  else if 'A' ≤ c ∧ c ≤ 'F' then some (c.toNat - 55)
  else none

theorem hexValue?_digitChar {d : Nat} (small : d < 16) : hexValue? d.digitChar = some d := by
  have each : ∀ d : Fin 16, hexValue? (Nat.digitChar d) = some d.val := by decide
  exact each ⟨d, small⟩

/-- The last `k` digits of a number. -/
def hexDigits : Nat → Nat → List Char
  | 0, _ => []
  | k + 1, n => Nat.digitChar (n / 16 ^ k % 16) :: hexDigits k n

/-- `k` digits as a number. -/
def readHex : Nat → List Char → Option (Nat × List Char)
  | 0, text => some (0, text)
  | _ + 1, [] => none
  | k + 1, c :: rest => do
    let d ← hexValue? c
    let (n, rest) ← readHex k rest
    some (d * 16 ^ k + n, rest)

theorem readHex_hexDigits (k n : Nat) (rest : List Char) : readHex k (hexDigits k n ++ rest) = some (n % 16 ^ k, rest) := by
  induction k with
  | zero => simp [readHex, hexDigits, Nat.mod_one]
  | succ k ih =>
    have digit : hexValue? (Nat.digitChar (n / 16 ^ k % 16)) = some (n / 16 ^ k % 16) := hexValue?_digitChar (Nat.mod_lt _ (by decide))
    have value : n / 16 ^ k % 16 * 16 ^ k + n % 16 ^ k = n % 16 ^ (k + 1) := by
      rw [Nat.mod_pow_succ, Nat.mul_comm, Nat.add_comm]
    simp [readHex, hexDigits, digit, ih, value]

theorem readHex_of_lt {k n : Nat} (small : n < 16 ^ k) (rest : List Char) : readHex k (hexDigits k n ++ rest) = some (n, rest) := by
  rw [readHex_hexDigits, Nat.mod_eq_of_lt small]

/-! ## Between quotation marks -/

/-- The rest of a string whose begin was read, up to its mark. -/
def readUntil (mark : Char) (readChar : List Char → Option (Char × List Char)) : Nat → List Char → Option (List Char × List Char)
  | 0, _ => none
  | fuel + 1, text =>
    if text.head? = some mark then some ([], text.tail)
    else do
      let (c, rest) ← readChar text
      let (value, rest) ← readUntil mark readChar fuel rest
      some (c :: value, rest)

section
variable {mark : Char} {readChar : List Char → Option (Char × List Char)} {escape : Char → List Char}
  (escape_head : ∀ c, ∃ first more, escape c = first :: more ∧ first ≠ mark)
include escape_head

theorem readUntil_flatMap (readChar_escape : ∀ c rest, readChar (escape c ++ rest) = some (c, rest)) (value rest : List Char) {fuel : Nat}
    (enough : value.length < fuel) : readUntil mark readChar fuel (value.flatMap escape ++ mark :: rest) = some (value, rest) := by
  induction value generalizing fuel with
  | nil =>
    obtain ⟨fuel, rfl⟩ := Nat.exists_eq_succ_of_ne_zero (Nat.ne_of_gt enough)
    simp [readUntil]
  | cons c value ih =>
    obtain ⟨fuel, rfl⟩ := Nat.exists_eq_succ_of_ne_zero (Nat.ne_of_gt (Nat.zero_lt_of_lt enough))
    have shorter : value.length < fuel := by
      rw [List.length_cons] at enough
      omega
    obtain ⟨first, more, head, other⟩ := escape_head c
    have goes_on : (escape c ++ (value.flatMap escape ++ mark :: rest)).head? ≠ some mark := by
      rw [head]
      simpa using other
    rw [List.flatMap_cons, List.append_assoc]
    simp only [readUntil, if_neg goes_on, readChar_escape, Option.bind_eq_bind, Option.bind_some, ih shorter]

theorem length_le_flatMap (value : List Char) : value.length ≤ (value.flatMap escape).length := by
  induction value with
  | nil => exact Nat.le_refl 0
  | cons c value ih =>
    obtain ⟨first, more, shape, _⟩ := escape_head c
    rw [List.flatMap_cons, shape, List.length_append, List.length_cons, List.length_cons]
    omega

end
end RevitPy.Quoted
