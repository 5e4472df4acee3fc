import Mathlib.Algebra.Order.Ring.Int
import Mathlib.Data.String.Basic
import RevitPy.StableSort
import RevitPy.TerminalCalls

/-!
# Texts and numbers

The values of parameters that filters compare and queries sort by, as Python orders
them: texts among texts and numbers among numbers. Texts and numbers are never equal,
and to ask which of the two is greater raises.
-/

namespace RevitPy.Api

open StableSort

/-- Numbers, with a negation that turns their order round. NaN is none of them. -/
structure Numbers (ρ : Type) [LinearOrder ρ] where
  zero : ρ
  neg : ρ → ρ
  neg_le_neg : ∀ m n, neg m ≤ neg n ↔ n ≤ m
  str : ρ → String

def integers : Numbers Int := ⟨0, fun n => -n, fun _ _ => neg_le_neg_iff, toString⟩

theorem Numbers.neg_inj {ρ : Type} [LinearOrder ρ] (numbers : Numbers ρ) {m n : ρ} : numbers.neg m = numbers.neg n ↔ m = n := by
  simp only [le_antisymm_iff, numbers.neg_le_neg]
  exact and_comm

/-- A value that is a text or a number. -/
inductive Scalar (ρ : Type)
  | str (s : String)
  | num (n : ρ)
  deriving DecidableEq

/-- `text[::-1]`. -/
def reversed (s : String) : String := String.ofList s.toList.reverse

theorem reversed_inj {s t : String} : reversed s = reversed t ↔ s = t := by
  simp [reversed, String.ofList_inj, String.toList_inj]

variable {ρ : Type} [LinearOrder ρ] {α : Type}

/-- A comparison of two values of one kind. -/
def Comparison.holds {β : Type} [LinearOrder β] : Comparison → β → β → Bool
  | .eq, a, b => a = b
  | .ne, a, b => a ≠ b
  | .gt, a, b => a > b
  | .lt, a, b => a < b
  | .ge, a, b => a ≥ b
  | .le, a, b => a ≤ b

theorem Comparison.holds_lt {β : Type} [LinearOrder β] (a b : β) : Comparison.lt.holds a b = !decide (b ≤ a) := by
  rw [Comparison.holds, ← decide_not]
  exact decide_eq_decide.mpr not_le.symm

namespace Scalar

def compare (comparison : Comparison) : Scalar ρ → Scalar ρ → Except Fault Bool
  | .str s, .str t => .ok (comparison.holds s t)
  | .num m, .num n => .ok (comparison.holds m n)
  | _, _ => match comparison with
    | .eq => .ok false
    | .ne => .ok true
    | _ => .error .mismatch

/-- `a < b` for two tuples: the first difference decides. -/
def tuple_lt : List (Scalar ρ) → List (Scalar ρ) → Except Fault Bool
  | [], [] => .ok false
  | [], _ :: _ => .ok true
  | _ :: _, [] => .ok false
  | a :: as, b :: bs => if a = b then tuple_lt as bs else compare .lt a b

/-- `b` does not go before `a`. -/
def stays (a b : List (Scalar ρ)) : Bool :=
  match tuple_lt b a with
  | .ok before => !before
  | .error _ => true

/-- `sorted`, which is stable. Every sort meets two keys that cannot be compared, if there are any. -/
def sorted (items : List (List (Scalar ρ) × α)) : Except String (List α) :=
  if items.any fun x => items.any fun y => !(tuple_lt x.1 y.1).isOk then .error "'<' not supported between instances of 'str' and 'int'"
  else .ok ((items.mergeSort fun x y => stays x.1 y.1).map Prod.snd)

/-- The order of the values. Texts stand before numbers, where both occur. -/
def le : Scalar ρ → Scalar ρ → Bool
  | .str s, .str t => s ≤ t
  | .num m, .num n => m ≤ n
  | .str _, .num _ => true
  | .num _, .str _ => false

theorem le_totalPreorder : TotalPreorder (le (ρ := ρ)) := by
  constructor
  · intro a b c
    cases a <;> cases b <;> cases c <;> simp only [le, decide_eq_true_eq, Bool.false_eq_true, false_implies, imp_self, implies_true]
    · exact le_trans
    · exact le_trans
  · intro a b
    cases a <;> cases b <;> simp [le, le_total]

theorem eq_of_le_of_le {a b : Scalar ρ} (first : le a b = true) (second : le b a = true) : a = b := by
  cases a <;> cases b <;> simp_all [le]
  · exact le_antisymm first second
  · exact le_antisymm first second

def SameKind : Scalar ρ → Scalar ρ → Prop
  | .str _, .str _ => True
  | .num _, .num _ => True
  | _, _ => False

omit [LinearOrder ρ] in
theorem SameKind.symm {a b : Scalar ρ} (h : SameKind a b) : SameKind b a := by
  cases a <;> cases b <;> simp_all [SameKind]

/-- Values of one kind can be compared. -/
theorem compare_lt {a b : Scalar ρ} (kind : SameKind a b) : compare .lt a b = .ok (!le b a) := by
  cases a <;> cases b <;> simp_all [compare, le, SameKind, Comparison.holds_lt]

end Scalar

/-- What texts need of the library: lower case and regular expressions. -/
structure TextLibrary (ρ : Type) where
  lower : String → String
  search : Option (Scalar ρ) → String → Except Fault Bool

/-- Texts without capitals and regular expressions. -/
def plain_texts : TextLibrary Int := ⟨id, fun _ _ => .ok false⟩

/-- Texts and numbers as Python's objects. -/
def Objects.scalars (numbers : Numbers ρ) (texts : TextLibrary ρ) : Objects (Scalar ρ) where
  is_str
    | .str _ => true
    | .num _ => false
  is_number
    | .str _ => false
    | .num _ => true
  of_str := .str
  str
    | none => "None"
    | some (.str s) => s
    | some (.num n) => numbers.str n
  lower := texts.lower
  truthy
    | none => false
    | some (.str s) => s ≠ ""
    | some (.num n) => n ≠ numbers.zero
  compare := Scalar.compare
  contains
    | some (.str container), some (.str s) => .ok (container.toList.tails.any s.toList.isPrefixOf)
    | _, _ => .error .mismatch
  search := texts.search
  reverse
    | .str s => .str (reversed s)
    | .num n => .num n
  negate
    | .str s => .str s
    | .num n => .num (numbers.neg n)
  seen value seen_values := .ok (decide (value ∈ seen_values))
  sorted := Scalar.sorted

end RevitPy.Api
