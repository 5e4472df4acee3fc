import Mathlib.Data.List.Lex
import Mathlib.Order.Basic

/-!
# The version library

The resolver leaves the meaning of versions and specifiers to a library. What it
relies on is that versions are totally ordered by their keys and that a
specifier contains a version or not.
-/

namespace RevitPy

/-- `Version` and `SpecifierSet` values are what their constructors return; a
    constructor that raises is `none`. Versions compare by their keys. -/
structure Packaging where
  Version : Type
  Key : Type
  order : LinearOrder Key
  key : Version → Key
  is_prerelease : Version → Bool
  SpecifierSet : Type
  contains : SpecifierSet → Version → Bool
  version : String → Option Version
  specifier : String → Option SpecifierSet

attribute [instance] Packaging.order

/-! ## Release versions -/

namespace Packaging

inductive Comparison
  | less | atMost | equal | atLeast | greater

/-- The number that a word of digits spells. -/
def number (word : List Char) : Option Nat :=
  if word ≠ [] ∧ word.all Char.isDigit then some (word.foldl (fun n c => 10 * n + (c.toNat - '0'.toNat)) 0) else none

/-- The segments of a release such as `1.0.2`. -/
def release (word : List Char) : Option (List Nat) := (word.splitOn '.').mapM number

/-- Trailing zeros do not count. -/
def trimmed (segments : List Nat) : List Nat := (segments.reverse.dropWhile (· = 0)).reverse

def clause : List Char → Option (Comparison × List Nat)
  | '<' :: '=' :: word => (release word).map (.atMost, ·)
  | '>' :: '=' :: word => (release word).map (.atLeast, ·)
  | '=' :: '=' :: word => (release word).map (.equal, ·)
  | '<' :: word => (release word).map (.less, ·)
  | '>' :: word => (release word).map (.greater, ·)
  | _ => none

def satisfies (segments : List Nat) : Comparison × List Nat → Bool
  | (.less, bound) => trimmed segments < trimmed bound
  | (.atMost, bound) => trimmed segments ≤ trimmed bound
  | (.equal, bound) => trimmed segments = trimmed bound
  | (.atLeast, bound) => trimmed bound ≤ trimmed segments
  | (.greater, bound) => trimmed bound < trimmed segments

/-- The library on releases: dotted numbers, and comparisons joined by commas. -/
def releases : Packaging where
  Version := List Nat
  Key := List Nat
  order := inferInstance
  key := trimmed
  is_prerelease _ := false
  SpecifierSet := List (Comparison × List Nat)
  contains spec version := spec.all (satisfies version)
  version s := release s.toList
  specifier s := (s.toList.splitOn ',').mapM clause

end Packaging
end RevitPy
