import Mathlib.Logic.Function.Basic

/-!
# Stores of mutable objects

An object is referred to by the number under which it was allocated. Two
references may be the same, so a write through one is read through the other.
-/

namespace RevitPy

/-- The objects of one class. Cells from `next` on are not in use. -/
structure Store (α : Type*) where
  next : Nat
  cell : Nat → α

namespace Store
variable {α : Type*}

/-- A reference to an object of the store. -/
abbrev Ref (s : Store α) := Fin s.next

def read (s : Store α) (r : Nat) : α := s.cell r

def write (s : Store α) (r : Nat) (a : α) : Store α := { s with cell := Function.update s.cell r a }

/-- A new object, referred to by `s.next`. -/
def alloc (s : Store α) (a : α) : Store α := { next := s.next + 1, cell := Function.update s.cell s.next a }

variable (s : Store α) (a : α)

@[simp] theorem next_write (r : Nat) : (s.write r a).next = s.next := rfl

@[simp] theorem next_alloc : (s.alloc a).next = s.next + 1 := rfl

@[simp] theorem read_write_self (r : Nat) : (s.write r a).read r = a := by simp [read, write]

theorem read_write_ne {r t : Nat} (other : t ≠ r) : (s.write r a).read t = s.read t := by simp [read, write, other]

@[simp] theorem read_alloc_new : (s.alloc a).read s.next = a := by simp [read, alloc]

theorem read_alloc_ne {r : Nat} (other : r ≠ s.next) : (s.alloc a).read r = s.read r := by simp [read, alloc, other]

/-- Allocation leaves the objects of the store as they are. -/
theorem read_alloc_old {r : Nat} (known : r < s.next) : (s.alloc a).read r = s.read r :=
  s.read_alloc_ne a (Nat.ne_of_lt known)

end Store

end RevitPy
