import Mathlib.Logic.Basic

/-!
# How code from outside ends

A call of a hook, a provider or an operation may return, raise an `Exception`, or
raise something that is not an `Exception`, such as a cancellation or
`KeyboardInterrupt`. A handler `except Exception` sees only the second kind.
-/

namespace RevitPy

inductive Outcome (α : Type*)
  | returned (a : α)
  | raised (message : String)
  | interrupted (message : String)
  deriving DecidableEq

namespace Outcome
variable {α : Type*}

/-- What is raised is not an `Exception`. -/
def is_interrupted : Outcome α → Bool
  | .interrupted _ => true
  | _ => false

/-- Callbacks run one after the other, and an `Exception` of one is logged. -/
def run_callbacks : List (Outcome Unit) → Outcome Unit
  | [] => .returned ()
  | .interrupted message :: _ => .interrupted message
  | _ :: rest => run_callbacks rest

end Outcome
end RevitPy
