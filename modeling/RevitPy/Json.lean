import Mathlib.Data.List.Infix

/-!
# JSON values

What Python's `json` module reads and writes, and what of it counts as hashable, as a
container and as a mapping.
-/

namespace RevitPy

/-- What `json.loads` builds. An object keeps its members as they were written. -/
inductive Json
  | null
  | bool (value : Bool)
  | number (literal : String)
  | str (value : String)
  | arr (items : List Json)
  | obj (members : List (String × Json))

namespace Json

/-- `members.get(key)`: the last member of a name counts. -/
def get? (members : List (String × Json)) (key : String) : Option Json := members.reverse.lookup key

/-- `members.get(key, default)` -/
def getD (members : List (String × Json)) (key : String) (default : Json) : Json := (get? members key).getD default

/-- `key in members` -/
def has (members : List (String × Json)) (key : String) : Bool := (get? members key).isSome

/-- An entry of a list of objects that equals a string. -/
def isStr (key : String) : Json → Bool
  | .str value => value = key
  | _ => false

/-- Lists and dictionaries are no keys of a dictionary. -/
def hashable : Json → Bool
  | .arr _ | .obj _ => false
  | _ => true

/-- Values that stand on the right of `in`. -/
def container : Json → Bool
  | .str _ | .arr _ | .obj _ => true
  | _ => false

/-- `key in value`, for a container. -/
def contains (key : String) : Json → Bool
  | .str value => decide (key.toList <:+: value.toList)
  | .arr items => items.any (isStr key)
  | .obj members => has members key
  | _ => false

end Json
end RevitPy
