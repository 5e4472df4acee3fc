import Mathlib.Data.List.TakeWhile
import RevitPy.Json

/-!
# Texts of values

How values are written in a dialect, such as JSON's own or the one of Python's literals, and
how they are read. A number is kept by its literal.
-/

namespace RevitPy.Json

/-! ## Numbers -/

def isNumberChar (c : Char) : Bool := c.isDigit || c = '-' || c = '+' || c = '.' || c = 'e' || c = 'E'

/-- What is left behind `0|[1-9]\d*`. -/
def integerPart : List Char → Option (List Char)
  | [] => none
  | c :: rest => if c = '0' then some rest else if c.isDigit then some (rest.dropWhile Char.isDigit) else none

/-- What is left behind `\d+`. -/
def digits : List Char → Option (List Char)
  | [] => none
  | c :: rest => if c.isDigit then some (rest.dropWhile Char.isDigit) else none

/-- What is left behind `(\.\d+)?`. -/
def fraction : List Char → Option (List Char)
  | [] => some []
  | c :: rest => if c = '.' then digits rest else some (c :: rest)

def sign : List Char → List Char
  | [] => []
  | c :: rest => if c = '+' ∨ c = '-' then rest else c :: rest

/-- What is left behind `([eE][-+]?\d+)?`. -/
def exponent : List Char → Option (List Char)
  | [] => some []
  | c :: rest => if c = 'e' ∨ c = 'E' then digits (sign rest) else some (c :: rest)

def minus : List Char → List Char
  | [] => []
  | c :: rest => if c = '-' then rest else c :: rest

/-- The text is a number as a whole. -/
def numeral (text : List Char) : Bool := (integerPart (minus text) >>= fraction >>= exponent) = some []

/-! ## Dialects -/

/-- What dialects write differently: words and strings. -/
structure Dialect where
  null : List Char
  yes : List Char
  no : List Char
  /-- The numbers that are words. -/
  numberWords : List String
  /-- A string begins with this character. -/
  isMark : Char → Bool
  quote : String → List Char
  readString : Nat → List Char → Option (String × List Char)

namespace Dialect
variable (d : Dialect)

/-- The words that are values. -/
def words : List (List Char × Json) :=
  (d.null, .null) :: (d.yes, .bool true) :: (d.no, .bool false) :: d.numberWords.map fun word => (word.toList, .number word)

/-- How a number can be written. -/
def isNumber (literal : String) : Bool := numeral literal.toList || literal ∈ d.numberWords

mutual

/-- The numbers of a value are numbers. -/
def proper (d : Dialect) : Json → Bool
  | .number literal => d.isNumber literal
  | .arr items => properItems d items
  | .obj members => properMembers d members
  | .null | .bool _ | .str _ => true

def properItems (d : Dialect) : List Json → Bool
  | [] => true
  | v :: vs => proper d v && properItems d vs

def properMembers (d : Dialect) : List (String × Json) → Bool
  | [] => true
  | (_, v) :: ms => proper d v && properMembers d ms

end
end Dialect

/-! ## Writing -/

/-- A line break, where there is an indentation. -/
def newline (indent : Option Nat) (level : Nat) : List Char := match indent with
  | none => []
  | some n => '\n' :: List.replicate (n * level) ' '

def separator (indent : Option Nat) (level : Nat) : List Char := match indent with
  | none => [',', ' ']
  | some _ => ',' :: newline indent level

mutual

def write (d : Dialect) (indent : Option Nat) (level : Nat) : Json → List Char
  | .null => d.null
  | .bool true => d.yes
  | .bool false => d.no
  | .number literal => literal.toList
  | .str value => d.quote value
  | .arr [] => ['[', ']']
  | .arr (v :: vs) => '[' :: (newline indent (level + 1) ++ (write d indent (level + 1) v ++ writeItems d indent (level + 1) vs) ++ newline indent level ++ [']'])
  | .obj [] => ['\x7b', '\x7d']
  | .obj ((key, v) :: ms) =>
    '\x7b' :: (newline indent (level + 1) ++ (d.quote key ++ ':' :: ' ' :: write d indent (level + 1) v ++ writeMembers d indent (level + 1) ms) ++
      newline indent level ++ ['\x7d'])

def writeItems (d : Dialect) (indent : Option Nat) (level : Nat) : List Json → List Char
  | [] => []
  | v :: vs => separator indent level ++ (write d indent level v ++ writeItems d indent level vs)

def writeMembers (d : Dialect) (indent : Option Nat) (level : Nat) : List (String × Json) → List Char
  | [] => []
  | (key, v) :: ms => separator indent level ++ (d.quote key ++ ':' :: ' ' :: write d indent level v ++ writeMembers d indent level ms)

end

/-! ## Reading -/

def isSpace (c : Char) : Bool := c = ' ' || c = '\t' || c = '\n' || c = '\r'
def skip (text : List Char) : List Char := text.dropWhile isSpace

def readNumber (text : List Char) : Option (Json × List Char) :=
  if numeral (text.takeWhile isNumberChar) then some (.number (String.ofList (text.takeWhile isNumberChar)), text.dropWhile isNumberChar)
  else none

def readWord (words : List (List Char × Json)) (text : List Char) : Option (Json × List Char) :=
  words.findSome? fun word => if word.1.isPrefixOf text then some (word.2, text.drop word.1.length) else none

/-- What is read one after the other up to a closing bracket, with commas between. -/
def readList {α : Type} (read : List Char → Option (α × List Char)) (close : Char) : Nat → List Char → Option (List α × List Char)
  | 0, _ => none
  | fuel + 1, text => do
    let (a, rest) ← read text
    match skip rest with
    | [] => none
    | c :: rest =>
      if c = close then some ([a], rest)
      else if c = ',' then do
        let (more, rest) ← readList read close fuel (skip rest)
        some (a :: more, rest)
      else none

/-- A string, a mark and a value. -/
def readPair (readKey : List Char → Option (String × List Char)) (mark : Char) (read : List Char → Option (Json × List Char)) (text : List Char) :
    Option ((String × Json) × List Char) := do
  let (key, rest) ← readKey text
  match skip rest with
  | [] => none
  | c :: rest =>
    if c = mark then do
      let (v, rest) ← read (skip rest)
      some ((key, v), rest)
    else none

/-- A bracket's content, which may be empty. -/
def readContent {α : Type} (read : List Char → Option (α × List Char)) (close : Char) (fuel : Nat) (text : List Char) :
    Option (List α × List Char) :=
  match skip text with
  | [] => none
  | c :: rest => if c = close then some ([], rest) else readList read close fuel (c :: rest)

def readValue (d : Dialect) : Nat → List Char → Option (Json × List Char)
  | 0, _ => none
  | _ + 1, [] => none
  | fuel + 1, c :: rest =>
    if d.isMark c then (d.readString fuel (c :: rest)).map fun (value, rest) => (.str value, rest)
    else if c = '[' then (readContent (readValue d fuel) ']' fuel rest).map fun (items, rest) => (.arr items, rest)
    else if c = '\x7b' then
      (readContent (readPair (d.readString fuel) ':' (readValue d fuel)) '\x7d' fuel rest).map fun (members, rest) => (.obj members, rest)
    else (readNumber (c :: rest)).or (readWord d.words (c :: rest))

/-- A text that is a value as a whole. -/
def load (d : Dialect) (text : List Char) : Option Json :=
  match readValue d (text.length + 1) (skip text) with
  | none => none
  | some (value, rest) => if skip rest = [] then some value else none

end RevitPy.Json
