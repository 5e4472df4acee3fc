import RevitPy.EnumTexts

/-!
# Conversions to and from Python

The way out takes the first converter that is registered for the type of a value, whatever
it converts to, and the way back looks for a converter between both types and falls
through to what enums, arrays and numbers have.
-/

namespace RevitPy.Bridge
open Enums

/-- The types that a value here has or is converted to. -/
inductive Ty (E : Type)
  | bool | int | long | double | string | object
  | enum (e : E)
  | array (elementType : Ty E)
  deriving DecidableEq

/-- An object, or `null`. A double is the number it stands for. -/
inductive Obj (E : Type)
  | null
  | bool (b : Bool)
  | int (i : Int32)
  | long (l : Int64)
  | double (d : Rat)
  | string (s : String)
  | enum (e : E) (value : BitVec 64)
  | array (elementType : Ty E) (items : List (Obj E))

inductive ConversionException (E : Type)
  | format | overflow | invalidCast | nullReference
  | parse (error : ParseError)
  /-- `Failed to convert Revit object to Python` -/
  | toPython (inner : ConversionException E)
  /-- `Failed to convert Python object to` a type -/
  | fromPython (targetType : Ty E) (inner : ConversionException E)

variable {E : Type}

def Ty.isReference : Ty E → Bool
  | .string | .object | .array _ => true
  | _ => false

def Obj.getType : Obj E → Option (Ty E)
  | .null => none
  | .bool _ => some .bool
  | .int _ => some .int
  | .long _ => some .long
  | .double _ => some .double
  | .string _ => some .string
  | .enum e _ => some (.enum e)
  | .array elementType _ => some (.array elementType)

/-! ## What the library does -/

/-- `bool.Parse` -/
def parseBool (s : String) : Option Bool :=
  let outside (c : Char) := isWhiteSpace c || c = Char.ofNat 0
  let word := ((s.toList.dropWhile outside).rdropWhile outside).map Char.toLower
  if word = ['t', 'r', 'u', 'e'] then some true
  else if word = ['f', 'a', 'l', 's', 'e'] then some false
  else none

/-- To the nearest integer, and of two to the even one. -/
def roundHalfEven (d : Rat) : Int :=
  let below := d.floor
  if d - below < 1 / 2 then below else if 1 / 2 < d - below then below + 1 else if below % 2 = 0 then below else below + 1

/-- `Convert.ToInt32` -/
def toInt32 (d : Rat) : Except (ConversionException E) (Obj E) :=
  let n := roundHalfEven d
  if -2 ^ 31 ≤ n ∧ n < 2 ^ 31 then .ok (.int (Int32.ofInt n)) else .error .overflow

section
variable [DecidableEq E]

/-- Arrays of references may stand for arrays of what these are assigned to. -/
def Ty.isAssignableFrom : Ty E → Ty E → Bool
  | .array target, .array source => target = source || (source.isReference && target.isAssignableFrom source)
  | .object, _ => true
  | target, source => target = source

/-- `Array.SetValue`, where `null` sets the default of a value type. -/
def setValue (elementType : Ty E) : Obj E → Except (ConversionException E) (Obj E)
  | .null => .ok (match elementType with
    | .bool => .bool false
    | .int => .int 0
    | .long => .long 0
    | .double => .double 0
    | .enum e => .enum e 0
    | _ => .null)
  | x => if x.getType.any elementType.isAssignableFrom then .ok x else .error .invalidCast

/-- The cast to the type parameter. -/
def cast (targetType : Ty E) : Obj E → Except (ConversionException E) (Obj E)
  | .null => if targetType.isReference then .ok .null else .error .nullReference
  | x => if x.getType.any targetType.isAssignableFrom then .ok x else .error .invalidCast

end

/-! ## The converters -/

def intToDouble : Obj E → Except (ConversionException E) (Obj E)
  | .int i => .ok (.double i.toInt)
  | _ => .ok .null

def longToInt : Obj E → Except (ConversionException E) (Obj E)
  | .long l => .ok (.int l.toInt32)
  | _ => .ok .null

def stringToObject : Obj E → Except (ConversionException E) (Obj E)
  | .string s => .ok (.string s)
  | _ => .ok .null

def boolToString : Obj E → Except (ConversionException E) (Obj E)
  | .bool b => .ok (.string (if b then "true" else "false"))
  | _ => .ok .null

def stringToBool : Obj E → Except (ConversionException E) (Obj E)
  | .string s => match parseBool s with
    | some b => .ok (.bool b)
    | none => .error .format
  | _ => .ok .null

/-- The types that a converter is registered for at construction. Those of types that no value here has, and to
    types that none is converted to, are left out. -/
def registeredKeys : List (Ty E × Ty E) := [(.int, .double), (.long, .int), (.string, .object), (.bool, .string), (.string, .bool)]

def customConverter : Ty E × Ty E → Obj E → Except (ConversionException E) (Obj E)
  | (.int, .double) => intToDouble
  | (.long, .int) => longToInt
  | (.string, .object) => stringToObject
  | (.bool, .string) => boolToString
  | (.string, .bool) => stringToBool
  | _ => .ok

section
variable [DecidableEq E] (enums : E → EnumType) (upper : Char → Char)
  /- the keys of the converters as the dictionary enumerates them, and `Convert.ChangeType` between other types than those below -/
  (keys : List (Ty E × Ty E)) (changeOther : Obj E → Ty E → Except (ConversionException E) (Obj E))

mutual

def convertToPythonInternal : Obj E → Except (ConversionException E) (Obj E)
  | .null => .ok .null
  | revitObject => match keys.find? fun k => some k.1 = revitObject.getType with
    | some customConverterKey => customConverter customConverterKey revitObject
    | none => match revitObject with
      | .enum e value => .ok (.string ((enums e).toText value))
      | .array _ items => return .array .object (← convertArrayToPython items)
      | revitObject => .ok revitObject

def convertArrayToPython : List (Obj E) → Except (ConversionException E) (List (Obj E))
  | [] => .ok []
  | item :: items => do
    let result ← (convertToPythonInternal item).mapError .toPython
    return result :: (← convertArrayToPython items)

end

def convertToPython (revitObject : Obj E) : Except (ConversionException E) (Obj E) :=
  (convertToPythonInternal enums keys revitObject).mapError .toPython

/-- `Convert.ChangeType` -/
def changeType : Obj E → Ty E → Except (ConversionException E) (Obj E)
  | .double d, .int => toInt32 d
  | .int i, .long => .ok (.long i.toInt64)
  | x, targetType => changeOther x targetType

mutual

def convertFromPythonInternal : Obj E → Ty E → Except (ConversionException E) (Obj E)
  | .null, _ => .ok .null
  | pythonObject, targetType =>
    if pythonObject.getType.any targetType.isAssignableFrom then .ok pythonObject
    else match keys.find? fun k => some k.1 = pythonObject.getType ∧ k.2 = targetType with
      | some key => customConverter key pythonObject
      | none => match targetType, pythonObject with
        | .enum e, .string enumString => match (enums e).parse upper enumString with
          | .ok value => .ok (.enum e value)
          | .error error => .error (.parse error)
        | .enum e, .int enumInt => .ok (.enum e (BitVec.ofInt 64 enumInt.toInt))
        | .array elementType, .array _ sourceArray => return .array elementType (← convertElements sourceArray elementType)
        | targetType, pythonObject => changeType changeOther pythonObject targetType

def convertElements : List (Obj E) → Ty E → Except (ConversionException E) (List (Obj E))
  | [], _ => .ok []
  | item :: items, elementType => do
    let convertedElement ← convertFromPythonInternal item elementType
    return (← setValue elementType convertedElement) :: (← convertElements items elementType)

end

def convertFromPython (pythonObject : Obj E) (targetType : Ty E) : Except (ConversionException E) (Obj E) :=
  (do cast targetType (← convertFromPythonInternal enums upper keys changeOther pythonObject targetType)).mapError (.fromPython targetType)

end

end RevitPy.Bridge
