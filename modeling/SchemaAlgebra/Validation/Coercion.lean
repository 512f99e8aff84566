import SchemaAlgebra.Number.Numeral
import SchemaAlgebra.Text.Character
import SchemaAlgebra.Validation.Outcome

/-!
Conversion of scalars to a declared type. A value that already has one of the declared types is left
alone; otherwise the first declared type that the value can be converted to wins. Whether a double
without fraction counts as an integer is a choice of the type checker.
-/

namespace SchemaAlgebra

/-- Which doubles count as integers. -/
inductive TypeChecker
  /-- A double without fraction is an integer. -/
  | byValue
  /-- No double is an integer. -/
  | byKind
  deriving DecidableEq

namespace Json

/-- Whether a value is a number without fraction, in the sense of the type checker. -/
def isInteger (checker : TypeChecker) : Json → Bool
  | .int _ => true
  | .double d => checker = .byValue && d.toInt?.isSome
  | _ => false

/-- Whether a value has a type; none if there is no such type. -/
def hasType? (checker : TypeChecker) (value : Json) : String → Option Bool
  | "array" => some value.isArray
  | "boolean" => some (match value with | .bool _ => true | _ => false)
  | "integer" => some (value.isInteger checker)
  | "null" => some (match value with | .null => true | _ => false)
  | "number" => some value.number?.isSome
  | "object" => some value.isObject
  | "string" => some value.isString
  | _ => none

/-- Whether a value has the type that another value names. -/
def isOfType (checker : TypeChecker) (value type : Json) : Except Fault Bool :=
  match type with
  | .string name =>
      match value.hasType? checker name with
      | some answer => .ok answer
      | none => .error .unknownType
  | _ => .error (if type.key?.isSome then .unknownType else .unusable)

/-- Whether a value has one of the types; types after the first match are not looked at. -/
def hasOneOf (checker : TypeChecker) (value : Json) : List Json → Except Fault Bool
  | [] => .ok false
  | type :: rest => do
      if ← value.isOfType checker type then return true else value.hasOneOf checker rest

end Json

namespace Coercion

/-- The types a schema declares: its `type`, one or several; what is no string is passed over. -/
def declaredTypes (schema : Json) : List String :=
  match schema.get? "type" with
  | some (.string name) => [name]
  | some (.array items) => items.filterMap fun item =>
      match item with
      | .string name => some name
      | _ => none
  | _ => []

/-- The types that a value lists: one if it is a string, none if it counts as absent. -/
def listedTypes (value : Json) : Except Fault (List Json) :=
  match value, value.elements? with
  | .string name, _ => .ok [.string name]
  | _, some types => .ok types
  | _, none => if value.isTruthy then .error .unusable else .ok []

/-- A whole number as text, if it is short enough to be written. -/
def integerText (n : Int) : Except Fault Json :=
  if Json.writable n then .ok (.string (toString n)) else .error .tooManyDigits

/-- Convert to text: a double without fraction is written as a whole number. -/
def toText? : Json → Except Fault (Option Json)
  | .null => .ok (some (.string ""))
  | .bool b => .ok (some (.string (if b then "true" else "false")))
  | .int n => some <$> integerText n
  | .double d =>
      match d.toInt? with
      | some n => some <$> integerText n
      | none => .ok (some (.string (d.text literalWords)))
  | _ => .ok none

/-- Convert to a number: a whole numeral to a whole number, any other numeral to a finite double. -/
def toNumber? : Json → Option Json
  | .null => some (.int 0)
  | .bool b => some (.int (if b then 1 else 0))
  | .string s =>
      let text := Text.trim s.toList
      match Numeral.readInt? text with
      | some n => some (.int n)
      | none =>
          match Numeral.readDouble? text with
          | some d => if d.isFinite then some (.double d) else none
          | none => none
  | _ => none

/-- Convert to a whole number; a double is converted only if it has no fraction. -/
def toInteger? (value : Json) : Option Json :=
  let number? : Option Json := match value with
    | .double d => some (.double d)
    | _ => toNumber? value
  match number? with
  | some (.double d) => d.toInt?.map .int
  | other => other

/-- Convert to a truth value. -/
def toBoolean? : Json → Option Json
  | .null => some (.bool false)
  | .string "true" => some (.bool true)
  | .string "false" => some (.bool false)
  | value =>
      match value.number? with
      | some number =>
          if number.same (.int 1) then some (.bool true)
          else if number.isZero then some (.bool false)
          else none
      | none => none

/-- Convert to null what stands for nothing: the empty text, false and zero. -/
def toNull? : Json → Option Json
  | .string "" => some .null
  | .bool false => some .null
  | value =>
      match value.number? with
      | some number => if number.isZero then some .null else none
      | none => none

/-- Convert a value to a type, if that is possible. -/
def convert? (value : Json) : Json → Except Fault (Option Json)
  | .string "string" => toText? value
  | .string "number" => .ok (toNumber? value)
  | .string "integer" => .ok (toInteger? value)
  | .string "boolean" => .ok (toBoolean? value)
  | .string "null" => .ok (toNull? value)
  | _ => .ok none

/-- Convert a value to the first of the types it can be converted to. -/
def convertFirst? (value : Json) : List Json → Except Fault (Option Json)
  | [] => .ok none
  | type :: rest =>
      match convert? value type with
      | .ok none => convertFirst? value rest
      | found => found

/-- The conversion of a value to the declared types; none if the value is left alone. -/
def conversion? (checker : TypeChecker) (types : List Json) (value : Json) :
    Except Fault (Option Json) := do
  if types.isEmpty then return none
  else if ← value.hasOneOf checker types then return none
  else convertFirst? value types

/-- A value brought to one of the declared types as far as it can be. -/
def coerce (checker : TypeChecker) (types : List Json) (value : Json) : Except Fault Json := do
  return (← conversion? checker types value).getD value

end Coercion

end SchemaAlgebra
