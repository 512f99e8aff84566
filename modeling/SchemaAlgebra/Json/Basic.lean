import SchemaAlgebra.Json.Key
import SchemaAlgebra.Text.Code

/-!
JSON values. Whole numbers and doubles are different values, and objects remember the order of their
keys. A schema is a JSON value read as a set of rules. A document in YAML may hold values that JSON
cannot denote; they are kept as foreign scalars.
-/

namespace SchemaAlgebra

/-- A JSON value. -/
inductive Json
  | null
  | bool (b : Bool)
  | int (n : Int)
  | double (d : Double)
  | string (s : String)
  | array (items : List Json)
  | object (fields : List (Key × Json))
  | foreign (value : Foreign)
  deriving Inhabited

/-- The value that a key is. -/
def Key.toJson : Key → Json
  | .text s => .string s
  | .null => .null
  | .bool b => .bool b
  | .int n => .int n
  | .double d => .double d
  | .foreign value => .foreign value

namespace Json

/-- The kinds of JSON values, as they are named in messages. -/
def kindName : Json → String
  | .null => "NoneType"
  | .bool _ => "bool"
  | .int _ => "int"
  | .double _ => "float"
  | .string _ => "str"
  | .array _ => "list"
  | .object _ => "dict"
  | .foreign value => value.kindName

/-- Whether the value is an object. -/
def isObject : Json → Bool
  | .object _ => true
  | _ => false

/-- Whether the value is an array. -/
def isArray : Json → Bool
  | .array _ => true
  | _ => false

/-- Whether the value is an object or an array. -/
def isContainer : Json → Bool
  | .object _ | .array _ => true
  | .foreign value => value.isCycle
  | _ => false

/-- Whether the value is a string. -/
def isString : Json → Bool
  | .string _ => true
  | _ => false

/-- The key that a value can be; containers cannot be keys. -/
def key? : Json → Option Key
  | .null => some .null
  | .bool b => some (.bool b)
  | .int n => some (.int n)
  | .double d => some (.double d)
  | .string s => some (.text s)
  | .array _ | .object _ => none
  | .foreign value => if value.canBeKey then some (.foreign value) else none

@[simp] theorem key?_toJson (s : String) : (Key.text s).toJson.key? = some (.text s) := rfl

/-- The value of a key of an object. -/
def get? : Json → Key → Option Json
  | .object fields, key => Fields.get? fields (key.spelledIn (Fields.keys fields))
  | _, _ => none

/-- Whether the value is an object with the key. -/
def has (value : Json) (key : Key) : Bool :=
  (value.get? key).isSome

/-- The number that a value is; truth values are no numbers. -/
def number? : Json → Option Number
  | .int n => some (.int n)
  | .double d => some (.double d)
  | _ => none

/-- Whether a value counts as present: everything does but null, false, zero and what is empty. -/
def isTruthy : Json → Bool
  | .null => false
  | .bool b => b
  | .int n => n ≠ 0
  | .double d => !(Number.double d).isZero
  | .string s => s ≠ ""
  | .array items => !items.isEmpty
  | .object fields => !fields.isEmpty
  | .foreign value => !value.isEmpty

/-- What a value lists: the items of an array, the keys of an object, the characters of a string. -/
def elements? : Json → Option (List Json)
  | .array items => some items
  | .object fields => some ((Fields.keys fields).map Key.toJson)
  | .string s => some ((Text.singles s).map .string)
  | _ => none

/-- The value a subschema may give for its property: `default`. -/
def default? (schema : Json) : Option Json :=
  schema.get? "default"

mutual

/-- How deeply containers are nested. -/
def depth : Json → Nat
  | .array items => itemsDepth items + 1
  | .object fields => fieldsDepth fields + 1
  | _ => 1

/-- The depth of the deepest item. -/
def itemsDepth : List Json → Nat
  | [] => 0
  | item :: rest => max item.depth (itemsDepth rest)

/-- The depth of the deepest member. -/
def fieldsDepth : List (Key × Json) → Nat
  | [] => 0
  | (_, value) :: rest => max value.depth (fieldsDepth rest)

end

end Json

end SchemaAlgebra
