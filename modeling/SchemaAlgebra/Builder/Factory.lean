import SchemaAlgebra.Builder.Operand
import SchemaAlgebra.Schema.Walk
import SchemaAlgebra.Store.Basic

/-!
Factories: the ways to make a new schema. Each checks its arguments and then makes one new node, which
names the nodes of the builders it was given. Whatever becomes the schema of a builder is an object
without references.
-/

namespace SchemaAlgebra

/-- The types of scalars that have a factory. -/
inductive ScalarType
  | string
  | number
  | integer
  | boolean
  deriving DecidableEq

namespace ScalarType

/-- The word for a type. -/
def word : ScalarType → String
  | .string => "string"
  | .number => "number"
  | .integer => "integer"
  | .boolean => "boolean"

/-- The metadata that a schema of the type may carry. -/
def metadataKind : ScalarType → Metadata.Kind
  | .string => .string
  | .number | .integer => .number
  | .boolean => .boolean

end ScalarType

/-- The ways to combine two schemas. -/
inductive Combinator
  | oneOf
  | allOf
  | anyOf
  deriving DecidableEq

namespace Combinator

/-- The keyword of a combinator. -/
def keyword : Combinator → String
  | .oneOf => "oneOf"
  | .allOf => "allOf"
  | .anyOf => "anyOf"

/-- The name of the factory of a combinator. -/
def factory : Combinator → String
  | .oneOf => "one_of"
  | .allOf => "all_of"
  | .anyOf => "any_of"

end Combinator

/-- A way to make a new schema, with its arguments. -/
inductive Factory
  | object (metadata : Operand)
  | scalar (type : ScalarType) (metadata : Operand)
  | enumeration (values metadata : Operand)
  | array (items metadata : Operand)
  | stringArray (metadata : Operand)
  | combine (combinator : Combinator) (first second : Operand)
  | negation (schema : Operand)

namespace Builder

/-- Take an object as the schema of a builder: it must be finite and without references. -/
def adopt (address : Nat) : Change Nat := do
  match (← get).tree? (.node address) with
  | none => throw .endless
  | some schema =>
      match Walk.firstReference? schema with
      | some (pointer, reference) => Change.refuse (.reference pointer reference.literal)
      | none => return address

/-- Make a new object the schema of a builder. -/
def make (cell : Cell) : Change Nat := do
  adopt (← Change.push cell)

/-- Make a scalar schema. -/
def makeScalar (type : ScalarType) (metadata : Operand) : Change Nat := do
  let cell ← Change.metadata type.metadataKind (type.word ++ "_schema") metadata
  make (Fields.put cell "type" (.string type.word))

/-- Make an array schema with given items. -/
def makeArray (items metadata : Operand) : Change Nat := do
  let cell ← Change.metadata .array "array_schema" metadata
  let typed := Fields.put cell "type" (.string "array")
  make (Fields.put typed "items" (.node (← Change.nodeOf "array_schema" items)))

end Builder

/-- Make the schema of a factory, and give its address. -/
def Factory.run : Factory → Change Nat
  | .object metadata => do
      let cell ← Change.metadata .object "object_schema" metadata
      let typed := Fields.put cell "type" (.string "object")
      Builder.make (Fields.put typed "additionalProperties" (.bool false))
  | .scalar type metadata => Builder.makeScalar type metadata
  | .enumeration (.value (.array values)) metadata => do
      let cell ← Change.metadata .enumeration "enum_schema" metadata
      let typed := Fields.put cell "type" (.string "string")
      Builder.make (Fields.put typed "enum" (← Change.place (.array values)))
  | .enumeration _ _ => Change.refuse .notAListOfValues
  | .array items metadata => Builder.makeArray items metadata
  | .stringArray metadata => do
      let items ← Builder.makeScalar .string (.value .null)
      Builder.makeArray (.builder items) metadata
  | .combine combinator first second => do
      let left ← Change.nodeOf combinator.factory first
      let right ← Change.nodeOf combinator.factory second
      Builder.make [(combinator.keyword, .array [.node left, .node right])]
  | .negation schema => do
      Builder.make [("not", .node (← Change.nodeOf "not_" schema))]

/-- Make a document the schema of a builder. -/
def Builder.wrap (document : Json) : Change Nat := do
  if document.isObject then
    match ← Change.place document with
    | .node address => Builder.adopt address
    | _ => Change.refuse (.notASchema document.kindName)
  else Change.refuse (.notASchema document.kindName)

/-- Make a copy of a schema with some keywords set. -/
def Builder.clone (address : Nat) (metadata : Operand) : Change Nat := do
  let overlay ← Change.metadata .object "clone" metadata
  let store ← get
  let (slot, copied) := store.copy (.node address)
  set copied
  match slot with
  | .node root => do
      overlay.forM fun entry => Change.put root entry.1 entry.2
      Builder.adopt root
  | _ => Builder.adopt address

end SchemaAlgebra
