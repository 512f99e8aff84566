import SchemaAlgebra.Json.Literal

/-!
Metadata: the annotation and constraint keywords that a factory takes beside the structure it sets
itself. Each kind of schema takes its own set.
-/

namespace SchemaAlgebra.Metadata

/-- The kinds of schemas, as far as metadata goes. -/
inductive Kind
  | common
  | object
  | string
  | number
  | array
  | boolean
  | enumeration
  deriving DecidableEq

/-- The keywords that every schema may carry. -/
def commonKeywords : List String :=
  ["description", "default", "example", "examples", "deprecated", "readOnly", "writeOnly"]

/-- The keywords that only schemas of a kind may carry. -/
def ownKeywords : Kind → List String
  | .common | .boolean => []
  | .object => ["title", "maxProperties", "minProperties"]
  | .string | .enumeration => ["maxLength", "minLength", "pattern", "format"]
  | .number => ["multipleOf", "maximum", "exclusiveMaximum", "minimum", "exclusiveMinimum"]
  | .array => ["maxItems", "minItems", "uniqueItems"]

/-- All keywords that a schema of the kind may carry. -/
def keywords (kind : Kind) : List String :=
  commonKeywords ++ ownKeywords kind

/-- Why metadata is refused. -/
inductive Error
  | notAnObject (kindName : String)
  | unknownKeywords (unknown : List String) (allowed : List String)

/-- The wording of a refusal, for the factory that met it. -/
def Error.message (factory : String) : Error → String
  | .notAnObject kindName => s!"'{factory}' expects a dict of schema keywords, got {kindName}"
  | .unknownKeywords unknown allowed =>
      let refused := ", ".intercalate (Text.sorted unknown)
      let accepted := ", ".intercalate (Text.sorted allowed)
      s!"'{factory}' does not accept {refused} (allowed: {accepted})"

/-- Check metadata and take its entries; null stands for none. -/
def check (kind : Kind) : Json → Except Error (List (Key × Json))
  | .null => .ok []
  | .object fields =>
      match ((Fields.keys fields).map Key.display).filter fun name => name ∉ keywords kind with
      | [] => .ok fields
      | unknown => .error (.unknownKeywords unknown (keywords kind))
  | value => .error (.notAnObject value.kindName)

end SchemaAlgebra.Metadata
