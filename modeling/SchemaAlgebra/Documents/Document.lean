import SchemaAlgebra.Json.Parser
import SchemaAlgebra.Yaml.Value

/-!
Documents: texts at locations that hold one schema object each. A location that ends in `.yaml` or
`.yml` holds YAML, any other JSON.
-/

namespace SchemaAlgebra.Document

/-- Why there is no document at a location. -/
inductive Error
  | missing (location : String)
  /-- A path that goes on behind a file. -/
  | notADirectory
  /-- A path that leads to a directory. -/
  | isADirectory
  /-- A path in memory that goes on behind a file. -/
  | belowAFile
  | malformedJson (location : String) (text : List Char) (cause : Json.ReadError)
  | malformedYaml (location : String)
  | notAnObject (location kindName : String)
  | tooManyDigits (count : Nat)
  /-- YAML with a scalar that is not what its tag says. -/
  | noValue (cause : Yaml.Error)

/-- The wording of a document error; some have none. -/
def Error.message : Error → Option String
  | .missing location => some s!"Schema not found: {location}"
  | .notADirectory | .isADirectory | .belowAFile => none
  | .malformedJson location text cause =>
      let reason := cause.message text
      some s!"Invalid JSON in schema {location}: {reason}"
  | .malformedYaml location => some s!"Invalid YAML in schema {location}"
  | .notAnObject location kindName => some s!"Schema {location} must be an object, got {kindName}"
  | .tooManyDigits count => some (Numeral.Flaw.tooManyDigits count).message
  | .noValue cause => cause.message

/-- The kinds of document errors, as callers tell them apart. -/
inductive Error.Kind
  | missing
  | notADirectory
  | isADirectory
  | alreadyThere
  | inText (kind : Yaml.Error.Kind)
  deriving DecidableEq

/-- The kind of a document error. -/
def Error.kind : Error → Error.Kind
  | .missing _ => .missing
  | .notADirectory => .notADirectory
  | .isADirectory => .isADirectory
  | .belowAFile => .alreadyThere
  | .noValue cause => .inText cause.kind
  | .malformedJson _ _ _ | .malformedYaml _ | .notAnObject _ _ | .tooManyDigits _ => .inText .value

/-- Whether a location holds YAML. -/
def isYaml (location : String) : Bool :=
  [".yaml", ".yml"].any fun ending => ending.toList.isSuffixOf location.toList

/-- Read the value in a text. -/
def readValue (location text : String) : Except Error Json :=
  if isYaml location then
    match Yaml.read text with
    | .ok value => .ok value
    | .error .malformed => .error (.malformedYaml location)
    | .error cause => .error (.noValue cause)
  else
    match Json.parse text with
    | .ok value => .ok value
    | .error (.tooManyDigits count) => .error (.tooManyDigits count)
    | .error cause => .error (.malformedJson location text.toList cause)

/-- Read a document. -/
def parse (location text : String) : Except Error Json := do
  let value ← readValue location text
  if value.isObject then return value
  else .error (.notAnObject location value.kindName)

end SchemaAlgebra.Document
