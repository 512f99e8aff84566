import SchemaAlgebra.Schema.Metaschema
import SchemaAlgebra.Validation.Evaluation

/-!
Validation of one value or of a list of values. A schema is checked before it is used. The root of a
value is coerced first, since it has no place it could be put back into while it is evaluated; then
every problem is collected.
-/

namespace SchemaAlgebra

namespace Validation

/-- How a validation ended. -/
inductive Verdict
  | valid (result : Json)
  | invalid (violations : List Violation)
  | faulty (fault : Fault)

/-- The end of a validation, and what became of the value that was passed. -/
structure Result where
  verdict : Verdict
  passed : Json

/-- The verdict on an outcome. -/
def verdictOf (outcome : Outcome) : Verdict :=
  match outcome.fault, outcome.problems with
  | some fault, _ => .faulty fault
  | none, [] => .valid outcome.value
  | none, problems => .invalid (problems.map Violation.ofProblem)

/-- The result for a value that was passed: a container is changed in place, a scalar is not. -/
def resultOf (passed : Json) (outcome : Outcome) : Result :=
  ⟨verdictOf outcome, if passed.isContainer then outcome.value else passed⟩

/-- Coerce a root value toward a part. -/
def coerceRoot (options : Options) (part : Part) (value : Json) : Except Fault Json :=
  if options.coerceTypes then do
    return (← part.coerce options value).getD value
  else .ok value

/-- The location of a schema that stands for itself: its own, if it gives itself one. -/
def ownLocation : Json → String
  | .object fields => (Reference.ownLocation? fields).getD ""
  | _ => ""

/-- The scope of a schema at a location. -/
def scopeOf (location : String) (schema : Json) : Reference.Scope :=
  ⟨[(location, schema), (Draft.location, Draft.document)]⟩

/-- Validate a value against a schema that has been checked. -/
def validate (options : Options) (schema value : Json) : Result :=
  let location := ownLocation schema
  let scope := scopeOf location schema
  let part := Evaluation.partIn scope (scope.bound value) location schema
  match coerceRoot options part value with
  | .error fault => ⟨.faulty fault, value⟩
  | .ok root => resultOf value (Evaluation.evaluateRoot scope location options schema root)

/-- The name under which the items of a list find their schema. -/
def itemName : String := "schema"

/-- The schema of a list that is not empty and whose items have the schema of the name. -/
def listSchema : Json :=
  .object [("type", .string "array"), ("items", .object [("$ref", .string itemName)]),
    ("minItems", .int 1)]

/-- The scope of a list: the list's own schema, and the schema of its items under its name. -/
def listScope (schema : Json) : Reference.Scope :=
  ⟨[("", listSchema), (itemName, schema), (Draft.location, Draft.document)]⟩

/-- Coerce each of several values. -/
def coerceEach (options : Options) (part : Part) : List Json → Except Fault (List Json)
  | [] => .ok []
  | value :: rest => do
      let first ← coerceRoot options part value
      return first :: (← coerceEach options part rest)

/-- Validate a list of values against a schema that has been checked. -/
def validateList (options : Options) (schema value : Json) : Result :=
  let scope := listScope schema
  match value with
  | .array items =>
      let part := Evaluation.partIn scope (scope.bound value) "" schema
      match coerceEach options part items with
      | .error fault => ⟨.faulty fault, value⟩
      | .ok coerced =>
          resultOf value (Evaluation.evaluateRoot scope "" options listSchema (.array coerced))
  | _ => resultOf value (Evaluation.evaluateRoot scope "" options listSchema value)

end Validation

end SchemaAlgebra
