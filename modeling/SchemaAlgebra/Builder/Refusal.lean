import SchemaAlgebra.Schema.Metadata
import SchemaAlgebra.Text.Quoted

/-!
Why a builder refuses. A refusal says which rule of the algebra a call breaks: the schema has the
wrong shape, a name is missing or taken, an argument is of the wrong kind. Beside refusals there are
failures, which come from values that no rule speaks of; they have no wording.
-/

namespace SchemaAlgebra

/-- A rule that a call breaks. -/
inductive Refusal
  /-- A schema that is no object. -/
  | notASchema (kindName : String)
  /-- A reference in a schema, with the pointer to its node. -/
  | reference (pointer : String) (shown : String)
  /-- A schema that breaks a rule of schemas. -/
  | invalidSchema (complaint : String)
  /-- Metadata that a factory does not take. -/
  | metadata (factory : String) (error : Metadata.Error)
  /-- An enumeration of something that is no list. -/
  | notAListOfValues
  /-- An argument that should be a builder. -/
  | notABuilder (operation kindName : String)
  /-- The schema is no simple object schema. -/
  | notSimple (operation : String)
  /-- Properties added to something that is no object schema. -/
  | noPlaceForProperties
  /-- Undeclared properties allowed in something that is no object schema. -/
  | noPlaceForAdditional
  /-- Undeclared properties are allowed already. -/
  | additionalAlreadySet (owner : String)
  /-- A property of the name is there already. -/
  | alreadyExists (name owner : String)
  /-- An operation names a property that is not there. -/
  | absent (operation name owner : String)
  /-- A picked property is not there. -/
  | pickedAbsent (name owner : String)
  /-- The schema is not one that properties can be picked from. -/
  | notPickable
  /-- The schema is not one that additional properties can be picked from. -/
  | notPickableWithAdditional
  /-- Names given both as picked and as additional properties. -/
  | bothPickedAndAdditional (names : List String)
  /-- An additional property named twice. -/
  | repeatedAdditional

namespace Refusal

/-- What a simple object schema is, in words. -/
def simpleWording : String :=
  "can only be used with a simple object schema (no additionalProperties, oneOf, anyOf, allOf or not)"

/-- The wording of a refusal, without what all refusals begin with. -/
def detail : Refusal → String
  | notASchema kindName => s!"a schema must be a dict, got {kindName}"
  | reference pointer shown =>
      s!"$ref can't be used to initialize a SchemaBuilder (found {shown} at '#{pointer}'). " ++
        "Use 'SchemaBuilder.dereferenced_schema' instead."
  | invalidSchema complaint => s!"invalid schema: {complaint}"
  | metadata factory error => error.message factory
  | notAListOfValues => "'enum_schema' expects a list of values"
  | notABuilder operation kindName => s!"'{operation}' expects a SchemaBuilder, got {kindName}"
  | notSimple operation => s!"'{operation}' {simpleWording}"
  | noPlaceForProperties => "you can only add properties to an object schema"
  | noPlaceForAdditional => "additionalProperties can only be added to an object schema"
  | additionalAlreadySet owner => s!"additionalProperties is already set in {owner} schema."
  | alreadyExists name owner => s!"'{name}' already exists in {owner} schema"
  | absent operation name owner =>
      s!"'{operation}': property {name} is not available in {owner} schema."
  | pickedAbsent name owner => s!"picked property {name} is not available in {owner} schema."
  | notPickable =>
      "'pick_properties' can only be used with a simple object schema (no oneOf, anyOf, allOf or not)"
  | notPickableWithAdditional =>
      "'pick_additional_properties' can only be used with a simple object schema " ++
        "with additionalProperties (no oneOf, anyOf, allOf or not)"
  | bothPickedAndAdditional names =>
      let listed := ", ".intercalate names
      s!"'{listed}' can't be both a picked and an additional property"
  | repeatedAdditional => "additional property names must be unique"

/-- The wording of a refusal. -/
def message (refusal : Refusal) : String :=
  "Schema Builder Error: " ++ refusal.detail

end Refusal

/-- Why a call of a builder ends without success. -/
inductive Failure
  /-- A rule is broken. -/
  | refused (refusal : Refusal)
  /-- A value is not of a kind that the operation can use. -/
  | unusable
  /-- A value that has no members is asked for them. -/
  | noMembers
  /-- A schema that is inside itself has no end. -/
  | endless
  /-- A list has no item at the index that is asked for. -/
  | outOfRange
  /-- A whole number has too many digits to be shown. -/
  | tooManyDigits

end SchemaAlgebra
