import SchemaAlgebra.Fields
import SchemaAlgebra.Json.Basic

/-!
The schema of schemas of draft 7 as a document, for references to it. Schemas that are checked before
use are not evaluated against this document; what is required of them is the same.
-/

namespace SchemaAlgebra.Draft

/-- Where the document is. -/
def location : String := "http://json-schema.org/draft-07/schema"

/-- A schema of one type with further members. -/
def typed (type : String) (members : Fields Key Json) : Json :=
  .object (("type", .string type) :: members)

/-- A reference to a definition of the document. -/
def defined (name : String) : Json := .object [("$ref", .string ("#/definitions/" ++ name))]

/-- A reference to the document itself. -/
def aSchema : Json := .object [("$ref", .string "#")]

/-- A reference to the definition of a list of schemas. -/
def schemas : Json := defined "schemaArray"

/-- A reference to the definition of a size. -/
def size : Json := defined "nonNegativeInteger"

/-- A reference to the definition of a size that is absent. -/
def optionalSize : Json := defined "nonNegativeIntegerDefault0"

/-- A reference to the definition of a list of texts. -/
def texts : Json := defined "stringArray"

/-- A text. -/
def text : Json := typed "string" []

/-- A text with a format. -/
def textOf (format : String) : Json := typed "string" [("format", .string format)]

/-- A number. -/
def number : Json := typed "number" []

/-- A truth value that is absent. -/
def optionalTruth : Json := typed "boolean" [("default", .bool false)]

/-- A list of anything. -/
def list : Json := typed "array" [("items", .bool true)]

/-- An object whose members are schemas. -/
def schemaMembers : Json :=
  typed "object" [("additionalProperties", aSchema), ("default", .object [])]

/-- What the keywords take. -/
def keywords : List (String × Json) :=
  [("$id", textOf "uri-reference"), ("$schema", textOf "uri"), ("$ref", textOf "uri-reference"),
    ("$comment", text), ("title", text), ("description", text), ("default", .bool true),
    ("readOnly", optionalTruth), ("examples", list),
    ("multipleOf", typed "number" [("exclusiveMinimum", .int 0)]), ("maximum", number),
    ("exclusiveMaximum", number), ("minimum", number), ("exclusiveMinimum", number),
    ("maxLength", size), ("minLength", optionalSize), ("pattern", textOf "regex"),
    ("additionalItems", aSchema),
    ("items", .object [("anyOf", .array [aSchema, schemas]), ("default", .bool true)]),
    ("maxItems", size), ("minItems", optionalSize), ("uniqueItems", optionalTruth),
    ("contains", aSchema), ("maxProperties", size), ("minProperties", optionalSize),
    ("required", texts), ("additionalProperties", aSchema), ("definitions", schemaMembers),
    ("properties", schemaMembers),
    ("patternProperties", typed "object"
      [("additionalProperties", aSchema), ("propertyNames", .object [("format", .string "regex")]),
        ("default", .object [])]),
    ("dependencies", typed "object"
      [("additionalProperties", .object [("anyOf", .array [aSchema, texts])])]),
    ("propertyNames", aSchema), ("const", .bool true), ("enum", list),
    ("type", .object [("anyOf", .array [defined "simpleTypes",
      typed "array" [("items", defined "simpleTypes"), ("minItems", .int 1),
        ("uniqueItems", .bool true)]])]),
    ("format", text), ("contentMediaType", text), ("contentEncoding", text), ("if", aSchema),
    ("then", aSchema), ("else", aSchema), ("allOf", schemas), ("anyOf", schemas),
    ("oneOf", schemas), ("not", aSchema)]

/-- What the keywords share. -/
def definitions : Fields Key Json :=
  [("schemaArray", typed "array" [("minItems", .int 1), ("items", aSchema)]),
    ("nonNegativeInteger", typed "integer" [("minimum", .int 0)]),
    ("nonNegativeIntegerDefault0",
      .object [("allOf", .array [size, .object [("default", .int 0)]])]),
    ("simpleTypes", .object [("enum", .array (["array", "boolean", "integer", "null", "number",
      "object", "string"].map .string))]),
    ("stringArray", typed "array" [("items", text), ("uniqueItems", .bool true),
      ("default", .array [])])]

/-- The document. -/
def document : Json :=
  .object [("$schema", .string (location ++ "#")), ("$id", .string (location ++ "#")),
    ("title", .string "Core schema meta-schema"), ("definitions", .object definitions),
    ("type", .array [.string "object", .string "boolean"]),
    ("properties", .object (keywords.map fun (name, rule) => (.text name, rule))),
    ("default", .bool true)]

end SchemaAlgebra.Draft
