import SchemaAlgebra.Format.Registry
import SchemaAlgebra.Json.Equality
import SchemaAlgebra.Json.Literal

/-!
What makes a JSON value a schema. Each keyword of draft 7 has a rule for its value; keywords are
looked at in a fixed order and the first broken rule is the complaint. Unknown keywords are free.

Where a rule has alternatives, each of them is looked at to its end. A regular expression that is well
formed and cannot be used leaves the question without an answer, if it is looked at.
-/

namespace SchemaAlgebra.Metaschema

/-- A rule for a value inside a schema. -/
inductive Rule
  | schema
  | anything
  | text
  | expression
  | truth
  | number
  | positive
  | count
  | list
  | texts
  | schemas
  | schemaOrSchemas
  | schemaMap
  | patternMap
  | dependencies
  | schemaOrTexts
  | types
  deriving DecidableEq

/-- The rules for the values of keywords, in the order in which they are applied. -/
def rules : List (String × Rule) :=
  [("$id", .text), ("$schema", .text), ("$ref", .text), ("$comment", .text), ("title", .text),
    ("description", .text), ("default", .anything), ("readOnly", .truth), ("examples", .list),
    ("multipleOf", .positive), ("maximum", .number), ("exclusiveMaximum", .number),
    ("minimum", .number), ("exclusiveMinimum", .number), ("maxLength", .count),
    ("minLength", .count), ("pattern", .expression), ("additionalItems", .schema),
    ("items", .schemaOrSchemas), ("maxItems", .count), ("minItems", .count),
    ("uniqueItems", .truth), ("contains", .schema), ("maxProperties", .count),
    ("minProperties", .count), ("required", .texts), ("additionalProperties", .schema),
    ("definitions", .schemaMap), ("properties", .schemaMap), ("patternProperties", .patternMap),
    ("dependencies", .dependencies), ("propertyNames", .schema), ("const", .anything),
    ("enum", .list), ("type", .types), ("format", .text), ("contentMediaType", .text),
    ("contentEncoding", .text), ("if", .schema), ("then", .schema), ("else", .schema),
    ("allOf", .schemas), ("anyOf", .schemas), ("oneOf", .schemas), ("not", .schema)]

/-- The names of types. -/
def typeNames : List String :=
  ["array", "boolean", "integer", "null", "number", "object", "string"]

/-- A broken rule: the value that breaks it, and what is wrong with it. -/
structure Complaint where
  subject : Json
  verdict : String

/-- The wording of a complaint. -/
def Complaint.message (complaint : Complaint) : String :=
  complaint.subject.literal ++ complaint.verdict

/-- The complaint about a value that has none of some types. -/
def wrongType (value : Json) (types : List String) : Complaint :=
  ⟨value, " is not of type " ++ ", ".intercalate (types.map quoteLiteral)⟩

/-- The complaint about a value that fits none of several rules. -/
def fitsNone (value : Json) : Complaint :=
  ⟨value, " is not valid under any of the given schemas"⟩

/-- Whether a value is the name of a type. -/
def isTypeName : Json → Bool
  | .string name => name ∈ typeNames
  | _ => false

/-- What looking at a value found: the first complaint, if there is one, unless an expression left the
question open. -/
abbrev Finding := Except Pattern.Defect (Option Complaint)

/-- Nothing to complain about. -/
def fine : Finding := .ok none

/-- A complaint. -/
def complain (complaint : Complaint) : Finding := .ok (some complaint)

/-- A complaint if a rule is broken. -/
def unlessHolds (holds : Bool) (complaint : Complaint) : Finding :=
  if holds then fine else complain complaint

/-- How far a value is looked at: to the first complaint, or to its end. -/
inductive Depth
  | toFirst
  | toEnd
  deriving DecidableEq

/-- One finding and then another. -/
def Depth.andThen (depth : Depth) (first : Finding) (next : Unit → Finding) : Finding :=
  match first with
  | .error defect => .error defect
  | .ok none => next ()
  | .ok (some complaint) =>
      match depth with
      | .toFirst => complain complaint
      | .toEnd =>
          match next () with
          | .error defect => .error defect
          | .ok _ => complain complaint

/-- The complaint about a value of which no alternative holds, given the finding about the only one
that can. -/
def onlyIf (finding : Finding) (value : Json) : Finding :=
  match finding with
  | .error defect => .error defect
  | .ok none => fine
  | .ok (some _) => complain (fitsNone value)

/-- The first item that is no string. -/
def nonText? (items : List Json) : Option Complaint :=
  (items.find? fun item => !item.isString).map fun item => wrongType item ["string"]

/-- The complaint about a list that should hold different strings. -/
def textsComplaint? (items : List Json) : Option Complaint :=
  match nonText? items with
  | some complaint => some complaint
  | none =>
      if Json.allDifferent items then none else some ⟨.array items, " has non-unique elements"⟩

/-- The finding about a text that should be a regular expression. -/
def expressionFinding (text : String) : Finding :=
  match Format.isExpression text with
  | .error defect => .error defect
  | .ok holds => unlessHolds holds ⟨.string text, " is not a 'regex'"⟩

/-- The complaint about a value that should not be below zero. -/
def negative (value : Json) : Complaint :=
  ⟨value, " is less than the minimum of 0"⟩

/-- The finding about a value under a rule that looks at no schema inside it. -/
def flatFinding (rule : Rule) (value : Json) : Finding :=
  match rule with
  | .text => unlessHolds value.isString (wrongType value ["string"])
  | .expression =>
      match value with
      | .string text => expressionFinding text
      | _ => complain (wrongType value ["string"])
  | .truth =>
      match value with
      | .bool _ => fine
      | _ => complain (wrongType value ["boolean"])
  | .number => unlessHolds value.number?.isSome (wrongType value ["number"])
  | .positive =>
      match value.number? with
      | some number =>
          unlessHolds (!number.atMost (.int 0))
            ⟨value, " is less than or equal to the minimum of 0"⟩
      | none => complain (wrongType value ["number"])
  | .count =>
      match value with
      | .int n => unlessHolds (0 ≤ n) (negative value)
      | .double d =>
          match d.toInt? with
          | some n => unlessHolds (0 ≤ n) (negative value)
          | none => complain (wrongType value ["integer"])
      | _ => complain (wrongType value ["integer"])
  | .list => unlessHolds value.isArray (wrongType value ["array"])
  | .texts =>
      match value with
      | .array items => .ok (textsComplaint? items)
      | _ => complain (wrongType value ["array"])
  | .types =>
      match value with
      | .array items =>
          unlessHolds (!items.isEmpty && items.all isTypeName && Json.allDifferent items)
            (fitsNone value)
      | _ => unlessHolds (isTypeName value) (fitsNone value)
  | _ => fine

/-- The findings about several texts that should be regular expressions. -/
def expressionsFinding (depth : Depth) : List String → Finding
  | [] => fine
  | text :: rest => depth.andThen (expressionFinding text) fun _ => expressionsFinding depth rest

mutual

/-- The finding about a value under a rule. -/
def finding (depth : Depth) (rule : Rule) : Json → Finding
  | .object fields =>
      match rule with
      | .schema =>
          rules.foldr (fun entry next =>
            depth.andThen (fieldFinding depth entry.2 entry.1 fields) fun _ => next) fine
      | .schemaOrSchemas | .schemaOrTexts =>
          onlyIf (rules.foldr (fun entry next =>
            Depth.toEnd.andThen (fieldFinding .toEnd entry.2 entry.1 fields) fun _ => next) fine)
            (.object fields)
      | .schemas => complain (wrongType (.object fields) ["array"])
      | .schemaMap => membersFinding depth .schema fields
      | .patternMap =>
          depth.andThen (membersFinding depth .schema fields) fun _ =>
            expressionsFinding depth ((Fields.keys fields).filterMap Key.text?)
      | .dependencies => membersFinding depth .schemaOrTexts fields
      | _ => flatFinding rule (.object fields)
  | .array items =>
      match rule with
      | .schema => complain (wrongType (.array items) ["object", "boolean"])
      | .schemas =>
          if items.isEmpty then complain ⟨.array items, " should be non-empty"⟩
          else itemsFinding depth items
      | .schemaOrSchemas =>
          if items.isEmpty then complain (fitsNone (.array items))
          else onlyIf (itemsFinding .toEnd items) (.array items)
      | .schemaOrTexts =>
          unlessHolds (textsComplaint? items).isNone (fitsNone (.array items))
      | .schemaMap | .patternMap | .dependencies => complain (wrongType (.array items) ["object"])
      | _ => flatFinding rule (.array items)
  | value =>
      match rule, value with
      | .schema, .bool _ | .schemaOrSchemas, .bool _ | .schemaOrTexts, .bool _ => fine
      | .schema, _ => complain (wrongType value ["object", "boolean"])
      | .schemaOrSchemas, _ | .schemaOrTexts, _ => complain (fitsNone value)
      | .schemas, _ => complain (wrongType value ["array"])
      | .schemaMap, _ | .patternMap, _ | .dependencies, _ => complain (wrongType value ["object"])
      | _, _ => flatFinding rule value

/-- The finding about the value of a keyword, if the keyword is there. -/
def fieldFinding (depth : Depth) (rule : Rule) (keyword : String) : List (Key × Json) → Finding
  | [] => fine
  | (key, value) :: rest =>
      if key = .text keyword then finding depth rule value
      else fieldFinding depth rule keyword rest

/-- The finding about the members of an object. -/
def membersFinding (depth : Depth) (rule : Rule) : List (Key × Json) → Finding
  | [] => fine
  | (_, value) :: rest =>
      depth.andThen (finding depth rule value) fun _ => membersFinding depth rule rest

/-- The finding about schemas in a list. -/
def itemsFinding (depth : Depth) : List Json → Finding
  | [] => fine
  | item :: rest =>
      depth.andThen (finding depth .schema item) fun _ => itemsFinding depth rest

end

/-- What looking at a value as a schema finds. -/
def check (schema : Json) : Finding :=
  finding .toFirst .schema schema

/-- Whether a value is a schema. -/
def isSchema (schema : Json) : Bool :=
  match check schema with
  | .ok none => true
  | _ => false

end SchemaAlgebra.Metaschema
