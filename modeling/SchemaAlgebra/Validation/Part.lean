import SchemaAlgebra.Validation.Keyword
import SchemaAlgebra.Validation.Reference

/-!
The parts of a schema that keywords evaluate. A part is a subschema together with its evaluation and
its way of coercing scalars; a node is a schema object whose keywords hold parts. Keywords are written
against parts, so none of them is recursive: `Evaluation` ties the knot.
-/

namespace SchemaAlgebra

/-- A subschema that can be evaluated on a value, either by itself or entered from the schema around
it, and that can coerce a scalar. -/
structure Part where
  schema : Json
  run : Options → Extent → Json → Outcome
  enter : Options → Extent → Json → Outcome
  coerce : Options → Json → Except Fault (Option Json)

/-- The argument of a keyword: itself, its items and its members as parts. -/
structure Parts where
  self : Part
  items : List Part
  members : List (Key × Part)

/-- The keywords of a schema object, in order. -/
abbrev Node := List (String × Parts)

namespace Json

/-- The part of a value that a step leads to. -/
def child? (value : Json) : Step → Option Json
  | .member key => value.get? key
  | .index i =>
      match value with
      | .array items => items[i]?
      | _ => none

/-- The value with another part at a step. -/
def setChild (value : Json) (step : Step) (child : Json) : Json :=
  match value, step with
  | .object fields, .member key =>
      .object (Fields.put fields (key.spelledIn (Fields.keys fields)) child)
  | .array items, .index i => .array (items.set i child)
  | value, _ => value

end Json

namespace Outcome

/-- Go on with something that may not be computable. -/
def given {α : Type} (found : Except Fault α) (value : Json) (next : α → Outcome) : Outcome :=
  match found with
  | .ok found => next found
  | .error fault => .fail value fault

end Outcome

namespace Part

/-- Evaluate a schema that is no object: `true` accepts, `false` refuses, and nothing else can be
evaluated. -/
def runFlat (schema value : Json) : Outcome :=
  match schema with
  | .bool true => .accept value
  | .bool false =>
      .reject value "None" [value] ("False schema does not allow " ++ value.literal)
  | _ =>
      match Shape.mentions? "$schema" schema with
      | some false => .fail value .noMembers
      | _ => .fail value .unusable

/-- The part of a schema that is no object. -/
def flat (schema : Json) : Part where
  schema := schema
  run _ _ value := runFlat schema value
  enter _ _ value := Outcome.given (Reference.enter "" schema) value fun _ => runFlat schema value
  coerce _ _ := .ok none

/-- Where a problem with what a step leads to is placed: one step further in, but a part that allows
nothing at all makes it a problem of the whole, and so does a key that is null. -/
def place (part : Part) (step : Step) (problem : Problem) : Problem :=
  match part.schema, step with
  | .bool false, _ | _, .member .null => problem
  | _, _ => problem.under step

/-- Evaluate the part on what a step leads to; nothing there means nothing to evaluate. -/
def descend (part : Part) (options : Options) (extent : Extent) (step : Step) (value : Json) :
    Outcome :=
  match value.child? step with
  | some child => (part.enter options extent child).within (part.place step) (value.setChild step)
  | none => .accept value

/-- Coerce what a step leads to. -/
def coerceAt (part : Part) (options : Options) (step : Step) (value : Json) : Outcome :=
  match value.child? step with
  | some child =>
      Outcome.given (part.coerce options child) value fun converted =>
        match converted with
        | some converted => .accept (value.setChild step converted)
        | none => .accept value
  | none => .accept value

/-- Evaluate the part only to see whether it accepts the value. What the evaluation normalized before
it was decided stays. -/
def probe (part : Part) (options : Options) (value : Json) (decide : Bool → Json → Outcome) :
    Outcome :=
  let outcome := part.run options .first value
  match outcome.fault with
  | some fault => .fail outcome.value fault
  | none => decide outcome.isValid outcome.value

end Part

namespace Parts

/-- The branches that an argument lists: the items of an array; what else can be listed holds no
schema. -/
def branches (argument : Parts) : Except Fault (List Part) :=
  match argument.self.schema with
  | .array _ => .ok argument.items
  | schema =>
      match schema.elements? with
      | some elements => .ok (elements.map Part.flat)
      | none => .error .unusable

/-- The named parts of an argument, which only an object has. -/
def named (argument : Parts) : Except Fault (List (Key × Part)) :=
  if argument.self.schema.isObject then .ok argument.members else .error .noMembers

end Parts

namespace Node

/-- The argument of a keyword. -/
def argument? (node : Node) (keyword : String) : Option Parts :=
  Fields.get? node keyword

/-- The schemas of declared properties. -/
def declared (node : Node) : List (Key × Part) :=
  match node.argument? "properties" with
  | some parts => parts.members
  | none => []

/-- Whether a property is declared. -/
def declares (node : Node) (name : Key) : Except Fault Bool :=
  match node.argument? "properties" with
  | none => .ok false
  | some parts =>
      match parts.self.schema, name with
      | .object fields, _ => .ok ((Json.object fields).has name)
      | .array items, _ => .ok (items.any (Json.agrees name.toJson))
      | .string text, .text name => .ok (Text.isPart name text)
      | _, _ => .error .unusable

/-- The patterns of property names, in order; all of them are texts. -/
def patterns (node : Node) : Except Fault (List String) :=
  match node.argument? "patternProperties" with
  | none => .ok []
  | some parts =>
      match parts.self.schema.elements? with
      | none => .error .unusable
      | some elements => elements.mapM fun element =>
          match element with
          | .string text => .ok text
          | _ => .error .unusable

end Node

/-- Fill in the default of a property that is missing. -/
def fillDefault (value : Json) (name : Key) (schema : Json) : Json :=
  match value, schema.default? with
  | .object fields, some default =>
      if value.has name then value else .object (Fields.put fields name default)
  | _, _ => value

/-- Fill in the defaults of missing properties, in the order of their declaration. -/
def fillDefaults (members : List (Key × Part)) (value : Json) : Json :=
  members.foldl (fun value member => fillDefault value member.1 member.2.schema) value

/-- The names in an object, in order. -/
def namesOf : Json → List Key
  | .object fields => Fields.keys fields
  | _ => []

/-- Whether a regular expression matches a name, which has to be a text. -/
def matchesName (pattern : Pattern) : Key → Except Fault Bool
  | .text name => .ok (pattern.search name)
  | _ => .error .unusable

/-- The names in an object that a regular expression matches. -/
def matchingNames (expression : Key) (value : Json) : Except Fault (List Key) :=
  match namesOf value, expression with
  | [], _ => .ok []
  | names, .text expression =>
      match Pattern.parse expression with
      | .ok pattern => names.filterM (matchesName pattern)
      | .error defect => .error (.pattern defect)
  | _, _ => .error .unusable

/-- The names in an object that are neither declared nor matched by a pattern. The patterns are read
as branches of one regular expression. -/
def undeclaredNames (node : Node) (value : Json) : Except Fault (List Key) := do
  let joined := "|".intercalate (← node.patterns)
  let left ← (namesOf value).filterM fun name => (!·) <$> node.declares name
  if joined = "" || left.isEmpty then return left
  else
    match Pattern.parse joined with
    | .ok pattern => left.filterM fun name => (!·) <$> matchesName pattern name
    | .error defect => .error (.pattern defect)

end SchemaAlgebra
