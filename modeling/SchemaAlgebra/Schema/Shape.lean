import SchemaAlgebra.Json.Equality

/-!
The shape of a schema node, read off its own keywords: whether it describes an object, whether that
object may have undeclared properties, and whether the node combines other schemas. Simple object
schemas are the ones most edits apply to.
-/

namespace SchemaAlgebra.Shape

/-- The keywords that combine schemas. -/
def combinators : List String := ["oneOf", "allOf", "anyOf", "not"]

/-- Whether a value is the word `object`. -/
def isObjectWord : Json → Bool
  | .string s => s = "object"
  | _ => false

/-- Whether the node describes an object, by its type or else by its properties. -/
def isObjectSchema (node : List (Key × Json)) : Bool :=
  match Fields.get? node "type" with
  | some value => isObjectWord value
  | none => Fields.has node "properties"

/-- Whether a value is `false`. -/
def isFalse : Json → Bool
  | .bool false => true
  | _ => false

/-- Whether the node describes an object that may have undeclared properties. -/
def hasAdditionalProperties (node : List (Key × Json)) : Bool :=
  isObjectSchema node &&
    match Fields.get? node "additionalProperties" with
    | some value => !isFalse value
    | none => true

/-- Whether the node combines other schemas. -/
def hasCombinators (node : List (Key × Json)) : Bool :=
  combinators.any fun keyword => Fields.has node keyword

/-- Whether the node describes an object with declared properties only and combines nothing. -/
def isSimpleObjectSchema (node : List (Key × Json)) : Bool :=
  isObjectSchema node && !hasAdditionalProperties node && !hasCombinators node

/-- The four answers together, in the order in which they are shown. -/
def flags (node : List (Key × Json)) : List Bool :=
  [isObjectSchema node, hasAdditionalProperties node, hasCombinators node,
    isSimpleObjectSchema node]

/-- Why a value has no shape. -/
inductive Misuse
  /-- A value in which nothing can be looked up. -/
  | unusable
  /-- A text or a list, which has no members. -/
  | noMembers
  deriving DecidableEq

/-- Whether a word occurs in a value: as a key, as an item, or as a part of a text. -/
def mentions? (word : String) : Json → Option Bool
  | .object fields => some (Fields.has fields word)
  | .array items => some (items.any (Json.agrees (.string word)))
  | .string text => some (Text.isPart word text)
  | _ => none

/-- The four answers for any value. A text or a list that mentions neither a type nor properties is
taken for something that is no object; one that does cannot be looked into. -/
def flagsOf : Json → Except Misuse (List Bool)
  | .object fields => .ok (flags fields)
  | value =>
      match mentions? "type" value, mentions? "properties" value with
      | some false, some false =>
          .ok [false, false, combinators.any fun word => (mentions? word value).getD false, false]
      | some false, some true => .error .noMembers
      | _, _ => .error .unusable

end SchemaAlgebra.Shape
