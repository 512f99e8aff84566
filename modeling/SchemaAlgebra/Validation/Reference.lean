import SchemaAlgebra.Schema.Pointer
import SchemaAlgebra.Schema.Shape
import SchemaAlgebra.Text.Uri
import SchemaAlgebra.Validation.Coercion

/-!
References inside a schema during validation. A reference names a document and, after a number sign, a
JSON pointer or an anchor. It is relative to the location of the schema it stands in: a subschema can
give itself a location by its `$id`, or an anchor if its `$id` begins with a number sign.
-/

namespace SchemaAlgebra.Reference

/-- The documents that references can name, by their locations. -/
structure Scope where
  documents : Fields String Json

/-- A location without the number signs at its end. -/
def dropSigns (location : String) : String :=
  String.ofList ((location.toList.reverse.dropWhile (· = '#')).reverse)

/-- The location that a schema gives itself; one with a reference gives itself none. -/
def ownLocation? (fields : List (Key × Json)) : Option String :=
  if Fields.has fields "$ref" then none
  else
    match Fields.get? fields "$id" with
    | some (.string id) => if id.startsWith "#" then none else some (dropSigns id)
    | _ => none

/-- The location inside a schema object, as seen from the location around it. -/
def locationIn (location : String) (fields : List (Key × Json)) : String :=
  match ownLocation? fields with
  | some own => Uri.join location own
  | none => location

/-- The location inside a subschema that is entered. What is no schema, or gives itself a location that
is no text, cannot be entered; a text or a list that mentions a reference is refused later. -/
def enter (location : String) : Json → Except Fault String
  | .bool _ => .ok location
  | .object fields =>
      if Fields.has fields "$ref" then .ok location
      else
        match Fields.get? fields "$id" with
        | none | some .null | some (.string _) => .ok (locationIn location fields)
        | some _ => .error .noMembers
  | schema =>
      match Shape.mentions? "$ref" schema with
      | some true => .ok location
      | some false => .error .noMembers
      | none => .error .unusable

/-- How a keyword's value holds subschemas. -/
inductive Holder
  | one
  | list
  | members
  | oneOrList
  | dependencies
  deriving DecidableEq

/-- The keywords that hold subschemas, in the order in which these are looked for. -/
def holders : List (String × Holder) :=
  [("additionalItems", .one), ("additionalProperties", .one), ("contains", .one), ("else", .one),
    ("if", .one), ("not", .one), ("propertyNames", .one), ("then", .one), ("allOf", .list),
    ("anyOf", .list), ("oneOf", .list), ("definitions", .members), ("patternProperties", .members),
    ("properties", .members), ("items", .oneOrList), ("dependencies", .dependencies)]

/-- A subschema with the location it stands at. -/
structure Resource where
  location : String
  contents : Json

mutual

/-- The subschemas of a value, inner ones before outer ones. Dependencies are looked into only if the
first of them is an object. -/
def resourcesAs (location : String) (holder : Holder) : Json → List Resource
  | .object fields =>
      match holder with
      | .one | .oneOrList =>
          let inner := locationIn location fields
          (holders.flatMap fun entry => resourcesUnder inner entry.1 entry.2 fields) ++
            [⟨inner, .object fields⟩]
      | .members => memberResources location fields
      | .dependencies =>
          match fields with
          | (_, .object _) :: _ => memberResources location fields
          | _ => []
      | .list => []
  | .array items =>
      match holder with
      | .list | .oneOrList => itemResources location items
      | _ => [⟨location, .array items⟩]
  | value => [⟨location, value⟩]

/-- The subschemas under a keyword. -/
def resourcesUnder (location : String) (keyword : String) (holder : Holder) :
    List (Key × Json) → List Resource
  | [] => []
  | (key, value) :: rest =>
      if key = .text keyword then resourcesAs location holder value
      else resourcesUnder location keyword holder rest

/-- The subschemas among the members of an object. -/
def memberResources (location : String) : List (Key × Json) → List Resource
  | [] => []
  | (_, value) :: rest => resourcesAs location .one value ++ memberResources location rest

/-- The subschemas among the items of a list. -/
def itemResources (location : String) : List Json → List Resource
  | [] => []
  | item :: rest => resourcesAs location .one item ++ itemResources location rest

end

/-- Why a subschema cannot be searched. -/
def searchFault? : Json → Option Fault
  | .bool _ => none
  | .object fields =>
      match Fields.get? fields "$id" with
      | none | some (.string _) => none
      | some _ => some .noMembers
  | value => if (Shape.mentions? "$ref" value).isSome then some .noMembers else some .unusable

/-- All subschemas of the documents, if they can be searched. -/
def Scope.resources (scope : Scope) : Except Fault (List Resource) :=
  let all := scope.documents.flatMap fun entry => resourcesAs entry.1 .one entry.2
  match all.findSome? fun resource => searchFault? resource.contents with
  | some fault => .error fault
  | none => .ok all

/-- Whether a schema carries an anchor. -/
def carries (anchor : String) (schema : Json) : Bool :=
  match schema.get? "$id" with
  | some (.string id) => id = "#" ++ anchor
  | _ => false

/-- Whether a schema gives itself a location. -/
def isLocated : Json → Bool
  | .object fields => (ownLocation? fields).isSome
  | _ => false

/-- The document at a location: one of the scope's, or a subschema that gives itself the location. -/
def Scope.document (scope : Scope) (location reference : String) : Except Fault Json := do
  match scope.documents.get? location with
  | some document => return document
  | none =>
      let found := (← scope.resources).find? fun resource =>
        resource.location = location && isLocated resource.contents
      match found with
      | some resource => return resource.contents
      | none => .error (.unknownDocument reference)

/-- The subschema with an anchor in a document; a document is searched by its location and then by
the location that it gives itself. -/
def Scope.anchored (scope : Scope) (location : String) (document : Json) (anchor : String) :
    Except Fault Json := do
  let resources ← scope.resources
  let at? := fun (place : String) =>
    (resources.find? fun resource =>
      resource.location = place && carries anchor resource.contents).map Resource.contents
  let own := match document with
    | .object fields => ownLocation? fields
    | _ => none
  match at? location, own.bind at? with
  | some found, _ => return found
  | none, some found => return found
  | none, none =>
      if anchor.toList.contains '/' then .error (.noPointer anchor)
      else .error (.noAnchor anchor document)

/-- The item of a list that an index counts, from the end if it is negative. -/
def itemAt? {α : Type} (items : List α) (index : Int) : Option α :=
  if 0 ≤ index then items[index.toNat]?
  else if index.natAbs ≤ items.length then items[items.length - index.natAbs]?
  else none

/-- The place that a pointer has come to: the value there, its location, and the names that led there
from the last schema that has a location of its own. An index is no name. -/
structure Place where
  value : Json
  location : String
  names : List (Option String)

/-- Whether names lead from a schema to a subschema. -/
def leadsToSchema (target : Json) : List (Option String) → Bool
  | [] => true
  | name :: rest =>
      match name.bind fun name => holders.lookup name with
      | none => false
      | some .one => leadsToSchema target rest
      | some .oneOrList | some .dependencies => target.isObject
      | some .list | some .members =>
          match rest with
          | [] => false
          | _ :: rest => leadsToSchema target rest

/-- The child of a value that a token names, and the name if it is one. -/
def child (document : Json) (pointer : String) (value : Json) (token : List Char) :
    Except Fault (Json × Option String) :=
  let index : Except Fault Int :=
    match Numeral.readWhole token with
    | .ok n => .ok n
    | .error flaw => .error (.notAnIndex flaw)
  let found := fun (child : Option Json) (name : Option String) =>
    match child with
    | some child => Except.ok (child, name)
    | none => Except.error (Fault.nowhere pointer document)
  match value with
  | .object _ =>
      let name := String.ofList (Pointer.unescape token)
      found (value.get? name) (some name)
  | .array items => do found (itemAt? items (← index)) none
  | .string text => do found ((itemAt? (Text.singles text) (← index)).map .string) none
  | _ => .error .unusable

/-- One step of a pointer. -/
def step (document : Json) (pointer : String) (place : Place) (token : List Char) :
    Except Fault Place := do
  let (value, name) ← child document pointer place.value token
  let names := place.names ++ [name]
  if leadsToSchema value names then
    let location ← enter place.location value
    return ⟨value, location, if isLocated value then [] else names⟩
  else return ⟨value, place.location, names⟩

/-- The part of a document that a pointer leads to, and the location there. -/
def follow (document : Json) (location pointer : String) : Except Fault (String × Json) := do
  let tokens := Text.splitAtAll '/' (Text.percentDecoded (pointer.toList.drop 1))
  let place ← tokens.foldlM (step document pointer) ⟨document, location, []⟩
  return (place.location, place.value)

/-- The location and the fragment that a reference names, as seen from a location. -/
def target (location reference : String) : String × String :=
  if reference.startsWith "#" then (location, (reference.drop 1).toString)
  else Uri.cutFragment (Uri.join location reference)

/-- What a reference names, and the location there. -/
def resolve (scope : Scope) (location : String) (reference : Json) :
    Except Fault (String × Json) := do
  match reference with
  | .string text =>
      let (place, fragment) := target location text
      let document ← scope.document place text
      if fragment = "" then return (place, document)
      else if fragment.startsWith "/" then follow document place fragment
      else return (place, ← scope.anchored place document fragment)
  | _ => .error .noMembers

mutual

/-- How often a key occurs in a value. -/
def count (word : Key) : Json → Nat
  | .object fields => countFields word fields
  | .array items => countItems word items
  | _ => 0

/-- How often a key occurs in items. -/
def countItems (word : Key) : List Json → Nat
  | [] => 0
  | item :: rest => count word item + countItems word rest

/-- How often a key occurs in members, their own keys included. -/
def countFields (word : Key) : List (Key × Json) → Nat
  | [] => 0
  | (key, value) :: rest =>
      (if key = word then 1 else 0) + count word value + countFields word rest

end

/-- A bound on the references that lead on in a row while a value is evaluated. Between two of the same
kind at one location the evaluation has gone deeper into the value, which normalization makes no deeper
than the defaults of the documents are. -/
def Scope.bound (scope : Scope) (value : Json) : Nat :=
  let schemas := scope.documents.values
  let references := countItems "$ref" schemas + 1
  let locations := countItems "$id" schemas + 1
  references * locations * (value.depth + references * (Json.itemsDepth schemas + 2) + 1)

end SchemaAlgebra.Reference
