import SchemaAlgebra.Documents.Files
import SchemaAlgebra.Schema.Location
import SchemaAlgebra.Schema.Pointer
import SchemaAlgebra.Validation.Reference

/-!
Inlining: every reference of a schema is replaced by what it names, which is inlined in turn. What
stands beside a reference is dropped, and the values of data keywords are kept as they are. A reference
that is met again while it is being inlined is an error.
-/

namespace SchemaAlgebra.Inline

/-- Keywords whose values are data and not schemas. -/
def dataKeywords : List String := ["enum", "const", "default", "example", "examples"]

/-- Why a schema cannot be inlined. -/
inductive Error
  /-- The reference leads back to itself. -/
  | cyclic (reference : String)
  /-- The pointer of the reference leads nowhere. -/
  | pointer (reference : String) (cause : Pointer.Error)
  /-- A document is not there or cannot be read. -/
  | document (cause : Document.Error)
  /-- A container is met inside itself. -/
  | endless

/-- The documents a reference can name, and a bound on the names they go by. -/
structure Library where
  fetch : String → Except Document.Error Json
  documents : List Json
  names : Nat

/-- The library of given documents. -/
def Library.ofDocuments (documents : Fields String Json) : Library where
  fetch location :=
    match documents.get? location with
    | some document => .ok document
    | none => .error (.missing location)
  documents := documents.values
  names := documents.length

/-- The library of files. A file goes by its normal path and by the spellings in references. -/
def Library.ofFiles (files : Files) : Library where
  fetch := files.document
  documents := files.documents
  names := 3 * files.texts.length

/-- The document that inlining began with, and the location it counts as. -/
structure Root where
  location : String
  document : Json

/-- A run of inlining: it records the locations of the documents it asks the library for. -/
abbrev Run (α : Type) := ExceptT Error (StateM (List String)) α

/-- The document at a location. The root is at hand; any other is asked for once. -/
def document (library : Library) (root : Option Root) (location : String) : Run Json := do
  match root with
  | some ⟨own, document⟩ => if location = own then return document
  | none => pure ()
  modify fun asked => if location ∈ asked then asked else asked ++ [location]
  match library.fetch location with
  | .ok document => return document
  | .error cause => throw (.document cause)

/-- The document and the fragment that a reference names, as seen from a location. -/
def target (reference location : String) : String × String :=
  let (place, fragment) := Text.cutAt '#' reference
  (if place = "" then location else Location.resolve location place, fragment)

mutual

/-- Replace every reference in a value, given how one is followed from the present location. -/
def replace (follow : String → Run Json) : Json → Run Json
  | .object fields =>
      match Fields.get? fields "$ref" with
      | some (.string reference) => follow reference
      | _ => return .object (← replaceFields follow fields)
  | .array items => return .array (← replaceItems follow items)
  | .foreign value => if value.isCycle then throw .endless else return .foreign value
  | value => return value

/-- Replace every reference in the items of a list. -/
def replaceItems (follow : String → Run Json) : List Json → Run (List Json)
  | [] => return []
  | item :: rest => do
      let first ← replace follow item
      return first :: (← replaceItems follow rest)

/-- Replace every reference in the members of an object, except in data. -/
def replaceFields (follow : String → Run Json) :
    List (Key × Json) → Run (List (Key × Json))
  | [] => return []
  | (key, value) :: rest => do
      let first ← if key ∈ dataKeywords.map Key.text then pure value else replace follow value
      return (key, first) :: (← replaceFields follow rest)

end

/-- Inline a value at a location; `open` holds the references that are being followed, and at most
`count` of them can be. -/
def inlineAt (library : Library) (root : Option Root) :
    (count : Nat) → (opened : List (String × String)) → (location : String) → Json → Run Json
  | 0, _, _ => replace fun reference => throw (.cyclic reference)
  | count + 1, opened, location => replace fun reference => do
      let key := target reference location
      if key ∈ opened then throw (.cyclic reference)
      let place ← document library root key.1
      match Pointer.lead place key.2 with
      | .ok found => inlineAt library root count (key :: opened) key.1 found
      | .error cause => throw (.pointer reference cause)

/-- A bound on the references that can be followed at once: they differ in their location or their
fragment, and each of the two is one of finitely many. -/
def bound (library : Library) (document : Json) : Nat :=
  let references := Reference.countItems "$ref" (document :: library.documents) + 1
  references * (library.names + references + 1) + 1

/-- Inline a schema; its references are relative to a base location. -/
def inlineSchema (library : Library) (base : String) (schema : Json) : Run Json :=
  inlineAt library (some ⟨base, schema⟩) (bound library schema) [] base schema

/-- Inline the document at a location. -/
def inlineDocument (library : Library) (location : String) : Run Json := do
  let schema ← document library none location
  inlineAt library none (bound library schema) [] location schema

/-- Inline a schema or, if a string is given, the document at that location. -/
def inline (library : Library) (base : String) : Json → Run Json
  | .string location => inlineDocument library location
  | schema => inlineSchema library base schema

/-- The reason of an error that concerns a reference. -/
def Error.reason? : Error → Option String
  | .cyclic _ => some "cyclic reference can't be inlined"
  | .pointer _ (.missing token) => some s!"'{token}' not found"
  | _ => none

/-- The wording of an inlining error; some have none. -/
def Error.message (error : Error) : Option String :=
  let about := fun (reference reason : String) =>
    "Schema Builder Error: can't resolve $ref " ++ quoteLiteral reference ++ ": " ++ reason
  match error with
  | .cyclic reference | .pointer reference (.missing _) =>
      some (about reference (error.reason?.getD ""))
  | .pointer _ (.flawed flaw) => some flaw.message
  | .document cause => cause.message
  | .endless => none

end SchemaAlgebra.Inline
