import SchemaAlgebra.Builder.Factory
import SchemaAlgebra.Schema.Shape
import SchemaAlgebra.Store.Basic
import SchemaAlgebra.Store.Walk

/-!
Edits of a schema in place. An edit first checks that the schema has the right shape and that the
names it was given are there or free; a refusal comes before anything is changed. Schemas that an edit
multiplies are copied, schemas that it is given are shared.
-/

namespace SchemaAlgebra

/-- An edit of a builder's schema, with its arguments. A name is a text; another scalar given for one
becomes a key of its own kind. -/
inductive Edit
  | setOptional (names : Operand)
  | setRequired (names : Operand)
  | toOptionals
  | toDeepOptionals
  | add (required : Bool) (name : Json) (schema : Operand)
  | addMade (required : Bool) (name : Json) (factory : Factory)
  | addAdditional (schema : Operand)
  | rename (required : Bool) (name newName : Json)
  | pick (names : Operand)
  | pickAdditional (names additional : Operand)
  | omit (names : Operand)
  | transform (schema names : Operand)
  | transformToArray (names : Operand)
  | merge (other : Operand)
  | overwrite (other : Operand)

namespace Builder

/-- The items that a slot lists: of a list its items, of an object its keys, of a string its
characters. -/
def items (slot? : Option Slot) : Change (List Slot) := do
  match slot? with
  | none => return []
  | some (.array items) => return items
  | some (.string text) => return (Text.singles text).map .string
  | some (.node address) => return (Fields.keys (← Change.cell address)).map Key.toSlot
  | some _ => throw .unusable

/-- The spelling of a key among those of an object. -/
def spelled (cell : Cell) (key : Key) : Key :=
  key.spelledIn (Fields.keys cell)

/-- Whether a slot holds a name: as a key, as an item, or as a part of a string. -/
def holds (slot? : Option Slot) (name : Json) : Change Bool := do
  match slot? with
  | none => do
      let _ ← Change.keyOf name
      return false
  | some (.array items) => Change.lists items name
  | some (.string text) =>
      match name with
      | .string part => return Text.isPart part text
      | _ => throw .unusable
  | some (.node address) => do
      let cell ← Change.cell address
      return Fields.has cell (spelled cell (← Change.keyOf name))
  | some _ => throw .unusable

/-- The index of an item that a value denotes, counted from the end if it is negative. -/
def indexIn (count : Nat) (name : Json) : Change Nat := do
  let place ← match name with
    | .int n => pure n
    | .bool b => pure (if b then 1 else 0)
    | _ => throw .unusable
  let index := if place < 0 then place + count else place
  if 0 ≤ index ∧ index < count then return index.toNat else throw .outOfRange

/-- What a name leads to in a slot that holds it. -/
def member (slot? : Option Slot) (name : Json) : Change Slot := do
  match slot? with
  | some (.node address) => do
      let cell ← Change.cell address
      match Fields.get? cell (spelled cell (← Change.keyOf name)) with
      | some slot => return slot
      | none => throw .unusable
  | some (.array items) => return items.getD (← indexIn items.length name) .null
  | _ => throw .unusable

/-- The properties of a schema, unless there are none. -/
def properties (address : Nat) : Change (Option Slot) :=
  Change.present? address "properties"

/-- Set a property of a schema that has properties: a list of them is changed at an index. -/
def assign (address : Nat) (name : Json) (slot : Slot) : Change Unit := do
  match Fields.get? (← Change.cell address) "properties" with
  | some (.node inner) => do
      let cell ← Change.cell inner
      Change.put inner (spelled cell (← Change.keyOf name)) slot
  | some (.array items) => do
      let index ← indexIn items.length name
      Change.put address "properties" (.array (items.set index slot))
  | _ => throw .unusable

/-- The names of the required properties. -/
def required (address : Nat) : Change (List Slot) := do
  items (← Change.present? address "required")

/-- Set the names of the required properties; none leave no trace. -/
def setRequired (address : Nat) (names : List Slot) : Change Unit :=
  if names.isEmpty then Change.drop address "required"
  else Change.put address "required" (.array names)

/-- The schema at an address without what its objects hold, of which its shape is read off. -/
def shape (address : Nat) : Change (List (Key × Json)) := do
  return Cell.face (← Change.cell address)

/-- Refuse an operation on anything but a simple object schema. -/
def requireSimple (address : Nat) (operation : String) : Change Unit := do
  if Shape.isSimpleObjectSchema (← shape address) then return ()
  else Change.refuse (.notSimple operation)

/-- Refuse an operation on properties that are not there. -/
def requireExisting (address : Nat) (operation : String) : List Json → Change Unit
  | [] => return ()
  | name :: rest => do
      if ← holds (← properties address) name then requireExisting address operation rest
      else
        let shown ← Change.shown name
        Change.refuse (.absent operation shown (← Change.owner address))

/-- The keys that the items of a list are. -/
def keysOf (slots : List Slot) : Change (List Key) :=
  slots.mapM fun slot => Change.keyOf slot.face

/-- The items of a list of keys that are none of some others. -/
def without (keys slots : List Key) : List Key :=
  slots.filter fun slot => !keys.any fun key => key.alike slot

/-- The items of a list that are plainly different from a value. -/
def others (name : Json) (slots : List Slot) : Change (List Slot) :=
  slots.filterM fun slot => do return !(← Change.agrees slot name)

/-- The address of an object, to list its members. -/
def membersAt (slot? : Option Slot) : Change (Option Nat) :=
  match slot? with
  | none => return none
  | some (.node address) => return some address
  | _ => throw .noMembers

/-- The properties that can be set: those the schema has, or new ones. -/
def ownProperties (address : Nat) : Change Slot := do
  match Fields.get? (← Change.cell address) "properties" with
  | some slot => return slot
  | none => do
      let fresh := Slot.node (← Change.push [])
      Change.put address "properties" fresh
      return fresh

/-- Refuse a name that is taken. -/
def refuseTaken (address : Nat) (name : Json) : Change Unit := do
  let shown ← Change.shown name
  Change.refuse (.alreadyExists shown (← Change.owner address))

/-- Add a property that is not there yet. -/
def insertProperty (address : Nat) (name : Json) (schema : Operand) : Change Unit := do
  if !Shape.isObjectSchema (← shape address) then Change.refuse .noPlaceForProperties
  if ← holds (← properties address) name then refuseTaken address name
  let node ← Change.nodeOf "add_property" schema
  let _ ← ownProperties address
  assign address name (.node node)

/-- Add a property, required or not. -/
def addProperty (address : Nat) (isRequired : Bool) (name : Json) (schema : Operand) :
    Change Unit := do
  insertProperty address name schema
  if isRequired then
    let before ← required address
    setRequired address (before ++ [← Change.place name])

/-- Allow undeclared properties, of a schema if one is given. -/
def addAdditional (address : Nat) (schema : Operand) : Change Unit := do
  if !Shape.isObjectSchema (← shape address) then Change.refuse .noPlaceForAdditional
  match Fields.get? (← Change.cell address) "additionalProperties" with
  | some (.bool true) | some (.node _) =>
      Change.refuse (.additionalAlreadySet (← Change.owner address))
  | _ =>
      if schema.isNull then Change.put address "additionalProperties" (.bool true)
      else
        let node ← Change.nodeOf "add_additional_properties" schema
        Change.put address "additionalProperties" (.node node)

/-- Rename a property in its place and make it required or not. -/
def rename (address : Nat) (isRequired : Bool) (name newName : Json) : Change Unit := do
  requireSimple address (if isRequired then "rename_property" else "rename_optional_property")
  let declared ← properties address
  if ← holds declared newName then refuseTaken address newName
  if ← holds declared name then
    match ← membersAt declared with
    | some members =>
        let cell ← Change.cell members
        let old := spelled cell (← Change.keyOf name)
        let renamed ← Change.push (Fields.relabel cell old (← Change.keyOf newName))
        Change.put address "properties" (.node renamed)
    | none => pure ()
    let kept ← others name (← required address)
    if isRequired then setRequired address (kept ++ [← Change.place newName])
    else setRequired address kept

/-- Refuse to pick properties that are not there. -/
def requirePicked (address : Nat) (declared : Option Slot) : List Json → Change Unit
  | [] => return ()
  | name :: rest => do
      if ← holds declared name then requirePicked address declared rest
      else
        let shown ← Change.shown name
        Change.refuse (.pickedAbsent shown (← Change.owner address))

/-- The members that names lead to, each under its name; of two names that are alike the first gives
the key. -/
def selected (declared : Option Slot) : List Json → Cell → Change Cell
  | [], picked => return picked
  | name :: rest, picked => do
      let slot ← member declared name
      selected declared rest (Fields.put picked (spelled picked (← Change.keyOf name)) slot)

/-- The items of a list that are plainly equal to one of some values. -/
def among (names : List Json) (slots : List Slot) : Change (List Slot) :=
  slots.filterM fun slot => names.anyM fun name => Change.agrees slot name

/-- Keep only the named properties, in the order of the names. -/
def pickNames (address : Nat) (names : List Json) : Change Unit := do
  let declared ← properties address
  requirePicked address declared names
  let picked ← Change.push (← selected declared names [])
  Change.put address "properties" (.node picked)
  if Fields.has (← Change.cell address) "required" then
    setRequired address (← among names (← required address))

/-- Refuse to pick from anything but an object schema without combinations. -/
def requirePickable (address : Nat) : Change Unit := do
  let face ← shape address
  if !Shape.isObjectSchema face || Shape.hasCombinators face then Change.refuse .notPickable

/-- Keep only some properties of an object schema. -/
def pick (address : Nat) (names : List Json) : Change Unit := do
  requirePickable address
  pickNames address names

/-- Keep only the properties that an argument names. -/
def pickListed (address : Nat) (names : Operand) : Change Unit := do
  requirePickable address
  pickNames address (← Change.names names)

/-- Whether no two keys of a list are alike. -/
def areDistinct : List Key → Bool
  | [] => true
  | key :: rest => !rest.any key.alike && areDistinct rest

/-- Refuse additional properties that are picked too or named twice. -/
def requireDistinct (names additional : List Json) : Change Unit := do
  let clashes := additional.filter fun name => names.any fun other => other.agrees name
  if !clashes.isEmpty then
    let texts ← clashes.mapM fun name =>
      match name with
      | .string text => pure text
      | _ => throw .unusable
    Change.refuse (.bothPickedAndAdditional texts)
  if !areDistinct (← additional.mapM Change.keyOf) then Change.refuse .repeatedAdditional

/-- Copy a slot. -/
def copied (slot : Slot) : Change Slot := do
  let (slot, store) := (← get).copy slot
  set store
  return slot

/-- Add required properties of which each has its own copy of the schema that undeclared properties
have. -/
def addLike (address : Nat) (prior : Option Slot) : List Json → Change Unit
  | [] => return ()
  | name :: rest => do
      let node ← match prior with
        | some (.node inner) => do
            match ← copied (.node inner) with
            | .node root => pure root
            | _ => throw .unusable
        | _ => Change.push []
      addProperty address true name (.builder (← adopt node))
      addLike address prior rest

/-- Keep only the named properties, and all, none or some undeclared ones. -/
def pickAdditional (address : Nat) (names additional : Operand) : Change Unit := do
  let face ← shape address
  if !Shape.isObjectSchema face || !Shape.hasAdditionalProperties face ||
      Shape.hasCombinators face then
    Change.refuse .notPickableWithAdditional
  let kept ← Change.names names
  let extra ← if additional.isNull then pure [] else Change.names additional
  requireDistinct kept extra
  let prior := Fields.get? (← Change.cell address) "additionalProperties"
  pick address kept
  if additional.isNull then Change.put address "additionalProperties" (.bool false)
  else if extra.isEmpty then
    match prior with
    | none | some .null => Change.put address "additionalProperties" (.bool true)
    | some slot => Change.put address "additionalProperties" slot
  else addLike address prior extra

/-- Keep every property but the named ones. -/
def omitNames (address : Nat) (names : Operand) : Change Unit := do
  requireSimple address "omit_properties"
  let omitted ← (← Change.names names).mapM Change.keyOf
  let declared ← keysOf (← items (← properties address))
  pick address ((without omitted declared).map Key.toJson)

/-- Let each named property alternatively match a copy of a schema. -/
def offer (address alternative : Nat) : List Json → Change Unit
  | [] => return ()
  | name :: rest => do
      let current ← member (← properties address) name
      let other ← copied (.node alternative)
      let choice ← Change.push [("oneOf", .array [current, other])]
      assign address name (.node choice)
      offer address alternative rest

/-- Let named properties alternatively match a schema. -/
def transform (address : Nat) (schema names : Operand) : Change Unit := do
  requireSimple address "transform_properties"
  let chosen ← Change.names names
  requireExisting address "transform_properties" chosen
  let alternative ← Change.nodeOf "transform_properties" schema
  offer address alternative chosen

/-- Let each named property alternatively be a list of what it was. -/
def offerArrays (address : Nat) : List Json → Change Unit
  | [] => return ()
  | name :: rest => do
      let current ← member (← properties address) name
      let inner ← copied current
      let list ← Change.push [("type", .string "array"), ("items", inner)]
      let choice ← Change.push [("oneOf", .array [current, .node list])]
      assign address name (.node choice)
      offerArrays address rest

/-- The values of slots; a slot that is inside itself has none. -/
def values (slots : List Slot) : Change (List Json) := do
  let store ← get
  slots.mapM fun slot =>
    match store.tree? slot with
    | some value => pure value
    | none => throw .endless

/-- Let named properties, or all of them, alternatively be lists of what they were. -/
def transformToArray (address : Nat) (names : Operand) : Change Unit := do
  requireSimple address "transform_properties_to_array"
  let chosen ← if names.isNull then do values (← items (← properties address))
    else Change.names names
  requireExisting address "transform_properties_to_array" chosen
  offerArrays address chosen

/-- A copy of the properties of a builder, and the names it requires. -/
def offered (other : Operand) : Change (Option Slot × List Slot) := do
  let node ← Change.nodeOf "merge" other
  let theirs ← match ← properties node with
    | some slot => some <$> copied slot
    | none => pure none
  return (theirs, ← required node)

/-- The members of copied properties. -/
def offeredMembers (theirs : Option Slot) : Change Cell := do
  match ← membersAt theirs with
  | some address => Change.cell address
  | none => return []

/-- Add a name to a list that does not have it. -/
def listed (name : Key) (slots : List Slot) : Change (List Slot) := do
  if ← Change.lists slots name.toJson then return slots else return slots ++ [name.toSlot]

/-- Merge properties into those of a schema, one after the other. A name that both have becomes a
choice and is required. -/
def mergeMembers (address : Nat) (theirRequired : List Slot) (required : List Slot) :
    Cell → Change (List Slot)
  | [] => return required
  | (key, slot) :: rest => do
      let name := key.toJson
      let mine ← ownProperties address
      if ← holds (some mine) name then
        let current ← member (some mine) name
        let choice ← Change.push [("oneOf", .array [current, slot])]
        assign address name (.node choice)
        mergeMembers address theirRequired (← listed key required) rest
      else
        assign address name slot
        let isRequired ← Change.lists theirRequired name
        mergeMembers address theirRequired
          (if isRequired then required ++ [key.toSlot] else required) rest

/-- Merge the properties of another schema into a schema. -/
def merge (address : Nat) (other : Operand) : Change Unit := do
  requireSimple address "merge_properties"
  let (theirs, theirRequired) ← offered other
  let _ ← ownProperties address
  let before ← required address
  setRequired address (← mergeMembers address theirRequired before (← offeredMembers theirs))

/-- Take the first item that is plainly equal to a value out of a list. -/
def eraseFirst (name : Json) : List Slot → Change (List Slot)
  | [] => return []
  | slot :: rest => do
      if ← Change.agrees slot name then return rest else return slot :: (← eraseFirst name rest)

/-- Set properties of a schema, one after the other; each is required as it was where it came from. -/
def overwriteMembers (address : Nat) (theirRequired : List Slot) (required : List Slot) :
    Cell → Change (List Slot)
  | [] => return required
  | (key, slot) :: rest => do
      assign address key.toJson slot
      let adjusted ←
        if ← Change.lists theirRequired key.toJson then listed key required
        else eraseFirst key.toJson required
      overwriteMembers address theirRequired adjusted rest

/-- Set the properties of a schema to those of another, as far as that one has them. -/
def overwrite (address : Nat) (other : Operand) : Change Unit := do
  requireSimple address "overwrite_properties"
  let (theirs, theirRequired) ← offered other
  let _ ← ownProperties address
  let before ← required address
  setRequired address (← overwriteMembers address theirRequired before (← offeredMembers theirs))

/-- Make the named properties optional and the others required. -/
def setOptionalNames (address : Nat) (names : Operand) : Change Unit := do
  requireSimple address "set_optional_properties"
  let optional ← (← Change.names names).mapM Change.keyOf
  let declared ← keysOf (← items (← properties address))
  setRequired address ((without optional declared).map Key.toSlot)

/-- Add names to a list, as far as it does not have them. -/
def addNames : List Json → List Slot → Change (List Slot)
  | [], slots => return slots
  | name :: rest, slots => do
      if ← Change.lists slots name then addNames rest slots
      else addNames rest (slots ++ [← Change.place name])

/-- Make the named properties required. -/
def setRequiredNames (address : Nat) (names : Operand) : Change Unit := do
  requireSimple address "set_required_properties"
  let chosen ← Change.names names
  requireExisting address "set_required_properties" chosen
  setRequired address (← addNames chosen (← required address))

/-- Make the properties of a schema and of all schemas in it optional. -/
def deepOptionals (address : Nat) : Change Unit := do
  let trail := (← get).trail (.node address)
  trail.seen.forM fun node => Change.drop node "required"
  if trail.finished then return () else throw .endless

end Builder

/-- Carry out an edit of the schema at an address. -/
def Edit.run (address : Nat) : Edit → Change Unit
  | .setOptional names => Builder.setOptionalNames address names
  | .setRequired names => Builder.setRequiredNames address names
  | .toOptionals => Change.drop address "required"
  | .toDeepOptionals => Builder.deepOptionals address
  | .add required name schema => Builder.addProperty address required name schema
  | .addMade required name factory => do
      Builder.addProperty address required name (.builder (← factory.run))
  | .addAdditional schema => Builder.addAdditional address schema
  | .rename required name newName => Builder.rename address required name newName
  | .pick names => Builder.pickListed address names
  | .pickAdditional names additional => Builder.pickAdditional address names additional
  | .omit names => Builder.omitNames address names
  | .transform schema names => Builder.transform address schema names
  | .transformToArray names => Builder.transformToArray address names
  | .merge other => Builder.merge address other
  | .overwrite other => Builder.overwrite address other

end SchemaAlgebra
