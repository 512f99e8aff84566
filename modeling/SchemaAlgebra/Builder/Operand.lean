import SchemaAlgebra.Builder.Refusal
import SchemaAlgebra.Json.Equality
import SchemaAlgebra.Store.Basic
import SchemaAlgebra.Store.Tree

/-!
The arguments of calls, and calls as changes of the store. An argument is a value or a builder, and an
operation says which of them it can use.
-/

namespace SchemaAlgebra

/-- An argument of a call. -/
inductive Operand
  | value (json : Json)
  | builder (address : Nat)
  | validator

/-- A change of the store. What was changed before a failure stays changed. -/
abbrev Change (α : Type) := ExceptT Failure (StateM Store) α

namespace Operand

/-- The kind of an argument, as it is named in messages. -/
def kindName : Operand → String
  | .value json => json.kindName
  | .builder _ => "SchemaBuilder"
  | .validator => "SchemaValidator"

/-- Whether an argument is null. -/
def isNull : Operand → Bool
  | .value .null => true
  | _ => false

/-- The names that an argument lists: the items of a list, the characters of a string or the keys of
an object. -/
def names? : Operand → Option (List Json)
  | .value json => json.elements?
  | _ => none

end Operand

namespace Change

/-- Refuse a call. -/
def refuse {α : Type} (refusal : Refusal) : Change α :=
  throw (.refused refusal)

/-- The object at an address. -/
def cell (address : Nat) : Change Cell := do
  return (← get).cell address

/-- Give a key of an object a value. -/
def put (address : Nat) (key : Key) (slot : Slot) : Change Unit :=
  modify fun store => store.replace address (Fields.put (store.cell address) key slot)

/-- Take a key out of an object. -/
def drop (address : Nat) (key : Key) : Change Unit :=
  modify fun store => store.replace address (Fields.erase (store.cell address) key)

/-- Put a new object into the store and give its address. -/
def push (cell : Cell) : Change Nat := do
  let store ← get
  set (store.push cell)
  return store.size

/-- Put a value into the store. -/
def place (value : Json) : Change Slot :=
  ExceptT.mk (Except.ok <$> value.place)

/-- Put the entries of an object into the store. -/
def placeFields (fields : List (Key × Json)) : Change Cell :=
  ExceptT.mk (Except.ok <$> Json.placeFields fields)

/-- The value of a key, unless it is absent, null, false, zero or empty. -/
def present? (address : Nat) (key : Key) : Change (Option Slot) := do
  let store ← get
  match Fields.get? (store.cell address) key with
  | some slot => return if store.isTruthy slot then some slot else none
  | none => return none

/-- How messages name the schema at an address: by its title, if it has one. -/
def owner (address : Nat) : Change String := do
  match ← present? address "title" with
  | some slot =>
      let store ← get
      if (store.tree? slot).all Json.isShowable then return store.display slot
      else throw .tooManyDigits
  | none => return "this"

/-- The names that an argument lists. -/
def names (operand : Operand) : Change (List Json) :=
  match operand.names? with
  | some names => return names
  | none => throw .unusable

/-- The key that a value can be. -/
def keyOf (name : Json) : Change Key :=
  match name.key? with
  | some key => return key
  | none => throw .unusable

/-- How messages show a name. -/
def shown (name : Json) : Change String :=
  if name.isShowable then return name.display else throw .tooManyDigits

/-- Whether a slot is plainly equal to a value. -/
def agrees (slot : Slot) (value : Json) : Change Bool := do
  return ((← get).tree? slot).any fun found => found.agrees value

/-- Whether a list has an item that is plainly equal to a value. -/
def lists (slots : List Slot) (value : Json) : Change Bool :=
  slots.anyM fun slot => agrees slot value

/-- The node of an argument that has to be a builder. -/
def nodeOf (operation : String) (operand : Operand) : Change Nat :=
  match operand with
  | .builder address => return address
  | _ => refuse (.notABuilder operation operand.kindName)

/-- Check metadata and put its entries into the store. -/
def metadata (kind : Metadata.Kind) (factory : String) (operand : Operand) : Change Cell :=
  match operand with
  | .value json =>
      match Metadata.check kind json with
      | .ok fields => placeFields fields
      | .error error => refuse (.metadata factory error)
  | _ => refuse (.metadata factory (.notAnObject operand.kindName))

end Change

end SchemaAlgebra
