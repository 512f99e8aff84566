import SchemaAlgebra.Json.Literal
import SchemaAlgebra.Store.Basic

/-!
Reading values back out of the store. Following addresses gives a finite value unless an object is
inside itself; a chain of different objects is no longer than the store, so that many steps decide it.
The literal form can be given of every slot: an object inside itself is shown by dots.
-/

namespace SchemaAlgebra

namespace Slot

mutual

/-- The value of a slot, given the values of the objects it names. -/
def tree? (follow : Nat → Option Json) : Slot → Option Json
  | .null => some .null
  | .bool b => some (.bool b)
  | .int n => some (.int n)
  | .double d => some (.double d)
  | .string s => some (.string s)
  | .array items => (itemTrees? follow items).map .array
  | .node address => follow address
  | .foreign value => some (.foreign value)

/-- The values of several slots. -/
def itemTrees? (follow : Nat → Option Json) : List Slot → Option (List Json)
  | [] => some []
  | item :: rest => do
      let first ← item.tree? follow
      return first :: (← itemTrees? follow rest)

end

mutual

/-- The literal form of a slot, given those of the objects it names. -/
def literalChars (follow : Nat → List Char) : Slot → List Char
  | .array [] => ['[', ']']
  | .array (item :: rest) =>
      '[' :: (literalChars follow item ++ itemsLiteral follow rest ++ [']'])
  | .node address => follow address
  | slot => slot.face.literalChars

/-- The literal form of the items after the first. -/
def itemsLiteral (follow : Nat → List Char) : List Slot → List Char
  | [] => []
  | item :: rest => ',' :: ' ' :: (literalChars follow item ++ itemsLiteral follow rest)

end

end Slot

namespace Cell

/-- The entries of an object as values. -/
def trees? (follow : Nat → Option Json) : Cell → Option (List (Key × Json))
  | [] => some []
  | (key, slot) :: rest => do
      let first ← slot.tree? follow
      return (key, first) :: (← trees? follow rest)

/-- The literal form of the entries after the first. -/
def entriesLiteral (follow : Nat → List Char) : Cell → List Char
  | [] => []
  | (key, slot) :: rest =>
      ',' :: ' ' :: (key.literalChars ++ [':', ' '] ++ slot.literalChars follow ++
        entriesLiteral follow rest)

/-- The literal form of an object. -/
def literalChars (follow : Nat → List Char) : Cell → List Char
  | [] => ['{', '}']
  | (key, slot) :: rest =>
      '{' :: (key.literalChars ++ [':', ' '] ++ slot.literalChars follow ++
        entriesLiteral follow rest ++ ['}'])

end Cell

namespace Store

/-- The value of the object at an address, if objects are nested at most so deeply in it. -/
def treeWithin (store : Store) : (steps : Nat) → (address : Nat) → Option Json
  | 0, _ => none
  | steps + 1, address =>
      ((store.cell address).trees? (store.treeWithin steps)).map .object

/-- The value of a slot; none if it is infinite. -/
def tree? (store : Store) (slot : Slot) : Option Json :=
  slot.tree? (store.treeWithin store.size)

/-- The literal form of the object at an address, `around` being the objects it stands in. -/
def literalWithin (store : Store) : (steps : Nat) → (around : List Nat) → (address : Nat) → List Char
  | 0, _, _ => ['{', '.', '.', '.', '}']
  | steps + 1, around, address =>
      if address ∈ around then ['{', '.', '.', '.', '}']
      else (store.cell address).literalChars (store.literalWithin steps (address :: around))

/-- The literal form of a slot. -/
def literal (store : Store) (slot : Slot) : String :=
  String.ofList (slot.literalChars (store.literalWithin (store.size + 1) []))

/-- A slot as running text: a string is itself, anything else has its own form. -/
def display (store : Store) : Slot → String
  | .string s => s
  | .foreign value => value.display
  | slot => store.literal slot

end Store

end SchemaAlgebra
