import SchemaAlgebra.Json.Basic

/-!
The store of schema nodes. Builders share nodes: one builder's schema may stand inside another's, and
an edit of either is seen in both. So every object of a schema is a cell with an address, and a value
inside a cell is a slot, which names the objects it holds by their addresses. Lists are never edited
in place and have no address.
-/

namespace SchemaAlgebra

/-- A value inside a cell. -/
inductive Slot
  | null
  | bool (b : Bool)
  | int (n : Int)
  | double (d : Double)
  | string (s : String)
  | array (items : List Slot)
  | node (address : Nat)
  | foreign (value : Foreign)
  deriving Inhabited

/-- The entries of an object, in order. -/
abbrev Cell := List (Key × Slot)

/-- The slot that a key is as a value. -/
def Key.toSlot : Key → Slot
  | .text s => .string s
  | .null => .null
  | .bool b => .bool b
  | .int n => .int n
  | .double d => .double d
  | .foreign value => .foreign value

/-- The objects of all schemas, by address. -/
structure Store where
  cells : Array Cell

namespace Slot

mutual

/-- A slot without what its objects hold. -/
def face : Slot → Json
  | .null => .null
  | .bool b => .bool b
  | .int n => .int n
  | .double d => .double d
  | .string s => .string s
  | .array items => .array (itemFaces items)
  | .node _ => .object []
  | .foreign value => .foreign value

/-- The faces of several slots. -/
def itemFaces : List Slot → List Json
  | [] => []
  | item :: rest => item.face :: itemFaces rest

end

mutual

/-- The addresses that a slot names. -/
def addresses : Slot → List Nat
  | .array items => itemAddresses items
  | .node address => [address]
  | _ => []

/-- The addresses that several slots name. -/
def itemAddresses : List Slot → List Nat
  | [] => []
  | item :: rest => item.addresses ++ itemAddresses rest

end

mutual

/-- A slot with its addresses changed. -/
def relocate (place : Nat → Nat) : Slot → Slot
  | .array items => .array (relocateItems place items)
  | .node address => .node (place address)
  | slot => slot

/-- Several slots with their addresses changed. -/
def relocateItems (place : Nat → Nat) : List Slot → List Slot
  | [] => []
  | item :: rest => item.relocate place :: relocateItems place rest

end

end Slot

namespace Cell

/-- The entries of an object without what their objects hold. -/
def face (cell : Cell) : List (Key × Json) :=
  cell.map fun entry => (entry.1, entry.2.face)

/-- The addresses that an object names. -/
def addresses (cell : Cell) : List Nat :=
  cell.flatMap fun entry => entry.2.addresses

/-- An object with its addresses changed. -/
def relocate (place : Nat → Nat) (cell : Cell) : Cell :=
  cell.map fun entry => (entry.1, entry.2.relocate place)

end Cell

namespace Store

/-- A store without objects. -/
def empty : Store := ⟨#[]⟩

/-- The number of objects. -/
def size (store : Store) : Nat := store.cells.size

/-- The object at an address; there is an empty one where none was put. -/
def cell (store : Store) (address : Nat) : Cell :=
  store.cells.getD address []

/-- Put a new object into the store, at the next address. -/
def push (store : Store) (cell : Cell) : Store :=
  ⟨store.cells.push cell⟩

/-- Replace the object at an address. -/
def replace (store : Store) (address : Nat) (cell : Cell) : Store :=
  ⟨store.cells.setIfInBounds address cell⟩

@[simp] theorem size_push (store : Store) (cell : Cell) :
    (store.push cell).size = store.size + 1 := by
  simp [size, push]

@[simp] theorem size_replace (store : Store) (address : Nat) (cell : Cell) :
    (store.replace address cell).size = store.size := by
  simp [size, replace]

theorem cell_push (store : Store) (cell : Cell) (address : Nat) :
    (store.push cell).cell address = if address = store.size then cell else store.cell address := by
  simp only [Store.cell, push, size, Array.getD_eq_getD_getElem?, Array.getElem?_push]
  split <;> simp_all

theorem cell_replace (store : Store) (address other : Nat) (cell : Cell)
    (inside : address < store.size) :
    (store.replace address cell).cell other = if address = other then cell else store.cell other := by
  simp only [Store.cell, replace, Array.getD_eq_getD_getElem?, Array.getElem?_setIfInBounds]
  simp only [size] at inside
  split <;> simp_all

/-- Whether a slot counts as present: everything does but null, false, zero and what is empty. -/
def isTruthy (store : Store) : Slot → Bool
  | .node address => !(store.cell address).isEmpty
  | slot => slot.face.isTruthy

end Store

mutual

/-- Put a value into the store, objects inside it first. -/
def Json.place : Json → StateM Store Slot
  | .null => return .null
  | .bool b => return .bool b
  | .int n => return .int n
  | .double d => return .double d
  | .string s => return .string s
  | .array items => return .array (← Json.placeItems items)
  | .object fields => do
      let cell ← Json.placeFields fields
      let store ← get
      set (store.push cell)
      return .node store.size
  | .foreign value => return .foreign value

/-- Put the items of an array into the store. -/
def Json.placeItems : List Json → StateM Store (List Slot)
  | [] => return []
  | item :: rest => do
      let first ← item.place
      return first :: (← Json.placeItems rest)

/-- Put the members of an object into the store. -/
def Json.placeFields : List (Key × Json) → StateM Store Cell
  | [] => return []
  | (key, value) :: rest => do
      let first ← value.place
      return (key, first) :: (← Json.placeFields rest)

end

/-!
Copies. A copy of a slot has new objects for all the objects that can be reached from it, and keeps
how they name each other, so that two ways to one object stay two ways to one object.
-/

namespace Store

/-- The addresses that known objects name and that are not known yet. -/
def beyond (store : Store) (known : List Nat) : List Nat :=
  ((known.flatMap fun address => (store.cell address).addresses).filter (· ∉ known)).eraseDups

/-- Add to known addresses what is reached from them in a number of steps. -/
def reachWithin (store : Store) : (steps : Nat) → (known : List Nat) → List Nat
  | 0, known => known
  | steps + 1, known =>
      match store.beyond known with
      | [] => known
      | found => store.reachWithin steps (known ++ found)

/-- The addresses of the objects that can be reached from a slot. -/
def reach (store : Store) (slot : Slot) : List Nat :=
  store.reachWithin store.size slot.addresses.eraseDups

/-- Where the copy of an object goes. -/
def copyPlace (store : Store) (reached : List Nat) (address : Nat) : Nat :=
  store.size + reached.idxOf address

/-- A copy of a slot, and the store with the copied objects. -/
def copy (store : Store) (slot : Slot) : Slot × Store :=
  let reached := store.reach slot
  let place := store.copyPlace reached
  (slot.relocate place,
    ⟨store.cells ++ (reached.map fun address => (store.cell address).relocate place).toArray⟩)

end Store

end SchemaAlgebra
