import SchemaAlgebra.Schema.Walk
import SchemaAlgebra.Store.Basic

/-!
The traversal of a schema in the store: the addresses of the nodes that are visited, each before its
children. An object inside itself makes the traversal endless; what was visited until then is known.
-/

namespace SchemaAlgebra

/-- The nodes visited in a traversal, and whether it came to an end. -/
structure Trail where
  seen : List Nat
  finished : Bool

namespace Trail

/-- A traversal that visits nothing. -/
def nothing : Trail := ⟨[], true⟩

/-- A traversal that goes on after another, if that one comes to an end. -/
def andThen (first : Trail) (next : Trail) : Trail :=
  if first.finished then ⟨first.seen ++ next.seen, next.finished⟩ else first

end Trail

mutual

/-- The trail through a slot in a role, given those through the objects it names. -/
def Slot.trail (follow : Walk.Role → Nat → Trail) (role : Walk.Role) : Slot → Trail
  | .node address => follow role address
  | .array items =>
      match role with
      | .branches | .schemaOrList | .schema => Slot.itemsTrail follow items
      | .members | .objectOnly => .nothing
  | _ => .nothing

/-- The trail through the schemas of a list. -/
def Slot.itemsTrail (follow : Walk.Role → Nat → Trail) : List Slot → Trail
  | [] => .nothing
  | item :: rest => (item.trail follow .schema).andThen (Slot.itemsTrail follow rest)

end

namespace Cell

/-- The trail through the members of an object. -/
def membersTrail (follow : Walk.Role → Nat → Trail) : Cell → Trail
  | [] => .nothing
  | (_, slot) :: rest => (slot.trail follow .schema).andThen (membersTrail follow rest)

/-- The trail through what some keywords of a node hold. -/
def keywordsTrail (follow : Walk.Role → Nat → Trail) (cell : Cell) :
    List (String × Walk.Role) → Trail
  | [] => .nothing
  | (keyword, role) :: rest =>
      let under := match Fields.get? cell keyword with
        | some slot => slot.trail follow role
        | none => .nothing
      under.andThen (keywordsTrail follow cell rest)

end Cell

namespace Store

/-- The trail through the object at an address in a role, at most so many objects deep. -/
def trailWithin (store : Store) : (steps : Nat) → Walk.Role → (address : Nat) → Trail
  | 0, _, _ => ⟨[], false⟩
  | steps + 1, role, address =>
      match role with
      | .members => (store.cell address).membersTrail (store.trailWithin steps)
      | .branches => .nothing
      | .schema | .schemaOrList | .objectOnly =>
          Trail.andThen ⟨[address], true⟩
            ((store.cell address).keywordsTrail (store.trailWithin steps) Walk.keywords)

/-- The trail through a slot that is a schema. -/
def trail (store : Store) (slot : Slot) : Trail :=
  slot.trail (store.trailWithin store.size) .schema

end Store

end SchemaAlgebra
