import SchemaAlgebra.Json.Literal
import SchemaAlgebra.Schema.Pointer

/-!
The nodes of a schema tree. A node is an object that stands in schema position: the root, the values
of `properties`, the branches of `oneOf`, `allOf` and `anyOf`, the value or values of `items`, the
value of `not`, and an `additionalProperties` that is an object.

`nodes` lists the nodes with the JSON pointers that lead to them. `visit` shows each node before its
children and can drop a key from all of them; it also enters lists that stand where one schema is
expected.
-/

namespace SchemaAlgebra.Walk

/-- How a keyword's value holds schemas. -/
inductive Role
  | schema
  | members
  | branches
  | schemaOrList
  | objectOnly
  deriving DecidableEq

/-- The keywords that hold schemas, in the order of the traversal. -/
def keywords : List (String × Role) :=
  [("properties", .members), ("oneOf", .branches), ("allOf", .branches), ("anyOf", .branches),
    ("items", .schemaOrList), ("not", .schema), ("additionalProperties", .objectOnly)]

mutual

/-- The nodes of a value in a role, with their pointers. -/
def nodesAs (role : Role) (pointer : String) : Json → List (String × Json)
  | .object fields =>
      match role with
      | .members => memberNodes pointer fields
      | .branches => []
      | .schema | .schemaOrList | .objectOnly =>
          (pointer, .object fields) ::
            keywords.flatMap fun entry =>
              nodesUnder entry.1 entry.2 (pointer ++ "/" ++ entry.1) fields
  | .array items =>
      match role with
      | .branches | .schemaOrList => itemNodes pointer 0 items
      | .schema | .members | .objectOnly => []
  | _ => []

/-- The nodes of the value under a keyword. -/
def nodesUnder (keyword : String) (role : Role) (pointer : String) :
    List (Key × Json) → List (String × Json)
  | [] => []
  | (key, value) :: rest =>
      if key = .text keyword then nodesAs role pointer value else nodesUnder keyword role pointer rest

/-- The nodes of the members of an object. -/
def memberNodes (pointer : String) : List (Key × Json) → List (String × Json)
  | [] => []
  | (key, value) :: rest =>
      nodesAs .schema (Pointer.extend pointer key.display) value ++ memberNodes pointer rest

/-- The nodes of the items of a list, from an index on. -/
def itemNodes (pointer : String) (index : Nat) : List Json → List (String × Json)
  | [] => []
  | item :: rest =>
      nodesAs .schema (pointer ++ "/" ++ toString index) item ++
        itemNodes pointer (index + 1) rest

end

/-- The nodes of a schema with their pointers, in order. -/
def nodes (schema : Json) : List (String × Json) :=
  nodesAs .schema "" schema

/-- The first node with a reference: its pointer and the reference. -/
def firstReference? (schema : Json) : Option (String × Json) :=
  (nodes schema).findSome? fun entry =>
    (entry.2.get? "$ref").map fun reference => (entry.1, reference)

/-- A value after a traversal, and the nodes that were visited, each as it was found. -/
structure Visited where
  value : Json
  seen : List Json

mutual

/-- Visit every node of a value in a role, taking the dropped key out of each node before its
children are visited. -/
def visitAs (drop : Option Key) (role : Role) : Json → Visited
  | .object fields =>
      match role with
      | .members =>
          let (entries, seen) := visitMembers drop fields
          ⟨.object entries, seen⟩
      | .branches => ⟨.object fields, []⟩
      | .schema | .schemaOrList | .objectOnly =>
          let (entries, seen) := visitKeywords drop fields
          ⟨.object entries, .object fields :: keywords.flatMap fun entry =>
            (seen.lookup entry.1).getD []⟩
  | .array items =>
      match role with
      | .branches | .schemaOrList | .schema =>
          let (values, seen) := visitItems drop items
          ⟨.array values, seen⟩
      | .members | .objectOnly => ⟨.array items, []⟩
  | value => ⟨value, []⟩

/-- Visit what the keywords of a node hold; the nodes seen are kept apart by keyword. -/
def visitKeywords (drop : Option Key) :
    List (Key × Json) → List (Key × Json) × List (String × List Json)
  | [] => ([], [])
  | (key, value) :: rest =>
      let (entries, seen) := visitKeywords drop rest
      if drop = some key then (entries, seen)
      else
        match key.text?.bind fun word => (keywords.lookup word).map (word, ·) with
        | some (word, role) =>
            let visited := visitAs drop role value
            ((key, visited.value) :: entries, (word, visited.seen) :: seen)
        | none => ((key, value) :: entries, seen)

/-- Visit the members of an object. -/
def visitMembers (drop : Option Key) :
    List (Key × Json) → List (Key × Json) × List Json
  | [] => ([], [])
  | (key, value) :: rest =>
      let visited := visitAs drop .schema value
      let (entries, seen) := visitMembers drop rest
      ((key, visited.value) :: entries, visited.seen ++ seen)

/-- Visit the items of a list. -/
def visitItems (drop : Option Key) : List Json → List Json × List Json
  | [] => ([], [])
  | item :: rest =>
      let visited := visitAs drop .schema item
      let (values, seen) := visitItems drop rest
      (visited.value :: values, visited.seen ++ seen)

end

/-- Visit every node of a schema, or of a list of schemas, dropping a key from each if one is
given. -/
def visit (drop : Option Key) (schema : Json) : Visited :=
  visitAs drop .schema schema

end SchemaAlgebra.Walk
