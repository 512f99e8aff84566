import SchemaAlgebra.Proofs.Json.Tree
import SchemaAlgebra.Schema.Walk

/-!
Nodes by position. An object is a node of a value if keywords, names and indices lead from the value to
it; the traversal lists exactly these objects, whatever pointer it starts from.
-/

namespace SchemaAlgebra.Walk

/-- Whether an object in a role is itself a node. -/
def Role.isNode : Role → Bool
  | .schema | .schemaOrList | .objectOnly => true
  | .members | .branches => false

/-- Whether the items of a list in a role are nodes. -/
def Role.isList : Role → Bool
  | .branches | .schemaOrList => true
  | .schema | .members | .objectOnly => false

/-- An object with these entries is a node of a value in a role. -/
inductive IsNode : Role → Json → List (Key × Json) → Prop
  | here {role : Role} {fields : List (Key × Json)} :
      role.isNode = true → IsNode role (.object fields) fields
  | keyword {role under : Role} {fields node : List (Key × Json)} {keyword : String} {value : Json} :
      role.isNode = true → (keyword, under) ∈ keywords → Fields.get? fields keyword = some value →
        IsNode under value node → IsNode role (.object fields) node
  | member {fields node : List (Key × Json)} {entry : Key × Json} :
      entry ∈ fields → IsNode .schema entry.2 node → IsNode .members (.object fields) node
  | item {role : Role} {items : List Json} {node : List (Key × Json)} {item : Json} :
      role.isList = true → item ∈ items → IsNode .schema item node → IsNode role (.array items) node

theorem isNode_object {role : Role} {fields node : List (Key × Json)} :
    IsNode role (.object fields) node ↔
      (role.isNode = true ∧ (fields = node ∨ ∃ entry ∈ keywords, ∃ value,
        Fields.get? fields (.text entry.1) = some value ∧ IsNode entry.2 value node)) ∨
      (role = .members ∧ ∃ entry ∈ fields, IsNode .schema entry.2 node) := by
  constructor
  · intro isNode
    cases isNode with
    | here own => exact .inl ⟨own, .inl rfl⟩
    | keyword own listed found under => exact .inl ⟨own, .inr ⟨_, listed, _, found, under⟩⟩
    | member listed under => exact .inr ⟨rfl, _, listed, under⟩
  · rintro (⟨own, rfl | ⟨⟨keyword, under⟩, listed, value, found, inside⟩⟩ | ⟨rfl, entry, listed, inside⟩)
    · exact .here own
    · exact .keyword own listed found inside
    · exact .member listed inside

theorem isNode_array {role : Role} {items : List Json} {node : List (Key × Json)} :
    IsNode role (.array items) node ↔ role.isList = true ∧ ∃ item ∈ items, IsNode .schema item node := by
  constructor
  · intro isNode
    cases isNode with
    | item own listed inside => exact ⟨own, _, listed, inside⟩
  · rintro ⟨own, item, listed, inside⟩
    exact .item own listed inside

theorem not_isNode_scalar {role : Role} {value : Json} {node : List (Key × Json)}
    (notArray : value.isArray = false) (notObject : value.isObject = false) :
    ¬ IsNode role value node := by
  intro isNode
  cases isNode <;> simp_all [Json.isArray, Json.isObject]

theorem nodesUnder_eq (keyword : String) (role : Role) (pointer : String) (fields : List (Key × Json)) :
    nodesUnder keyword role pointer fields =
      match Fields.get? fields keyword with
      | some value => nodesAs role pointer value
      | none => [] := by
  induction fields with
  | nil => rfl
  | cons entry rest ih =>
      obtain ⟨key, value⟩ := entry
      rw [nodesUnder, Fields.get?_cons]
      by_cases same : key = .text keyword
      · rw [if_pos same, if_pos same]
      · rw [if_neg same, if_neg same, ih]

/-- Some pointer leads to a node in a list of nodes. -/
def Lists (found : List (String × Json)) (node : List (Key × Json)) : Prop :=
  ∃ pointer, (pointer, Json.object node) ∈ found

theorem lists_append {first later : List (String × Json)} {node : List (Key × Json)} :
    Lists (first ++ later) node ↔ Lists first node ∨ Lists later node := by
  simp [Lists, exists_or]

theorem lists_memberNodes {fields node : List (Key × Json)}
    (each : ∀ entry ∈ fields, ∀ pointer, Lists (nodesAs .schema pointer entry.2) node ↔
      IsNode .schema entry.2 node) (pointer : String) :
    Lists (memberNodes pointer fields) node ↔ ∃ entry ∈ fields, IsNode .schema entry.2 node := by
  induction fields with
  | nil => simp [memberNodes, Lists]
  | cons entry rest ih =>
      obtain ⟨key, value⟩ := entry
      rw [memberNodes, lists_append, each (key, value) (by simp),
        ih fun other member => each other (by simp [member])]
      simp

theorem lists_itemNodes {items : List Json} {node : List (Key × Json)}
    (each : ∀ item ∈ items, ∀ pointer, Lists (nodesAs .schema pointer item) node ↔
      IsNode .schema item node) (pointer : String) (index : Nat) :
    Lists (itemNodes pointer index items) node ↔ ∃ item ∈ items, IsNode .schema item node := by
  induction items generalizing index with
  | nil => simp [itemNodes, Lists]
  | cons item rest ih =>
      rw [itemNodes, lists_append, each item (by simp),
        ih (fun other member => each other (by simp [member])) (index + 1)]
      simp

theorem lists_keywordNodes {fields node : List (Key × Json)}
    (each : ∀ entry ∈ fields, ∀ role pointer, Lists (nodesAs role pointer entry.2) node ↔
      IsNode role entry.2 node) (pointer : String) (listed : List (String × Role)) :
    Lists (listed.flatMap fun entry => nodesUnder entry.1 entry.2 (pointer ++ "/" ++ entry.1) fields)
        node ↔
      ∃ entry ∈ listed, ∃ value, Fields.get? fields (.text entry.1) = some value ∧
        IsNode entry.2 value node := by
  induction listed with
  | nil => simp [Lists]
  | cons entry rest ih =>
      have under : Lists (nodesUnder entry.1 entry.2 (pointer ++ "/" ++ entry.1) fields) node ↔
          ∃ value, Fields.get? fields (.text entry.1) = some value ∧ IsNode entry.2 value node := by
        rw [nodesUnder_eq]
        cases found : Fields.get? fields (.text entry.1) with
        | none => simp [Lists]
        | some value => simp [each _ (Fields.mem_of_get? found)]
      rw [List.flatMap_cons, lists_append, ih, under]
      simp

/-- The traversal lists the nodes, and nothing else. -/
theorem lists_nodesAs (value : Json) :
    ∀ role pointer node, Lists (nodesAs role pointer value) node ↔ IsNode role value node := by
  induction value using Json.treeInduction with
  | array items ih =>
      intro role pointer node
      rw [isNode_array]
      have listed := lists_itemNodes (fun item member pointer => ih item member .schema pointer node) pointer 0
      cases role <;> simp only [nodesAs, Role.isList, listed, true_and, Bool.false_eq_true, false_and,
        iff_false]
      all_goals simp [Lists]
  | object fields ih =>
      intro role pointer node
      have members := lists_memberNodes (fun entry member pointer => ih entry member .schema pointer node)
        pointer
      have keyed := lists_keywordNodes (fun entry member role pointer => ih entry member role pointer node)
        pointer keywords
      rw [isNode_object]
      have here : ∀ rest, Lists ((pointer, Json.object fields) :: rest) node ↔
          fields = node ∨ Lists rest node := by
        intro rest
        simp only [Lists, List.mem_cons, Prod.mk.injEq, Json.object.injEq, exists_or, exists_and_right,
          exists_eq, true_and]
        exact or_congr_left eq_comm
      cases role with
      | members => simp only [nodesAs, Role.isNode, members, Bool.false_eq_true, false_and, false_or,
          true_and]
      | branches => simp [nodesAs, Role.isNode, Lists]
      | schema | schemaOrList | objectOnly =>
          simp only [nodesAs, here, keyed, Role.isNode, true_and, reduceCtorEq, false_and, or_false]
  | scalar value notArray notObject =>
      intro role pointer node
      have none : nodesAs role pointer value = [] := by
        cases value <;> simp_all [nodesAs, Json.isArray, Json.isObject]
      simp [none, Lists, not_isNode_scalar notArray notObject]

/-- A node of a value holds the keyword for references. -/
def HoldsReference (role : Role) (value : Json) : Prop :=
  ∃ node, IsNode role value node ∧ Fields.has node "$ref" = true

/-- The search for a reference finds one exactly if a node holds one. -/
theorem firstReference?_eq_none_iff (schema : Json) :
    firstReference? schema = none ↔ ¬ HoldsReference .schema schema := by
  rw [firstReference?, List.findSome?_eq_none_iff]
  constructor
  · rintro none ⟨node, isNode, has⟩
    obtain ⟨pointer, listed⟩ := (lists_nodesAs schema .schema "" node).mpr isNode
    have missing := none _ listed
    simp only [Json.get?, Key.spelledIn_text, Option.map_eq_none_iff] at missing
    simp [Fields.has, missing] at has
  · rintro free ⟨pointer, value⟩ listed
    cases value with
    | object node =>
        cases found : Fields.get? node "$ref" with
        | none => simp [Json.get?, found]
        | some reference =>
            have isNode := (lists_nodesAs schema .schema "" node).mp ⟨pointer, listed⟩
            exact absurd ⟨node, isNode, by simp [Fields.has, found]⟩ free
    | _ => rfl

end SchemaAlgebra.Walk
