import SchemaAlgebra.Proofs.Json.Tree
import SchemaAlgebra.Validation.Evaluation

/-!
Which subschemas a keyword looks at, and how the node of a schema object is made of its entries. A schema
stays within a set of keywords if every keyword that is met in it, and in what its keywords look at,
belongs to the set.
-/

namespace SchemaAlgebra.Json

/-- The items of an array. -/
def items : Json → List Json
  | .array items => items
  | _ => []

/-- The members of an object. -/
def members : Json → List (Key × Json)
  | .object fields => fields
  | _ => []

/-- Induction on schemas: a schema object follows from the arguments of its keywords, their items and
their members. -/
@[elab_as_elim]
theorem schemaInduction {motive : Json → Prop}
    (object : ∀ fields, (∀ entry ∈ fields, motive entry.2 ∧
      (∀ item ∈ entry.2.items, motive item) ∧ ∀ member ∈ entry.2.members, motive member.2) →
      motive (.object fields))
    (flat : ∀ schema, schema.isObject = false → motive schema) (schema : Json) : motive schema := by
  have all : motive schema ∧ (∀ item ∈ schema.items, motive item) ∧
      ∀ member ∈ schema.members, motive member.2 := by
    induction schema using treeInduction with
    | array items ih => exact ⟨flat _ rfl, fun item member => (ih item member).1, by simp [members]⟩
    | object fields ih =>
        exact ⟨object fields ih, by simp [items], fun member present => (ih member present).1⟩
    | scalar value noArray noObject =>
        refine ⟨flat value noObject, ?_, ?_⟩
        · cases value <;> simp [items, isArray] at noArray ⊢
        · cases value <;> simp [members, isObject] at noObject ⊢
  exact all.1

end SchemaAlgebra.Json

namespace SchemaAlgebra.Evaluation

/-- The argument of a keyword as parts, given what references mean at a location. -/
def argumentWith (meaning : Meaning) (location : String) (argument : Json) : Parts :=
  ⟨partWith meaning location argument, itemsOf meaning location argument,
    membersOf meaning location argument⟩

variable (meaning : Meaning) (location : String)

@[simp] theorem argumentWith_self (argument : Json) :
    (argumentWith meaning location argument).self = partWith meaning location argument := rfl

@[simp] theorem partWith_schema (schema : Json) : (partWith meaning location schema).schema = schema := by
  cases schema <;> simp [partWith, Part.flat]

theorem mem_argumentWith_items {argument : Json} {part : Part}
    (member : part ∈ (argumentWith meaning location argument).items) :
    ∃ schema ∈ argument.items, part = partWith meaning location schema := by
  cases argument <;> simp only [argumentWith, itemsOf, List.not_mem_nil] at member
  rw [partsWith_eq_map, List.mem_map] at member
  obtain ⟨schema, present, rfl⟩ := member
  exact ⟨schema, present, rfl⟩

theorem mem_argumentWith_members {argument : Json} {member : Key × Part}
    (present : member ∈ (argumentWith meaning location argument).members) :
    ∃ schema, (member.1, schema) ∈ argument.members ∧
      member.2 = partWith meaning location schema := by
  cases argument <;> simp only [argumentWith, membersOf, List.not_mem_nil] at present
  rw [memberPartsWith_eq_map, List.mem_map] at present
  obtain ⟨entry, found, rfl⟩ := present
  exact ⟨entry.2, found, rfl⟩

theorem partWith_flat {schema : Json} (flat : schema.isObject = false) :
    partWith meaning location schema = Part.flat schema := by
  cases schema <;> simp_all [partWith, Json.isObject]

theorem nodeWith_text (keyword : String) (argument : Json) (rest : List (Key × Json)) :
    nodeWith meaning location ((.text keyword, argument) :: rest) =
      (keyword, argumentWith meaning location argument) :: nodeWith meaning location rest := by
  simp [nodeWith, argumentWith]

theorem nodeWith_other {key : Key} (other : key.text? = none) (argument : Json)
    (rest : List (Key × Json)) :
    nodeWith meaning location ((key, argument) :: rest) = nodeWith meaning location rest := by
  cases key <;> simp_all [nodeWith, Key.text?]

/-- The keywords of a schema object with their arguments. -/
def keywordsOf (fields : List (Key × Json)) : List (String × Json) :=
  fields.filterMap fun entry => entry.1.text?.map fun keyword => (keyword, entry.2)

theorem mem_keywordsOf {fields : List (Key × Json)} {keyword : String} {argument : Json} :
    (keyword, argument) ∈ keywordsOf fields ↔ (Key.text keyword, argument) ∈ fields := by
  rw [keywordsOf, List.mem_filterMap]
  constructor
  · rintro ⟨⟨key, argument'⟩, member, found⟩
    cases key <;> simp only [Key.text?, Option.map_none, Option.map_some, reduceCtorEq,
      Option.some.injEq, Prod.mk.injEq] at found
    obtain ⟨rfl, rfl⟩ := found
    exact member
  · intro member
    exact ⟨_, member, rfl⟩

theorem nodeWith_eq_map (fields : List (Key × Json)) :
    nodeWith meaning location fields =
      (keywordsOf fields).map fun entry => (entry.1, argumentWith meaning location entry.2) := by
  rw [nodeWith_eq_filterMap, keywordsOf, List.map_filterMap]
  congr 1
  funext entry
  cases entry.1.text? <;> rfl

theorem mem_nodeWith {fields : List (Key × Json)} {entry : String × Parts}
    (member : entry ∈ nodeWith meaning location fields) :
    ∃ argument, (Key.text entry.1, argument) ∈ fields ∧
      entry.2 = argumentWith meaning location argument := by
  rw [nodeWith_eq_map, List.mem_map] at member
  obtain ⟨⟨keyword, argument⟩, present, rfl⟩ := member
  exact ⟨argument, mem_keywordsOf.mp present, rfl⟩

theorem argument?_nodeWith (fields : List (Key × Json)) (keyword : String) :
    (nodeWith meaning location fields).argument? keyword =
      (Fields.get? fields (.text keyword)).map (argumentWith meaning location) := by
  induction fields with
  | nil => rfl
  | cons entry rest ih =>
      obtain ⟨key, argument⟩ := entry
      cases key with
      | text name =>
          rw [nodeWith_text, Fields.get?_cons, Node.argument?, Fields.get?_cons]
          by_cases same : name = keyword
          · simp [same]
          · simpa [same, Node.argument?] using ih
      | _ => rw [nodeWith_other _ _ rfl, Fields.get?_cons, if_neg (by simp), ih]

theorem evaluateNode_closed {fields : List (Key × Json)} (alone : Fields.has fields "$ref" = false)
    (options : Options) (extent : Extent) (value : Json) :
    evaluateNode meaning location fields (nodeWith meaning location fields) options extent value =
      Outcome.chain extent ((keywordsOf fields).map fun entry =>
        Structure.evaluate (nodeWith meaning location fields) entry.1
          (argumentWith meaning location entry.2) options extent) value := by
  have absent : Fields.get? fields (.text "$ref") = none := by
    simpa [Fields.has] using alone
  simp only [evaluateNode, absent]
  conv => lhs; arg 2; arg 2; rw [nodeWith_eq_map]
  rw [List.map_map]
  rfl

end SchemaAlgebra.Evaluation

namespace SchemaAlgebra.Schema

/-- The subschemas that evaluating a keyword looks at. -/
def heldBy (keyword : String) (argument : Json) : List Json :=
  match keyword with
  | "additionalItems" | "additionalProperties" | "contains" | "else" | "if" | "not"
  | "propertyNames" | "then" => [argument]
  | "allOf" | "anyOf" | "oneOf" => argument.items
  | "properties" | "patternProperties" => argument.members.map Prod.snd
  | "dependencies" => (argument.members.map Prod.snd).filter fun schema => !schema.isArray
  | "items" => if argument.isArray then argument.items else [argument]
  | _ => []

/-- A subschema that a keyword looks at is its argument, or an item or a member of it. -/
theorem heldBy_cases {keyword : String} {argument schema : Json} (held : schema ∈ heldBy keyword argument) :
    schema = argument ∨ schema ∈ argument.items ∨ ∃ member ∈ argument.members, schema = member.2 := by
  have members : schema ∈ argument.members.map Prod.snd →
      ∃ member ∈ argument.members, schema = member.2 := by
    intro listed
    obtain ⟨member, present, rfl⟩ := List.mem_map.mp listed
    exact ⟨member, present, rfl⟩
  unfold heldBy at held
  split at held
  -- the eight keywords that hold one schema
  iterate 8 · exact .inl (List.mem_singleton.mp held)
  iterate 3 · exact .inr (.inl held)
  iterate 2 · exact .inr (.inr (members held))
  · exact .inr (.inr (members (List.mem_filter.mp held).1))
  · split at held
    · exact .inr (.inl held)
    · exact .inl (List.mem_singleton.mp held)
  · simp at held

/-- Every keyword met in a schema, and in what its keywords look at, is an allowed one. -/
inductive Within (allowed : String → Prop) : Json → Prop
  | flat {schema : Json} : schema.isObject = false → Within allowed schema
  | object {fields : List (Key × Json)} :
      (∀ keyword argument, (Key.text keyword, argument) ∈ fields → allowed keyword) →
      (∀ keyword argument, (Key.text keyword, argument) ∈ fields →
        ∀ schema ∈ heldBy keyword argument, Within allowed schema) →
      Within allowed (.object fields)

end SchemaAlgebra.Schema
