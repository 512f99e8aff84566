import SchemaAlgebra.Proofs.Validation.Normalization

/-!
The arguments of keywords in a schema that passes the metaschema: schemas that pass in their turn, lists or
maps of them, or values in which nothing can stand for a reference.
-/

namespace SchemaAlgebra.Metaschema

open Schema

/-- A list of schemas that pass. -/
def IsSchemas (argument : Json) : Prop :=
  ∃ items, argument = .array items ∧ ∀ item ∈ items, Passes item

/-- A map of schemas that pass. -/
def IsSchemaMap (argument : Json) : Prop :=
  ∃ members, argument = .object members ∧ ∀ member ∈ members, Passes member.2

/-- A map whose values are lists of names and schemas that pass. -/
def IsDependencies (argument : Json) : Prop :=
  ∃ members, argument = .object members ∧ ∀ member ∈ members,
    (∃ names : List String, member.2 = .array (names.map .string)) ∨ Passes member.2

/-- What the argument of a keyword is known to be. The arguments of the keywords that hold no schemas mention
no key, unless they are data. -/
def Suits (keyword : String) (argument : Json) : Prop :=
  match keyword with
  | "additionalItems" | "additionalProperties" | "contains" | "else" | "if" | "not"
  | "propertyNames" | "then" => Passes argument
  | "allOf" | "anyOf" | "oneOf" => IsSchemas argument
  | "properties" | "patternProperties" | "definitions" => IsSchemaMap argument
  | "dependencies" => IsDependencies argument
  | "items" => IsSchemas argument ∨ Passes argument
  | _ => keyword ∈ evaluatedKeywords → keyword = "enum" ∨ keyword = "const" ∨
      ∀ word, Reference.count word argument = 0

section

variable {depth : Depth} {argument : Json}

theorem isSchemas_of_fine (kept : finding depth .schemas argument = fine) : IsSchemas argument := by
  cases argument with
  | array items =>
      rw [finding] at kept
      split at kept
      · cases kept
      · exact ⟨items, rfl, fun item listed => ⟨depth, itemsFinding_eq_fine.mp kept item listed⟩⟩
  | _ => simp [finding, complain, fine] at kept

theorem isSchemaMap_of_fine (kept : finding depth .schemaMap argument = fine) : IsSchemaMap argument := by
  cases argument with
  | object members =>
      rw [finding] at kept
      exact ⟨members, rfl, fun member listed => ⟨depth, membersFinding_eq_fine.mp kept member listed⟩⟩
  | _ => simp [finding, complain, fine] at kept

theorem isSchemaMap_of_patterns (kept : finding depth .patternMap argument = fine) : IsSchemaMap argument := by
  cases argument with
  | object members =>
      rw [finding, andThen_eq_fine] at kept
      exact ⟨members, rfl, fun member listed => ⟨depth, membersFinding_eq_fine.mp kept.1 member listed⟩⟩
  | _ => simp [finding, complain, fine] at kept

theorem schemaOrTexts_of_fine (kept : finding depth .schemaOrTexts argument = fine) :
    (∃ names : List String, argument = .array (names.map .string)) ∨ Passes argument := by
  cases argument with
  | object members =>
      rw [finding, onlyIf_eq_fine] at kept
      exact .inr ⟨.toEnd, by rw [finding, kept]⟩
  | bool b => exact .inr ⟨depth, rfl⟩
  | array items =>
      refine .inl ?_
      rw [finding, unlessHolds] at kept
      split at kept
      · next quiet =>
          obtain ⟨names, rfl⟩ := textsComplaint?_eq_none (Option.isNone_iff_eq_none.mp quiet)
          exact ⟨names, rfl⟩
      · cases kept
  | _ => simp [finding, complain, fine] at kept

theorem isDependencies_of_fine (kept : finding depth .dependencies argument = fine) : IsDependencies argument := by
  cases argument with
  | object members =>
      rw [finding] at kept
      exact ⟨members, rfl, fun member listed =>
        schemaOrTexts_of_fine (membersFinding_eq_fine.mp kept member listed)⟩
  | _ => simp [finding, complain, fine] at kept

theorem schemaOrSchemas_of_fine (kept : finding depth .schemaOrSchemas argument = fine) :
    IsSchemas argument ∨ Passes argument := by
  cases argument with
  | object members =>
      rw [finding, onlyIf_eq_fine] at kept
      exact .inr ⟨.toEnd, by rw [finding, kept]⟩
  | bool b => exact .inr ⟨depth, rfl⟩
  | array items =>
      rw [finding] at kept
      split at kept
      · cases kept
      · rw [onlyIf_eq_fine] at kept
        exact .inl ⟨items, rfl, fun item listed => ⟨_, itemsFinding_eq_fine.mp kept item listed⟩⟩
  | _ => simp [finding, complain, fine] at kept

/-- The rules for values in which there is no object. -/
def plainRules : List Rule :=
  [.text, .expression, .truth, .number, .positive, .count, .texts, .types]

/-- A value that keeps such a rule mentions no key. -/
theorem count_of_fine {rule : Rule} (plain : rule ∈ plainRules) (kept : finding depth rule argument = fine)
    (word : Key) : Reference.count word argument = 0 := by
  have texts : ∀ items : List Json, (∀ item ∈ items, item.isString = true) →
      Reference.count word (.array items) = 0 := by
    intro items strings
    rw [Reference.count, Reference.countItems_eq_zero]
    intro item listed
    have isString := strings item listed
    cases item <;> simp_all [Json.isString, Reference.count]
  cases argument with
  | object members => 
      simp only [plainRules, List.mem_cons, List.not_mem_nil, or_false] at plain
      rcases plain with rfl | rfl | rfl | rfl | rfl | rfl | rfl | rfl <;>
        simp [finding, flatFinding, unlessHolds, complain, fine, Json.isString, Json.number?, isTypeName] at kept
  | array items =>
      apply texts
      simp only [plainRules, List.mem_cons, List.not_mem_nil, or_false] at plain
      rcases plain with rfl | rfl | rfl | rfl | rfl | rfl | rfl | rfl <;>
        simp [finding, flatFinding, unlessHolds, complain, fine, Json.isString, Json.number?] at kept
      · obtain ⟨names, rfl⟩ := textsComplaint?_eq_none kept
        simp [Json.isString]
      · intro item listed
        have named := kept.2.1 item listed
        cases item <;> simp_all [isTypeName, Json.isString]
  | _ => simp [Reference.count]

end

/-- A keyword that holds no schemas is about data, or its argument keeps a plain rule. -/
theorem ruled_of_evaluated : ∀ keyword ∈ evaluatedKeywords,
    keyword ∈ ["additionalItems", "additionalProperties", "contains", "if", "not", "propertyNames", "allOf", "anyOf",
      "oneOf", "properties", "patternProperties", "dependencies", "items"] ∨
    keyword = "enum" ∨ keyword = "const" ∨ ∃ rule ∈ plainRules, (keyword, rule) ∈ rules := by
  decide

/-- The keywords of a schema that passes have arguments that suit them. -/
theorem Passes.suits {fields : List (Key × Json)} (passes : Passes (.object fields)) {keyword : String}
    {argument : Json} (found : Fields.get? fields (.text keyword) = some argument) : Suits keyword argument := by
  have schema : (keyword, Rule.schema) ∈ rules → Passes argument := fun ruled =>
    passes.keeps .schema ruled found
  have schemas : (keyword, Rule.schemas) ∈ rules → IsSchemas argument := fun ruled =>
    isSchemas_of_fine (passes.keeps .schemas ruled found).choose_spec
  have schemaMap : (keyword, Rule.schemaMap) ∈ rules → IsSchemaMap argument := fun ruled =>
    isSchemaMap_of_fine (passes.keeps .schemaMap ruled found).choose_spec
  unfold Suits
  split
  iterate 8 exact schema (by decide)
  iterate 3 exact schemas (by decide)
  · exact schemaMap (by decide)
  · obtain ⟨depth, kept⟩ := passes.keeps .patternMap (by decide) found
    exact isSchemaMap_of_patterns kept
  · exact schemaMap (by decide)
  · obtain ⟨depth, kept⟩ := passes.keeps .dependencies (by decide) found
    exact isDependencies_of_fine kept
  · obtain ⟨depth, kept⟩ := passes.keeps .schemaOrSchemas (by decide) found
    exact schemaOrSchemas_of_fine kept
  · intro evaluated
    rcases ruled_of_evaluated keyword evaluated with holds | data | data | ⟨rule, plain, ruled⟩
    · simp_all
    · exact .inl data
    · exact .inr (.inl data)
    · obtain ⟨depth, kept⟩ := passes.keeps rule ruled found
      exact .inr (.inr (count_of_fine plain kept))

/-- A value that passes is a schema object or a truth value. -/
theorem Passes.isSchema {schema : Json} (passes : Passes schema) :
    schema.isObject = true ∨ ∃ b, schema = .bool b := by
  obtain ⟨depth, kept⟩ := passes
  cases schema with
  | object fields => exact .inl rfl
  | bool b => exact .inr ⟨b, rfl⟩
  | _ => simp [finding, complain, fine] at kept

theorem Passes.noArray {schema : Json} (passes : Passes schema) : schema.isArray = false := by
  rcases passes.isSchema with isObject | ⟨b, rfl⟩
  · cases schema <;> simp_all [Json.isObject, Json.isArray]
  · rfl

/-- The schemas that a keyword looks at pass in their turn. -/
theorem Passes.held {fields : List (Key × Json)} (passes : Passes (.object fields)) {keyword : String}
    {argument schema : Json} (found : Fields.get? fields (.text keyword) = some argument)
    (held : schema ∈ heldBy keyword argument) : Passes schema := by
  have suits := passes.suits found
  unfold heldBy at held
  split at held
  iterate 8
    obtain rfl := List.mem_singleton.mp held
    exact suits
  iterate 3
    obtain ⟨items, rfl, pass⟩ := suits
    exact pass schema held
  iterate 2
    obtain ⟨members, rfl, pass⟩ := suits
    obtain ⟨member, listed, rfl⟩ := List.mem_map.mp held
    exact pass member listed
  · obtain ⟨members, rfl, pass⟩ := suits
    obtain ⟨inside, noArray⟩ := List.mem_filter.mp held
    obtain ⟨member, listed, rfl⟩ := List.mem_map.mp inside
    rcases pass member listed with ⟨names, same⟩ | passes'
    · simp [same, Json.isArray] at noArray
    · exact passes'
  · rcases suits with ⟨items, rfl, pass⟩ | passes'
    · exact pass schema held
    · rw [passes'.noArray, if_neg Bool.false_ne_true] at held
      obtain rfl := List.mem_singleton.mp held
      exact passes'
  · exact absurd held List.not_mem_nil

end SchemaAlgebra.Metaschema
