import SchemaAlgebra.Proofs.Schema.Metaschema
import SchemaAlgebra.Proofs.Schema.Nodes

/-!
Schemas that require what they declare. The visit of a schema sees every node of it, and below a keyword of a value
that passes the metaschema stand only values that pass as what the keyword holds.
-/

namespace SchemaAlgebra

namespace Walk

/-- What a node requires is a list of different names of its properties. -/
def RequiresDeclared (fields : List (Key × Json)) : Prop :=
  ∀ value, Fields.get? fields "required" = some value → ∃ names : List String, value = .array (names.map .string) ∧
    names.Nodup ∧ ∀ name ∈ names, ∃ members, Fields.get? fields "properties" = some (.object members) ∧
      Fields.has members name = true

/-- The document of a schema whose nodes require what they declare: a JSON document that passes the metaschema, in
which every node that is visited requires different names of its properties. -/
structure Consistent (document : Json) : Prop where
  wellFormed : document.wellFormed = true
  isSchema : Metaschema.isSchema document = true
  requires : ∀ fields, .object fields ∈ (visit none document).seen → RequiresDeclared fields

theorem lookup_keywords {keyword : String} {role : Role} (listed : (keyword, role) ∈ keywords) :
    keywords.lookup keyword = some role := by
  revert listed
  simp only [keywords, List.mem_cons, Prod.mk.injEq, List.not_mem_nil, or_false]
  rintro (⟨rfl, rfl⟩ | ⟨rfl, rfl⟩ | ⟨rfl, rfl⟩ | ⟨rfl, rfl⟩ | ⟨rfl, rfl⟩ | ⟨rfl, rfl⟩ | ⟨rfl, rfl⟩) <;> rfl

/-- What the visit of a node sees under a keyword is what the visit of the value of the keyword sees. -/
theorem lookup_visitKeywords {fields : List (Key × Json)} {keyword : String} {role : Role}
    (known : keywords.lookup keyword = some role) :
    (visitKeywords none fields).2.lookup keyword =
      (Fields.get? fields keyword).map fun value => (visitAs none role value).seen := by
  induction fields with
  | nil => rfl
  | cons entry rest ih =>
      obtain ⟨key, value⟩ := entry
      rw [Fields.get?_cons, visitKeywords]
      by_cases same : key = .text keyword
      · subst same
        simp [Key.text?, known]
      · simp only [reduceCtorEq, if_false, if_neg same]
        split
        · next word under taken =>
            have apart : keyword ≠ word := by
              rintro rfl
              cases key with
              | text text =>
                  simp only [Key.text?, Option.bind_some, Option.map_eq_some_iff, Prod.mk.injEq] at taken
                  obtain ⟨_, _, rfl, _⟩ := taken
                  exact same rfl
              | _ => simp [Key.text?] at taken
            rw [List.lookup_cons, beq_false_of_ne apart]
            exact ih
        · exact ih

/-- The visit of a value sees every node of it. -/
theorem mem_visitAs_of_isNode {role : Role} {value : Json} {node : List (Key × Json)} (isNode : IsNode role value node) :
    .object node ∈ (visitAs none role value).seen := by
  induction isNode with
  | @here role fields own => cases role <;> simp_all [Role.isNode, visitAs]
  | @keyword role under fields node keyword value own listed found _ ih =>
      have seen : .object node ∈ keywords.flatMap fun entry =>
          ((visitKeywords none fields).2.lookup entry.1).getD [] := by
        refine List.mem_flatMap.mpr ⟨_, listed, ?_⟩
        rw [lookup_visitKeywords (lookup_keywords listed), found]
        exact ih
      cases role <;> simp_all [Role.isNode, visitAs]
  | @member fields node entry listed _ ih =>
      rw [visitAs]
      dsimp only
      induction fields with
      | nil => simp at listed
      | cons first rest ih' =>
          obtain ⟨key, value⟩ := first
          rw [visitMembers]
          rcases List.mem_cons.mp listed with rfl | listed
          · exact List.mem_append_left _ ih
          · exact List.mem_append_right _ (ih' listed)
  | @item role items node item own listed _ ih =>
      have seen : .object node ∈ (visitItems none items).2 := by
        induction items with
        | nil => simp at listed
        | cons first rest ih' =>
            rw [visitItems]
            rcases List.mem_cons.mp listed with rfl | listed
            · exact List.mem_append_left _ ih
            · exact List.mem_append_right _ (ih' listed)
      cases role <;> simp_all [Role.isList, visitAs]

end Walk

namespace Metaschema

/-- The rule for the value of a keyword that holds schemas. -/
def ruleOf : Walk.Role → Rule
  | .schema | .objectOnly => .schema
  | .members => .schemaMap
  | .branches => .schemas
  | .schemaOrList => .schemaOrSchemas

/-- Looking at a value as what a role holds finds nothing. -/
def PassesAs (role : Walk.Role) (value : Json) : Prop :=
  ∃ depth, finding depth (ruleOf role) value = fine

variable {role : Walk.Role} {fields : List (Key × Json)} {items : List Json}

theorem ruleOf_mem {keyword : String} (listed : (keyword, role) ∈ Walk.keywords) :
    (keyword, ruleOf role) ∈ rules := by
  revert listed
  simp only [Walk.keywords, List.mem_cons, Prod.mk.injEq, List.not_mem_nil, or_false]
  rintro (⟨rfl, rfl⟩ | ⟨rfl, rfl⟩ | ⟨rfl, rfl⟩ | ⟨rfl, rfl⟩ | ⟨rfl, rfl⟩ | ⟨rfl, rfl⟩ | ⟨rfl, rfl⟩) <;> decide

theorem Passes.keyword (passes : Passes (.object fields)) {keyword : String} {value : Json}
    (listed : (keyword, role) ∈ Walk.keywords) (found : Fields.get? fields keyword = some value) :
    PassesAs role value :=
  passes.keeps (ruleOf role) (ruleOf_mem listed) found

theorem PassesAs.array (passes : PassesAs role (.array items)) :
    role.isList = true ∧ ∀ item ∈ items, PassesAs .schema item := by
  obtain ⟨depth, kept⟩ := passes
  cases role with
  | schema | objectOnly | members => simp [ruleOf, finding, complain, fine] at kept
  | branches =>
      rw [ruleOf, finding] at kept
      split at kept
      · simp [complain, fine] at kept
      · exact ⟨rfl, fun item listed => ⟨depth, itemsFinding_eq_fine.mp kept item listed⟩⟩
  | schemaOrList =>
      rw [ruleOf, finding] at kept
      split at kept
      · simp [complain, fine] at kept
      · rw [onlyIf_eq_fine] at kept
        exact ⟨rfl, fun item listed => ⟨.toEnd, itemsFinding_eq_fine.mp kept item listed⟩⟩

theorem PassesAs.object (passes : PassesAs role (.object fields)) :
    role.isNode = true ∧ Passes (.object fields) ∨ role = .members ∧ ∀ entry ∈ fields, PassesAs .schema entry.2 := by
  obtain ⟨depth, kept⟩ := passes
  cases role with
  | schema | objectOnly => exact .inl ⟨rfl, depth, kept⟩
  | members =>
      rw [ruleOf, finding, membersFinding_eq_fine] at kept
      exact .inr ⟨rfl, fun entry listed => ⟨depth, kept entry listed⟩⟩
  | branches => simp [ruleOf, finding, complain, fine] at kept
  | schemaOrList =>
      rw [ruleOf, finding, onlyIf_eq_fine] at kept
      exact .inl ⟨rfl, .toEnd, by rw [finding, kept]⟩

theorem PassesAs.isObject {value : Json} (passes : PassesAs .members value) : value.isObject = true := by
  obtain ⟨depth, kept⟩ := passes
  cases value with
  | object fields => rfl
  | _ => simp [ruleOf, finding, complain, fine] at kept

end Metaschema

end SchemaAlgebra
