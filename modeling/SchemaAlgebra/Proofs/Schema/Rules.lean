import SchemaAlgebra.Proofs.Schema.Requirements

/-!
What the metaschema asks of a value. How far a value is looked at only decides which complaint is given, never
whether there is one. So a value passes exactly if it has the form that its rule asks for and its parts pass in
their turn.
-/

namespace SchemaAlgebra.Metaschema

variable {depth : Depth} {rule : Rule} {value : Json} {fields : List (Key × Json)} {items : List Json}
  {role : Walk.Role}

theorem expressionsFinding_eq_fine {texts : List String} :
    expressionsFinding depth texts = fine ↔ ∀ text ∈ texts, expressionFinding text = fine := by
  induction texts with
  | nil => simp [expressionsFinding]
  | cons text rest ih => rw [expressionsFinding, andThen_eq_fine, ih, List.forall_mem_cons]

theorem fieldFinding_eq_fine {keyword : String} : fieldFinding depth rule keyword fields = fine ↔
    ∀ value, Fields.get? fields (.text keyword) = some value → finding depth rule value = fine := by
  cases found : Fields.get? fields (.text keyword) with
  | some value => simp [fieldFinding_of_get? found]
  | none =>
      simp only [reduceCtorEq, false_implies, implies_true, iff_true]
      induction fields with
      | nil => rfl
      | cons entry rest ih =>
          obtain ⟨key, value⟩ := entry
          rw [Fields.get?_cons] at found
          split at found
          · cases found
          · next other => rw [fieldFinding, if_neg other, ih found]

theorem object_eq_fine : finding depth .schema (.object fields) = fine ↔
    ∀ keyword rule, (keyword, rule) ∈ rules → ∀ value, Fields.get? fields (.text keyword) = some value →
      finding depth rule value = fine := by
  rw [finding, foldr_eq_fine]
  simp only [fieldFinding_eq_fine, Prod.forall]

/-- Looking at a value under a rule finds nothing. -/
def Holds (rule : Rule) (value : Json) : Prop :=
  ∃ depth, finding depth rule value = fine

/-- If one look finds nothing, none does. -/
theorem finding_of_finding (value : Json) : ∀ rule (depth depth' : Depth), finding depth rule value = fine →
    finding depth' rule value = fine := by
  induction value using Json.treeInduction with
  | array items ih =>
      intro rule depth depth' quiet
      cases rule with
      | schemas =>
          rw [finding] at quiet ⊢
          split at quiet
          · simp [complain, fine] at quiet
          · next some =>
              rw [if_neg some]
              rw [itemsFinding_eq_fine] at quiet ⊢
              exact fun item listed => ih item listed _ depth depth' (quiet item listed)
      | _ => exact quiet
  | object fields ih =>
      intro rule depth depth' quiet
      have members (rule : Rule) (quiet : membersFinding depth rule fields = fine) :
          membersFinding depth' rule fields = fine := by
        rw [membersFinding_eq_fine] at quiet ⊢
        exact fun member listed => ih member listed rule depth depth' (quiet member listed)
      cases rule with
      | schema =>
          rw [object_eq_fine] at quiet ⊢
          exact fun keyword rule ruled value found =>
            ih _ (Fields.mem_of_get? found) rule depth depth' (quiet keyword rule ruled value found)
      | schemaMap => exact members .schema quiet
      | patternMap =>
          rw [finding, andThen_eq_fine] at quiet ⊢
          exact ⟨members .schema quiet.1, expressionsFinding_eq_fine.mpr (expressionsFinding_eq_fine.mp quiet.2)⟩
      | dependencies => exact members .schemaOrTexts quiet
      | _ => exact quiet
  | scalar value notArray notObject =>
      intro rule depth depth' quiet
      cases value with
      | array items => simp [Json.isArray] at notArray
      | object fields => simp [Json.isObject] at notObject
      | _ => exact quiet

theorem Holds.at (holds : Holds rule value) (depth : Depth) : finding depth rule value = fine := by
  obtain ⟨depth', quiet⟩ := holds
  exact finding_of_finding value rule depth' depth quiet

theorem isSchema_iff : isSchema value = true ↔ Holds .schema value := by
  refine ⟨passes_of_isSchema, fun holds => ?_⟩
  rw [isSchema, check, holds.at .toFirst]
  rfl

/-- An object passes if the value of each keyword has a rule that it holds. -/
theorem holds_object : Holds .schema (.object fields) ↔
    ∀ keyword rule, (keyword, rule) ∈ rules → ∀ value, Fields.get? fields (.text keyword) = some value →
      Holds rule value := by
  constructor
  · rintro ⟨depth, quiet⟩ keyword rule ruled value found
    exact ⟨depth, object_eq_fine.mp quiet keyword rule ruled value found⟩
  · exact fun each => ⟨.toFirst, object_eq_fine.mpr fun keyword rule ruled value found =>
      (each keyword rule ruled value found).at .toFirst⟩

/-- What is required are texts, no two of which are found to be the same. -/
theorem holds_texts : Holds .texts value ↔
    ∃ names : List String, value = .array (names.map .string) ∧ Json.allDifferent (names.map .string) = true := by
  constructor
  · rintro ⟨depth, quiet⟩
    cases value with
    | array items =>
        simp only [finding, flatFinding, fine, Except.ok.injEq] at quiet
        obtain ⟨names, rfl⟩ := textsComplaint?_eq_none quiet
        refine ⟨names, rfl, ?_⟩
        have texts : nonText? (names.map .string) = none := by simp [nonText?, Json.isString]
        simpa [textsComplaint?, texts] using quiet
    | _ => simp [finding, flatFinding, complain, fine] at quiet
  · rintro ⟨names, rfl, differ⟩
    have texts : nonText? (names.map .string) = none := by simp [nonText?, Json.isString]
    refine ⟨.toFirst, ?_⟩
    simp [finding, flatFinding, textsComplaint?, texts, differ, fine]

theorem nodup_keys_rules : (Fields.keys rules).Nodup := by
  decide

/-- A keyword has one rule. -/
theorem eq_of_ruled {keyword : String} {rule rule' : Rule} (ruled : (keyword, rule) ∈ rules)
    (ruled' : (keyword, rule') ∈ rules) : rule = rule' :=
  Option.some.inj ((Fields.get?_of_mem nodup_keys_rules ruled).symm.trans
    (Fields.get?_of_mem nodup_keys_rules ruled'))

namespace PassesAs

theorem bool (b : Bool) (own : role.isNode = true) : PassesAs role (.bool b) := by
  cases role with
  | schema | schemaOrList | objectOnly => exact ⟨.toFirst, rfl⟩
  | members | branches => simp [Walk.Role.isNode] at own

theorem node (own : role.isNode = true) (holds : Holds .schema (.object fields)) :
    PassesAs role (.object fields) := by
  cases role with
  | schema | objectOnly => exact holds
  | schemaOrList =>
      refine ⟨.toFirst, ?_⟩
      have quiet := holds.at .toEnd
      rw [finding] at quiet
      rw [ruleOf, finding, onlyIf_eq_fine]
      exact quiet
  | members | branches => simp [Walk.Role.isNode] at own

theorem members (each : ∀ entry ∈ fields, PassesAs .schema entry.2) : PassesAs .members (.object fields) := by
  refine ⟨.toFirst, ?_⟩
  rw [ruleOf, finding, membersFinding_eq_fine]
  exact fun entry listed => Holds.at (each entry listed) .toFirst

theorem list (isList : role.isList = true) (some : items ≠ []) (each : ∀ item ∈ items, PassesAs .schema item) :
    PassesAs role (.array items) := by
  have quiet (depth : Depth) : itemsFinding depth items = fine :=
    itemsFinding_eq_fine.mpr fun item listed => Holds.at (each item listed) depth
  cases role with
  | branches =>
      refine ⟨.toFirst, ?_⟩
      rw [ruleOf, finding, if_neg (by simpa using some)]
      exact quiet .toFirst
  | schemaOrList =>
      refine ⟨.toFirst, ?_⟩
      rw [ruleOf, finding, if_neg (by simpa using some), onlyIf_eq_fine]
      exact quiet .toEnd
  | schema | objectOnly | members => simp [Walk.Role.isList] at isList

theorem scalar (passes : PassesAs role value) (notArray : value.isArray = false)
    (notObject : value.isObject = false) :
    role.isNode = true ∧ ∃ b, value = .bool b := by
  obtain ⟨depth, quiet⟩ := passes
  cases value with
  | array items => simp [Json.isArray] at notArray
  | object fields => simp [Json.isObject] at notObject
  | bool b => cases role <;> simp_all [ruleOf, finding, complain, fine, Walk.Role.isNode]
  | _ => cases role <;> simp [ruleOf, finding, complain, fine] at quiet

end PassesAs

theorem not_passesAs_nil : ¬ PassesAs role (.array []) := by
  rintro ⟨depth, quiet⟩
  cases role <;> simp [ruleOf, finding, complain, fine] at quiet

end SchemaAlgebra.Metaschema
