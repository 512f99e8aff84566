import SchemaAlgebra.Proofs.Validation.Compatibility

/-!
Schemas that differ in the order of keys only say the same about every value without normalization, as far as they
say anything. A keyword is given values that are alike in what it looks at: all look at the kind of a value, some at
the names in it, and some at the whole.
-/

namespace SchemaAlgebra

open Outcome
open Json (Reordered SameShape)

/-- The keywords that look at all names in an object. -/
def namingKeywords : List String := ["minProperties", "maxProperties", "propertyNames", "dependencies"]

/-- The keywords that look at everything in a value. -/
def surveyingKeywords : List String :=
  ["enum", "const", "uniqueItems", "contains", "allOf", "anyOf", "oneOf", "not", "if"]

/-- The keywords that look at certain children of a value. -/
def childKeywords : List String :=
  ["properties", "patternProperties", "additionalProperties", "items", "additionalItems"]

/-- A keyword looks at everything in a value; dependencies do if one of them is a schema. -/
def Schema.Surveys (keyword : String) (argument : Json) : Prop :=
  keyword ∈ surveyingKeywords ∨ keyword = "dependencies" ∧ heldBy "dependencies" argument ≠ []

namespace Json

variable {value value' : Json}

theorem Reordered.sameShape (reordered : Reordered value value') : SameShape value value' := by
  cases reordered with
  | scalar => exact .same _
  | array lengths => exact .array lengths
  | object => exact .object _ _

/-- Objects with the same names have the same keys, however these are spelled. -/
theorem has_of_namesOf (shape : SameShape value value') (names : (namesOf value).Perm (namesOf value')) (key : Key) :
    value'.has key = value.has key := by
  cases shape with
  | same => rfl
  | array => rfl
  | object =>
      rw [Bool.eq_iff_iff]
      refine (Key.has_spelledIn _ key).trans (Iff.trans ?_ (Key.has_spelledIn _ key).symm)
      have same : ∀ other, _ ↔ _ := fun other => @List.Perm.mem_iff _ other _ _ names
      simp only [namesOf] at same
      simp only [same]

end Json

namespace Keyword

variable {argument argument' value value' : Json}

theorem isOfType_reordered (shape : SameShape value value') (checker : TypeChecker) {type type' : Json}
    (related : Reordered type type') : value'.isOfType checker type' = value.isOfType checker type := by
  cases related with
  | scalar noArray noObject =>
      unfold Json.isOfType
      simp only [hasType?_sameShape shape]
  | array => rfl
  | object => rfl

theorem hasOneOf_eq_true {checker : TypeChecker} {types : List Json}
    (found : value.hasOneOf checker types = .ok true) : ∃ type ∈ types, value.isOfType checker type = .ok true := by
  induction types with
  | nil => cases found
  | cons type rest ih =>
      obtain ⟨holds, here, later⟩ := bind_eq_ok.mp found
      cases holds with
      | true => exact ⟨type, List.mem_cons_self, here⟩
      | false =>
          obtain ⟨other, listed, there⟩ := ih later
          exact ⟨other, List.mem_cons_of_mem _ listed, there⟩

theorem hasOneOf_eq_false {checker : TypeChecker} {types : List Json}
    (found : value.hasOneOf checker types = .ok false) : ∀ type ∈ types,
      value.isOfType checker type = .ok false := by
  induction types with
  | nil => simp
  | cons type rest ih =>
      obtain ⟨holds, here, later⟩ := bind_eq_ok.mp found
      cases holds with
      | true => cases later
      | false => exact List.forall_mem_cons.mpr ⟨here, ih later⟩

/-- Whether a value has one of several types does not depend on the order in which they are tried, if all of the
tries succeed. -/
theorem hasOneOf_matched (shape : SameShape value value') {checker : TypeChecker} {types types' : List Json}
    (matched : Matched Reordered types types') {holds holds' : Bool}
    (found : value.hasOneOf checker types = .ok holds)
    (found' : value'.hasOneOf checker types' = .ok holds') : holds' = holds := by
  cases holds with
  | true =>
      cases holds' with
      | true => rfl
      | false =>
          obtain ⟨type, listed, typed⟩ := hasOneOf_eq_true found
          obtain ⟨type', listed', related⟩ := matched.there type listed
          have refused := hasOneOf_eq_false found' type' listed'
          rw [isOfType_reordered shape checker related, typed] at refused
          cases refused
  | false =>
      cases holds' with
      | false => rfl
      | true =>
          obtain ⟨type', listed', typed⟩ := hasOneOf_eq_true found'
          obtain ⟨type, listed, related⟩ := matched.back type' listed'
          rw [isOfType_reordered shape checker related, hasOneOf_eq_false found type listed] at typed
          cases typed

theorem typesOf_reordered (argued : Reordered argument argument') :
    (typesOf argument = none ∧ typesOf argument' = none) ∨
      ∃ types types', typesOf argument = some types ∧ typesOf argument' = some types' ∧
        Matched Reordered types types' := by
  unfold typesOf
  rw [argued.isString]
  cases text : argument.isString with
  | false => simpa using argued.elements?
  | true =>
      refine .inr ⟨_, _, rfl, rfl, .of_forall₂ (.cons argued .nil)⟩

theorem checkType_accord (argued : Reordered argument argument') (shape : SameShape value value') :
    Compatible (checkType argument value).answer (checkType argument' value').answer := by
  rcases typesOf_reordered argued with ⟨missing, -⟩ | ⟨types, types', listed, listed', matched⟩
  · have unusable : checkType argument value = .fail value .unusable := by
      cases argument <;> simp_all [checkType, typesOf, Json.isString]
    rw [unusable]
    exact none_compatible _
  · rw [checkType_of_typesOf listed, checkType_of_typesOf listed', answer_given, answer_given]
    refine compatible_toOption fun holds holds' found found' => ?_
    have same := hasOneOf_matched shape matched found found'
    cases same
    cases holds with
    | true => exact compatible_refl _
    | false =>
        simp only [Bool.false_eq_true, if_false, answer_reject]
        exact compatible_refusal _ _

theorem checkEnum_accord (argued : Reordered argument argument') (reordered : Reordered value value') :
    Compatible (checkEnum argument value).answer (checkEnum argument' value').answer := by
  unfold checkEnum
  rcases argued.elements? with ⟨missing, -⟩ | ⟨elements, elements', listed, listed', matched⟩
  · rw [missing]
    exact none_compatible _
  · have same : (elements'.any fun element => element.same value') = elements.any fun element =>
      element.same value := by
      rw [Bool.eq_iff_iff, List.any_eq_true, List.any_eq_true]
      constructor
      · rintro ⟨element', present', equal⟩
        obtain ⟨element, present, related⟩ := matched.back element' present'
        exact ⟨element, present, by rwa [← Json.compares_same.eq related reordered]⟩
      · rintro ⟨element, present, equal⟩
        obtain ⟨element', present', related⟩ := matched.there element present
        exact ⟨element', present', by rwa [Json.compares_same.eq related reordered]⟩
    rw [listed, listed']
    simp only [same]
    split
    · exact compatible_refl _
    · rw [answer_reject, answer_reject]
      exact compatible_refusal _ _

theorem checkConst_accord (argued : Reordered argument argument') (reordered : Reordered value value') :
    Compatible (checkConst argument value).answer (checkConst argument' value').answer := by
  unfold checkConst
  rw [Json.compares_same.eq reordered argued]
  split
  · exact compatible_refl _
  · rw [answer_reject, answer_reject]
    exact compatible_refusal _ _

theorem checkBound_accord (argued : Reordered argument argument') (shape : SameShape value value') (keyword : String)
    (refused : Number → Number → Bool) (verdict : String) :
    Compatible (checkBound keyword refused verdict argument value).answer
      (checkBound keyword refused verdict argument' value').answer := by
  cases shape with
  | object => exact compatible_refl _
  | array => exact compatible_refl _
  | same =>
      unfold checkBound
      rw [argued.plainNumber?]
      split
      · exact compatible_refl _
      · exact compatible_refl _
      · exact compatible_unless rfl

theorem checkMultiple_accord (argued : Reordered argument argument') (shape : SameShape value value') :
    Compatible (checkMultiple argument value).answer (checkMultiple argument' value').answer := by
  cases shape with
  | object => exact compatible_refl _
  | array => exact compatible_refl _
  | same =>
      unfold checkMultiple
      rw [argued.plainNumber?]
      split
      · exact compatible_refl _
      · exact compatible_refl _
      · split
        · exact compatible_refl _
        · exact compatible_refl _
        · rw [answer_reject, answer_reject]
          exact compatible_refusal _ _

theorem checkSize_accord (argued : Reordered argument argument') {keyword specialVerdict verdict : String}
    {size : Nat}
    {refused : Number → Number → Bool} {special : Int} :
    Compatible (checkSize keyword size refused special specialVerdict verdict argument value).answer
      (checkSize keyword size refused special specialVerdict verdict argument' value').answer := by
  unfold checkSize
  rw [argued.plainNumber?]
  split
  · exact compatible_refl _
  · exact compatible_unless rfl

theorem checkUnique_accord (argued : Reordered argument argument') (reordered : Reordered value value') :
    Compatible (checkUnique argument value).answer (checkUnique argument' value').answer := by
  cases reordered with
  | scalar noArray =>
      cases value with
      | array => cases noArray
      | _ => exact compatible_refl _
  | object => exact compatible_refl _
  | array lengths each =>
      unfold checkUnique
      simp only
      rw [argued.isTruthy, Json.allDifferent_reordered (Reordered.array lengths each).items]
      exact compatible_unless rfl

theorem checkPattern_accord (argued : Reordered argument argument') (shape : SameShape value value') :
    Compatible (checkPattern argument value).answer (checkPattern argument' value').answer := by
  cases shape with
  | object => exact compatible_refl _
  | array => exact compatible_refl _
  | same =>
      cases argued with
      | scalar => exact compatible_refl _
      | array => exact compatible_of_eq (by cases value <;> rfl)
      | object => exact compatible_of_eq (by cases value <;> rfl)

theorem checkFormat_accord (argued : Reordered argument argument') (shape : SameShape value value') :
    Compatible (checkFormat argument value).answer (checkFormat argument' value').answer := by
  have other : ∀ value value' : Json, Compatible
      (if argument.key?.isSome then accept value else fail value .unusable).answer
      (if argument'.key?.isSome then accept value' else fail value' .unusable).answer := by
    intro value value'
    rw [argued.key?]
    split
    · exact compatible_refl _
    · exact compatible_refl _
  cases shape with
  | object => exact other _ _
  | array => exact other _ _
  | same =>
      cases argued with
      | scalar => exact compatible_refl _
      | array => exact compatible_of_eq (by cases value <;> rfl)
      | object => exact compatible_of_eq (by cases value <;> rfl)

/-- The keywords without subschemas say the same about values of one shape, if those that look at the names or at
the whole are given values with the same names or values that differ in the order of keys only. -/
theorem check_accord (keyword : String) (argued : Reordered argument argument') (shape : SameShape value value')
    (names : keyword ∈ namingKeywords → (namesOf value).Perm (namesOf value'))
    (whole : keyword ∈ surveyingKeywords → Reordered value value') :
    Compatible (check keyword argument value).answer (check keyword argument' value').answer := by
  unfold check
  split
  · exact checkType_accord argued shape
  · exact checkEnum_accord argued (whole (by decide))
  · exact checkConst_accord argued (whole (by decide))
  iterate 4 exact checkBound_accord argued shape _ _ _
  · exact checkMultiple_accord argued shape
  -- the sizes of texts and arrays
  iterate 2
    cases shape with
    | object => exact compatible_refl _
    | array => exact compatible_refl _
    | same =>
        split
        · exact checkSize_accord argued
        · exact compatible_refl _
  iterate 2
    cases shape with
    | object => exact compatible_refl _
    | array lengths =>
        simp only [← lengths]
        exact checkSize_accord argued
    | same =>
        split
        · exact checkSize_accord argued
        · exact compatible_refl _
  iterate 2
    have listed := names (by decide)
    cases shape with
    | object =>
        have lengths := listed.length_eq
        simp only [namesOf, Fields.keys, List.length_map] at lengths
        simp only [← lengths]
        exact checkSize_accord argued
    | array => exact compatible_refl _
    | same =>
        split
        · exact checkSize_accord argued
        · exact compatible_refl _
  · exact checkUnique_accord argued (whole (by decide))
  · exact checkPattern_accord argued shape
  · exact checkFormat_accord argued shape
  · exact compatible_refl _

end Keyword

namespace Structure

open Evaluation Schema

variable {part part' : Part} {node node' : Node} {extent extent' : Extent} {value value' : Json}

theorem propertyNames_accord (accords : part.Accords part') (names : (namesOf value).Perm (namesOf value')) :
    Compatible (propertyNames part .plain extent value).answer
      (propertyNames part' .plain extent' value').answer := by
  rw [answer_propertyNames, answer_propertyNames]
  refine compatible_inTurn ((Matched.of_same fun _ => names.mem_iff).map ?_) _ _
  rintro key - _ - rfl
  exact accords.enters _ _ _ _ (.toJson _)

theorem isThere_reordered {name name' : Json} (related : Reordered name name')
    (there : ∀ key, name.key? = some key → value'.has key = value.has key) :
    isThere name' value' = isThere name value := by
  unfold isThere
  rw [related.key?]
  split
  · next key named => rw [there key named]
  · rfl

theorem answer_required (argument : Json) :
    (required node argument .plain extent value).answer =
      if value.isObject then argument.elements?.bind fun names =>
        inTurn extent (names.map fun name => (isThere name value).toOption.bind fun present =>
          if present then some true else refusal [name])
      else some true := by
  unfold required
  split
  · simp only [Options.plain, Bool.false_eq_true, if_false]
    cases argument.elements? with
    | none => rfl
    | some names =>
        simp only [Option.bind_some]
        rw [answer_chain_map]
        · refine congrArg (inTurn extent) (List.map_congr_left fun name _ => ?_)
          rw [answer_given]
          refine congrArg ((isThere name value).toOption.bind ·) (funext fun present => ?_)
          cases present <;> simp
        · intro name _
          refine given_value fun present _ => ?_
          split <;> simp
  · rfl

theorem required_accord {argument argument' : Json} (argued : Reordered argument argument')
    (shape : SameShape value value') (there : ∀ names, argument.elements? = some names → ∀ name ∈ names, ∀ key,
      name.key? = some key → value'.has key = value.has key) :
    Compatible (required node argument .plain extent value).answer
      (required node' argument' .plain extent' value').answer := by
  rw [answer_required, answer_required, shape.isObject]
  split
  · refine compatible_bind fun names names' listed listed' => ?_
    rcases argued.elements? with ⟨missing, -⟩ | ⟨others, others', found, found', matched⟩
    · cases listed.symm.trans missing
    · obtain rfl := Option.some.inj (listed.symm.trans found)
      obtain rfl := Option.some.inj (listed'.symm.trans found')
      refine compatible_inTurn (matched.map fun name present name' _ related => ?_) _ _
      rw [isThere_reordered related (there _ listed name present)]
      refine compatible_bind fun b b' here here' => ?_
      obtain rfl := Option.some.inj (here.symm.trans here')
      cases b with
      | true => exact compatible_refl _
      | false => exact compatible_refusal _ _
  · exact compatible_refl _

/-- A dependency looks at names if it lists names, and otherwise at the whole. -/
theorem dependency_accord {property : Key} (accords : part.Accords part')
    (there : ∀ key, value'.has key = value.has key)
    (whole : part.schema.isArray = false → Reordered value value') :
    Compatible (dependency property part .plain extent value).answer
      (dependency property part' .plain extent' value').answer := by
  rw [answer_dependency, answer_dependency, there]
  have related := accords.schema
  generalize here : part.schema = schema, here' : part'.schema = schema' at related whole
  have entered : schema.isArray = false → Compatible
    (if value.has property then part.replyEntered extent value else some true)
      (if value.has property then part'.replyEntered extent' value' else some true) := by
    intro noArray
    split
    · exact accords.enters _ _ _ _ (whole noArray)
    · exact compatible_refl _
  cases related with
  | scalar noArray noObject =>
      cases schema with
      | array => cases noArray
      | _ => exact entered rfl
  | object => exact entered rfl
  | array lengths each =>
      split
      · refine compatible_inTurn ((Matched.of_forall₂ (Reordered.array lengths each).items).map ?_) _ _
        intro name _ name' _ related
        rw [isThere_reordered related fun key _ => there key]
        refine compatible_bind fun b b' here here' => ?_
        obtain rfl := Option.some.inj (here.symm.trans here')
        cases b with
        | true => exact compatible_refl _
        | false => exact compatible_refusal _ _
      · exact compatible_refl _

theorem dependencies_accord {argument argument' : Parts} (keep : ∀ member ∈ argument.members, member.2.Keeps .plain)
    (keep' : ∀ member ∈ argument'.members, member.2.Keeps .plain) (shape : SameShape value value')
    (there : ∀ key, value'.has key = value.has key)
    (matched : ∀ members members', argument.named = .ok members → argument'.named = .ok members' →
      Matched (Part.Named fun part other => part.Accords other ∧
        (part.schema.isArray = false → Reordered value value'))
        members members') :
    Compatible (dependencies argument .plain extent value).answer
      (dependencies argument' .plain extent' value').answer := by
  rw [answer_dependencies keep, answer_dependencies keep', shape.isObject]
  split
  · refine compatible_toOption fun members members' named named' => compatible_inTurn ?_ _ _
    refine (matched members members' named named').map fun member _ member' _ both => ?_
    obtain ⟨same, -, accords, whole⟩ := both
    rw [same]
    exact dependency_accord accords there whole
  · exact compatible_refl _

end Structure

namespace Schema

/-- In a schema that passes, the keywords that name properties have objects for arguments. -/
theorem names_of_passes {fields : List (Key × Json)} (formed : (Json.object fields).wellFormed = true)
    (passes : Metaschema.Passes (.object fields)) : Names fields where
  formed := formed
  properties argument found := by
    obtain ⟨members, rfl, -⟩ := passes.suits found
    rfl
  patterns argument found := by
    obtain ⟨members, rfl, -⟩ := passes.suits found
    rfl

/-- Where undeclared properties are looked for, the patterns say joined what each of them says. -/
def JoinsWhereNeeded (fields : List (Key × Json)) : Prop :=
  Fields.has fields "additionalProperties" = true → Joins fields

/-- A property of every schema object that evaluating a schema can come to. -/
inductive Throughout (holds : List (Key × Json) → Prop) : Json → Prop
  | flat {schema : Json} : schema.isObject = false → Throughout holds schema
  | object {fields : List (Key × Json)} : holds fields →
      (∀ keyword argument, (Key.text keyword, argument) ∈ fields →
        ∀ schema ∈ heldBy keyword argument, Throughout holds schema) → Throughout holds (.object fields)

end Schema

namespace Structure

open Evaluation Schema

section

variable {meaning meaning' : Meaning} {location location' : String} {argument argument' : Json}

theorem named_matched {related : Part → Part → Prop} (argued : Reordered argument argument')
    (each : ∀ member ∈ argument.members, ∀ member' ∈ argument'.members, Reordered member.2 member'.2 →
      related (partWith meaning location member.2) (partWith meaning' location' member'.2)) :
    ∀ members members', (argumentWith meaning location argument).named = .ok members →
      (argumentWith meaning' location' argument').named = .ok members' →
        Matched (Part.Named related) members members' := by
  intro members members' named named'
  rw [argumentWith_named] at named named'
  have formed := argued.formed
  cases argued with
  | scalar _ noObject =>
      rw [noObject] at named
      cases named
  | array => cases named
  | object textual distinct keys related =>
      obtain rfl := Except.ok.inj named
      obtain rfl := Except.ok.inj named'
      refine (Reordered.object textual distinct keys related).members.map ?_
      rintro member listed member' listed' ⟨same, reordered⟩
      exact ⟨same, textual _ (List.mem_map_of_mem listed), each _ listed _ listed' reordered⟩

theorem runFlat_accord (argued : Reordered argument argument') (notObject : argument.isObject = false)
    (value value' : Json) : Compatible (Part.runFlat argument value).answer
    (Part.runFlat argument' value').answer := by
  have failed : ∀ schema value : Json, (∀ b, schema ≠ .bool b) → (Part.runFlat schema value).answer = none := by
    intro schema value noBool
    unfold Part.runFlat
    split
    · exact absurd rfl (noBool _)
    · exact absurd rfl (noBool _)
    · split <;> rfl
  cases argument with
  | bool b =>
      obtain rfl := argued.eq rfl rfl
      cases b with
      | true => exact compatible_refl _
      | false =>
          rw [Part.runFlat, Part.runFlat, answer_reject, answer_reject]
          exact compatible_refusal _ _
  | _ =>
      rw [failed _ value fun b same => by cases same]
      exact none_compatible _

/-- Schemas that are no objects say the same. -/
theorem flat_accords (argued : Reordered argument argument') (notObject : argument.isObject = false) :
    (partWith meaning location argument).Accords (partWith meaning' location' argument') := by
  rw [partWith_flat _ _ notObject, partWith_flat _ _ (argued.isObject.trans notObject)]
  refine ⟨fun _ _ value value' _ => runFlat_accord argued notObject value value', ?_, Part.flat_keeps _,
    Part.flat_keeps _, argued⟩
  intro _ _ value value' _
  simp only [Part.replyEntered, Part.flat, answer_given]
  exact compatible_toOption fun _ _ _ _ => runFlat_accord argued notObject value value'

theorem items_matched {related : Part → Part → Prop} (argued : Reordered argument argument')
    (each : ∀ item ∈ argument.items, ∀ item' ∈ argument'.items, Reordered item item' →
      related (partWith meaning location item) (partWith meaning' location' item')) :
    List.Forall₂ related (argumentWith meaning location argument).items
      (argumentWith meaning' location' argument').items := by
  cases argued with
  | scalar noArray =>
      cases argument with
      | array => cases noArray
      | _ => exact .nil
  | object => exact .nil
  | @array items items' lengths pairs =>
      have pairs := (Reordered.array lengths pairs).items
      simp only [argumentWith, itemsOf, partsWith_eq_map]
      rw [List.forall₂_map_left_iff, List.forall₂_map_right_iff, List.forall₂_iff_get]
      refine ⟨lengths, fun i inside inside' => ?_⟩
      exact each _ (List.get_mem ..) _ (List.get_mem ..) ((List.forall₂_iff_get.mp pairs).2 i inside inside')

theorem branches_of_array (listed : argument.isArray = true) :
    (argumentWith meaning location argument).branches = .ok (argumentWith meaning location argument).items := by
  cases argument with
  | array => simp only [Parts.branches, argumentWith_self, partWith_schema]
  | _ => cases listed

theorem atIndices_matched {r : Part → Part → Prop} {parts parts' : List Part} (related : List.Forall₂ r parts parts')
    (start : Nat) : Matched (fun entry entry' => entry'.1 = entry.1 ∧ r entry.2 entry'.2) (atIndices start parts)
      (atIndices start parts') := by
  refine .of_forall₂ ?_
  induction related generalizing start with
  | nil => exact .nil
  | cons first _ ih => exact .cons ⟨rfl, first⟩ (ih (start + 1))

theorem itemParts_matched (argued : Reordered argument argument')
    (each : ∀ schema ∈ heldBy "items" argument, ∀ schema' ∈ heldBy "items" argument', Reordered schema schema' →
      (partWith meaning location schema).Accords (partWith meaning' location' schema')) (count : Nat) :
    Matched (fun entry entry' => entry'.1 = entry.1 ∧ entry.2.Accords entry'.2)
      (itemParts (argumentWith meaning location argument) count)
      (itemParts (argumentWith meaning' location' argument') count) := by
  unfold itemParts
  simp only [argumentWith_self, partWith_schema, argued.isArray]
  have single : argument.isArray = false → (partWith meaning location argument).Accords
      (partWith meaning' location' argument') := by
    intro noArray
    exact each _ (by simp [heldBy, noArray]) _ (by simp [heldBy, argued.isArray, noArray]) argued
  split
  · next listed =>
      refine atIndices_matched (List.forall₂_take _ (items_matched argued fun item present item' present' => ?_)) 0
      refine each _ ?_ _ ?_
      · rwa [heldBy, if_pos listed]
      · rwa [heldBy, if_pos (argued.isArray.trans listed)]
  · next noArray =>
      refine atIndices_matched ?_ 0
      induction count with
      | zero => exact .nil
      | succ count ih => exact .cons (single (by simpa using noArray)) ih

end

section

variable {meaning meaning' : Meaning} {location location' : String} {fields others : List (Key × Json)}
  {extent extent' : Extent} {value value' : Json}

/-- A keyword says the same about values that are alike in what it looks at, whatever order the keys of its schema
object have, if this holds of the schemas that the keywords of the object hold. -/
theorem evaluate_accord (kept : meaning.Keeps) (kept' : meaning'.Keeps)
    (node : Reordered (.object fields) (.object others)) (passes : Metaschema.Passes (.object fields))
    (joins : JoinsWhereNeeded fields) (joins' : JoinsWhereNeeded others)
    (held : ∀ keyword argument argument', Fields.get? fields (.text keyword) = some argument →
      Fields.get? others (.text keyword) = some argument' → ∀ schema ∈ heldBy keyword argument,
        ∀ schema' ∈ heldBy keyword argument', Reordered schema schema' →
          (partWith meaning location schema).Accords (partWith meaning' location' schema'))
    {keyword : String} {argument argument' : Json} (found : Fields.get? fields (.text keyword) = some argument)
    (found' : Fields.get? others (.text keyword) = some argument') (argued : Reordered argument argument')
    (formed : value.wellFormed = true) (formed' : value'.wellFormed = true) (shape : SameShape value value')
    (names : keyword ∈ "required" :: namingKeywords → (namesOf value).Perm (namesOf value'))
    (whole : keyword ∈ childKeywords ∨ Surveys keyword argument → Reordered value value') :
    Compatible
      (evaluate (nodeWith meaning location fields) keyword (argumentWith meaning location argument) .plain extent
        value).answer
      (evaluate (nodeWith meaning' location' others) keyword
        (argumentWith meaning' location' argument') .plain extent'
        value').answer := by
  have each := held keyword argument argument' found found'
  have keep := argumentWith_keep kept argument location
  have keep' := argumentWith_keep kept' argument' location'
  have passes' := names_of_passes node.formed passes
  have suits := passes.suits found
  have schemas : Reordered (argumentWith meaning location argument).self.schema
      (argumentWith meaning' location' argument').self.schema := by
    rwa [argumentWith_self, argumentWith_self, partWith_schema, partWith_schema]
  have lone : heldBy keyword argument = [argument] → heldBy keyword argument' = [argument'] →
      (partWith meaning location argument).Accords (partWith meaning' location' argument') := fun one one' =>
    each _ (one ▸ List.mem_singleton_self _) _ (one' ▸ List.mem_singleton_self _) argued
  have branches : heldBy keyword argument = argument.items → heldBy keyword argument' = argument'.items →
      ∀ (rule rule' : List Part → Outcome) (whole : Reordered value value'), Metaschema.IsSchemas argument →
      (∀ branches branches', List.Forall₂ Part.Accords branches branches' →
        Compatible (rule branches).answer (rule' branches').answer) →
      Compatible (given (argumentWith meaning location argument).branches value rule).answer
        (given (argumentWith meaning' location' argument').branches value' rule').answer := by
    intro items items' rule rule' whole listed accord
    obtain ⟨schemas, isArray, -⟩ := listed
    have isArray : argument.isArray = true := by rw [isArray]; rfl
    rw [branches_of_array isArray, branches_of_array (argued.isArray.trans isArray)]
    refine accord _ _ (items_matched argued fun item present item' present' => ?_)
    exact each _ (items ▸ present) _ (items' ▸ present')
  unfold evaluate
  split
  · exact none_compatible _
  · refine properties_accord (whole (.inl (by decide))) keep keep' (named_matched argued ?_)
    intro member present member' present'
    exact each _ (List.mem_map_of_mem present) _ (List.mem_map_of_mem present')
  · exact required_accord schemas shape fun _ _ _ _ key _ => Json.has_of_namesOf shape (names (by decide)) key
  · refine patternProperties_accord (whole (.inl (by decide))) keep keep' (named_matched argued ?_)
    intro member present member' present'
    exact each _ (List.mem_map_of_mem present) _ (List.mem_map_of_mem present')
  · refine additionalProperties_accord (whole (.inl (by decide))) node passes' (joins ?_) (joins' ?_) (lone rfl rfl)
    · rw [Fields.has, found]
      rfl
    · rw [Fields.has, found']
      rfl
  · exact propertyNames_accord (lone rfl rfl) (names (by decide))
  · refine dependencies_accord keep.members keep'.members shape
      (Json.has_of_namesOf shape (names (by decide))) (named_matched argued ?_)
    intro member present member' present' related
    rw [partWith_schema]
    cases listed : member.2.isArray with
    | true =>
        refine ⟨flat_accords related ?_, fun noArray => by cases noArray⟩
        cases same : member.2 <;> simp_all [Json.isArray, Json.isObject]
    | false =>
        have present : member.2 ∈ heldBy "dependencies" argument :=
          List.mem_filter.mpr ⟨List.mem_map_of_mem present, by rw [listed]; rfl⟩
        have present' : member'.2 ∈ heldBy "dependencies" argument' :=
          List.mem_filter.mpr ⟨List.mem_map_of_mem present', by rw [related.isArray, listed]; rfl⟩
        exact ⟨each _ present _ present' related, fun _ => whole (.inr (.inr ⟨rfl, List.ne_nil_of_mem present⟩))⟩
  · have reordered := whole (.inl (by decide))
    have count : itemCount value' = itemCount value := by
      cases reordered with
      | scalar => rfl
      | array lengths => exact lengths.symm
      | object => rfl
    refine items_accord reordered keep keep' ?_
    rw [count]
    exact itemParts_matched argued each _
  · rcases node.get? (.text "items") with ⟨missing, missing'⟩ | ⟨items, items', there, there', related⟩
    · have accepted : ∀ (node : Node) (part : Part) extent value, node.argument? "items" = none →
          additionalItems node part .plain extent value = accept value := by
        intro node part extent value absent
        unfold additionalItems
        rw [absent]
        cases value <;> rfl
      rw [accepted _ _ _ _ (by rw [argument?_nodeWith, missing]; rfl),
        accepted _ _ _ _ (by rw [argument?_nodeWith, missing']; rfl)]
      exact compatible_refl _
    · refine additionalItems_accord (whole (.inl (by decide))) (by rw [argument?_nodeWith, there]; rfl)
        (by rw [argument?_nodeWith, there']; rfl) ?_ (lone rfl rfl)
      rwa [argumentWith_self, argumentWith_self, partWith_schema, partWith_schema]
  · exact contains_accord (whole (.inr (.inl (by decide)))) (lone rfl rfl)
  · exact branches rfl rfl _ _ (whole (.inr (.inl (by decide)))) suits fun _ _ accord =>
      allOf_accord (whole (.inr (.inl (by decide)))) accord
  · exact branches rfl rfl _ _ (whole (.inr (.inl (by decide)))) suits fun _ _ accord =>
      anyOf_accord (whole (.inr (.inl (by decide)))) accord
  · exact branches rfl rfl _ _ (whole (.inr (.inl (by decide)))) suits fun _ _ accord =>
      oneOf_accord (whole (.inr (.inl (by decide)))) accord
  · exact negation_accord (whole (.inr (.inl (by decide)))) (lone rfl rfl)
  · refine conditional_accord (whole (.inr (.inl (by decide)))) (lone rfl rfl) fun keyword branch => ?_
    rw [argument?_nodeWith, argument?_nodeWith]
    rcases node.get? (.text keyword) with ⟨missing, missing'⟩ | ⟨chosen, chosen', there, there', related⟩
    · exact .inl ⟨by rw [missing]; rfl, by rw [missing']; rfl⟩
    · refine .inr ⟨_, _, by rw [there]; rfl, by rw [there']; rfl, ?_⟩
      simp only [List.mem_cons, List.not_mem_nil, or_false] at branch
      rcases branch with rfl | rfl <;>
        exact held _ _ _ there there' _ (List.mem_singleton_self _) _ (List.mem_singleton_self _) related
  · exact Keyword.check_accord _ schemas shape (fun listed => names (List.mem_cons_of_mem _ listed)) fun listed =>
      whole (.inr (.inl listed))

end

end Structure

namespace Schema

theorem Throughout.holds {holds : List (Key × Json) → Prop} {fields : List (Key × Json)}
    (throughout : Throughout holds (.object fields)) : holds fields := by
  cases throughout with
  | flat notObject => cases notObject
  | object here _ => exact here

theorem Throughout.held {holds : List (Key × Json) → Prop} {fields : List (Key × Json)} {keyword : String}
    {argument schema : Json} (throughout : Throughout holds (.object fields))
    (found : Fields.get? fields (.text keyword) = some argument) (held : schema ∈ heldBy keyword argument) :
    Throughout holds schema := by
  cases throughout with
  | flat notObject => cases notObject
  | object _ below => exact below keyword argument (Fields.mem_of_get? found) schema held

/-- Where there are no patterns, none are joined. -/
theorem joins_of_count {schema : Json} (absent : Reference.count "patternProperties" schema = 0) :
    Throughout JoinsWhereNeeded schema := by
  induction schema using Json.schemaInduction with
  | flat schema notObject => exact .flat notObject
  | object fields ih =>
      refine .object (fun _ => joins_of_missing (Reference.get?_of_count absent)) fun keyword argument present
        schema held => ?_
      have inside := Reference.count_heldBy ((Reference.count_eq_zero absent).2 _ present).2 held
      obtain ⟨self, items, members⟩ := ih _ present
      rcases heldBy_cases held with rfl | item | ⟨member, listed, rfl⟩
      · exact self inside
      · exact items schema item inside
      · exact members member listed inside

end Schema

namespace Evaluation

open Schema

theorem keywordsOf_matched {fields others : List (Key × Json)} (node : Reordered (.object fields) (.object others)) :
    Matched (fun entry entry' => entry'.1 = entry.1 ∧ Fields.get? fields (.text entry.1) = some entry.2 ∧
      Fields.get? others (.text entry.1) = some entry'.2 ∧ Reordered entry.2 entry'.2)
      (keywordsOf fields) (keywordsOf others) := by
  have distinct := ((Json.wellFormed_object fields).mp node.formed).2.1
  have distinct' := ((Json.wellFormed_object others).mp node.formed').2.1
  constructor
  · rintro ⟨keyword, argument⟩ listed
    have present := mem_keywordsOf.mp listed
    obtain ⟨⟨_, argument'⟩, present', rfl, related⟩ := node.members.there _ present
    exact ⟨(keyword, argument'), mem_keywordsOf.mpr present', rfl, Fields.get?_of_mem distinct present,
      Fields.get?_of_mem distinct' present', related⟩
  · rintro ⟨keyword, argument'⟩ listed
    have present' := mem_keywordsOf.mp listed
    obtain ⟨⟨_, argument⟩, present, rfl, related⟩ := node.members.back _ present'
    exact ⟨(keyword, argument), mem_keywordsOf.mpr present, rfl, Fields.get?_of_mem distinct present,
      Fields.get?_of_mem distinct' present', related⟩

end Evaluation

namespace Schema

/-- Two schemas without references that pass the metaschema and differ in the order of keys only, in which patterns
are joined faithfully. -/
structure Rearranged (schema schema' : Json) : Prop where
  reordered : Reordered schema schema'
  passes : Metaschema.Passes schema
  passes' : Metaschema.Passes schema'
  closed : Reference.count "$ref" schema = 0
  closed' : Reference.count "$ref" schema' = 0
  joins : Throughout JoinsWhereNeeded schema
  joins' : Throughout JoinsWhereNeeded schema'

namespace Rearranged

variable {schema schema' : Json} {fields others : List (Key × Json)}

theorem symm (rearranged : Rearranged schema schema') : Rearranged schema' schema :=
  ⟨rearranged.reordered.symm, rearranged.passes', rearranged.passes, rearranged.closed', rearranged.closed,
    rearranged.joins', rearranged.joins⟩

theorem object (rearranged : Rearranged (.object fields) schema') : ∃ others, schema' = .object others := by
  have isObject := rearranged.reordered.isObject
  cases schema' with
  | object others => exact ⟨others, rfl⟩
  | _ => cases isObject

theorem held (rearranged : Rearranged (.object fields) (.object others)) {keyword : String}
    {argument argument' : Json}
    (found : Fields.get? fields (.text keyword) = some argument)
    (found' : Fields.get? others (.text keyword) = some argument') (listed : schema ∈ heldBy keyword argument)
    (listed' : schema' ∈ heldBy keyword argument') (related : Reordered schema schema') :
    Rearranged schema schema' where
  reordered := related
  passes := rearranged.passes.held found listed
  passes' := rearranged.passes'.held found' listed'
  closed := Reference.count_heldBy ((Reference.count_eq_zero rearranged.closed).2 _ (Fields.mem_of_get? found)).2
    listed
  closed' :=
    Reference.count_heldBy ((Reference.count_eq_zero rearranged.closed').2 _ (Fields.mem_of_get? found')).2 listed'
  joins := rearranged.joins.held found listed
  joins' := rearranged.joins'.held found' listed'

end Rearranged

end Schema

namespace Evaluation

open Schema

theorem noReference_keeps : noReference.Keeps :=
  fun _ _ _ _ => rfl

theorem has_of_closed {fields : List (Key × Json)} (closed : Reference.count "$ref" (.object fields) = 0) :
    Fields.has fields "$ref" = false := by
  rw [Fields.has, Reference.get?_of_count closed]
  rfl

/-- What two schemas that differ in the order of keys only say without normalization does not differ, as far as both
say anything. -/
theorem accords_of_rearranged {schema : Json} :
    ∀ {schema'}, Rearranged schema schema' → (alone schema).Accords (alone schema') := by
  induction schema using Json.schemaInduction with
  | flat schema notObject => exact fun rearranged => Structure.flat_accords rearranged.reordered notObject
  | object fields ih =>
      intro schema' rearranged
      obtain ⟨others, rfl⟩ := rearranged.object
      have related := rearranged.reordered
      have held : ∀ keyword argument argument', Fields.get? fields (.text keyword) = some argument →
          Fields.get? others (.text keyword) = some argument' → ∀ schema ∈ heldBy keyword argument,
            ∀ schema' ∈ heldBy keyword argument', Reordered schema schema' →
              (alone schema).Accords (alone schema') := by
        intro keyword argument argument' found found' schema listed schema' listed' related
        have inner := rearranged.held found found' listed listed' related
        obtain ⟨self, items, members⟩ := ih _ (Fields.mem_of_get? found)
        rcases heldBy_cases listed with rfl | item | ⟨member, present, rfl⟩
        · exact self inner
        · exact items schema item inner
        · exact members member present inner
      have runs : ∀ extent extent' value value', Reordered value value' →
          Compatible ((alone (.object fields)).reply extent value)
            ((alone (.object others)).reply extent' value') := by
        intro extent extent' value value' reordered
        simp only [Part.reply, alone, partWith_object, runNode, answer_given]
        refine compatible_toOption fun options options' inForce inForce' => ?_
        rw [optionsIn_plain inForce, optionsIn_plain inForce',
          answer_evaluateNode noReference_keeps _ (has_of_closed rearranged.closed),
          answer_evaluateNode noReference_keeps _ (has_of_closed rearranged.closed')]
        refine compatible_inTurn ((keywordsOf_matched related).map ?_) _ _
        rintro ⟨keyword, argument⟩ - ⟨_, argument'⟩ - ⟨rfl, found, found', argued⟩
        exact Structure.evaluate_accord noReference_keeps noReference_keeps related rearranged.passes
          rearranged.joins.holds rearranged.joins'.holds held found found' argued reordered.formed reordered.formed'
          reordered.sameShape (fun _ => reordered.namesOf) fun _ => reordered
      refine ⟨runs, fun extent extent' value value' reordered => ?_, alone_keeps _, alone_keeps _, ?_⟩
      · simp only [Part.replyEntered, alone_enter rearranged.closed, alone_enter rearranged.closed', answer_given]
        exact compatible_toOption fun _ _ _ _ => runs extent extent' value value' reordered
      · simpa only [alone, partWith_schema] using related

end Evaluation

end SchemaAlgebra
