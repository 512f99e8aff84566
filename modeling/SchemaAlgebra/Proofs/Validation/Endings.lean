import SchemaAlgebra.Proofs.Schema.Arguments
import SchemaAlgebra.Proofs.Validation.Ordinary
import SchemaAlgebra.Proofs.Validation.Separation
import SchemaAlgebra.Proofs.Validation.Verdict

/-!
How validations with simple schemas end. A simple schema uses types, the layers of objects and arrays, lengths, and
annotations. Nothing in its evaluation asks for what the metaschema does not grant, so a single fault is left: a whole
number too long to be written, which the value has brought along or a default that was filled in. Without such a number
a validation ends with a result or with violations; and every such number makes some validation fail.
-/

namespace SchemaAlgebra

open Outcome Schema Evaluation
open Json (Ordinary)

namespace Schema

/-- The keywords of simple schemas that are no annotations. -/
def simpleKeywords : List String :=
  ["type", "properties", "required", "items", "additionalProperties", "minLength", "maxLength", "minItems", "maxItems"]

/-- Whether a keyword may stand in a simple schema: evaluation knows it as a simple one or not at all. -/
def IsSimple (keyword : String) : Prop :=
  keyword ∈ simpleKeywords ∨ keyword = "$schema" ∨ keyword ∉ evaluatedKeywords

/-- The defaults that evaluating a schema can fill in: those of declared properties. -/
inductive Offers : Json → Json → Prop
  | here {fields members : List (Key × Json)} {name : Key} {schema default : Json} :
      Fields.get? fields "properties" = some (.object members) → (name, schema) ∈ members →
        schema.default? = some default → Offers (.object fields) default
  | deeper {fields : List (Key × Json)} {keyword : String} {argument schema default : Json} :
      Fields.get? fields (.text keyword) = some argument → schema ∈ heldBy keyword argument →
        Offers schema default → Offers (.object fields) default

end Schema

namespace Metaschema.Passes

variable {fields : List (Key × Json)} {argument : Json}

theorem text (passes : Passes (.object fields)) {keyword : String} (ruled : (keyword, .text) ∈ rules)
    (found : Fields.get? fields (.text keyword) = some argument) : ∃ text, argument = .string text := by
  obtain ⟨depth, kept⟩ := passes.keeps .text ruled found
  cases argument with
  | string text => exact ⟨text, rfl⟩
  | _ => simp [finding, flatFinding, unlessHolds, Json.isString, complain, fine] at kept

theorem count (passes : Passes (.object fields)) {keyword : String} (ruled : (keyword, .count) ∈ rules)
    (found : Fields.get? fields (.text keyword) = some argument) : ∃ bound, argument.plainNumber? = some bound := by
  obtain ⟨depth, kept⟩ := passes.keeps .count ruled found
  cases argument with
  | int n => exact ⟨_, rfl⟩
  | double d => exact ⟨_, rfl⟩
  | _ => simp [finding, flatFinding, complain, fine] at kept

theorem types (passes : Passes (.object fields)) (found : Fields.get? fields "type" = some argument) :
    ∃ names, Coercion.Declares argument names ∧ ∀ name ∈ names, name ∈ typeNames := by
  obtain ⟨depth, kept⟩ := passes.keeps .types (by decide) found
  cases argument with
  | string name =>
      refine ⟨[name], .one name, ?_⟩
      simpa [finding, flatFinding, unlessHolds, isTypeName, complain, fine] using kept
  | array items =>
      have named : ∀ item ∈ items, isTypeName item = true := by
        simp only [finding, flatFinding, unlessHolds, fine, complain] at kept
        split at kept
        · next holds =>
            simp only [Bool.and_eq_true, List.all_eq_true] at holds
            exact holds.1.2
        · cases kept
      clear kept found
      induction items with
      | nil => exact ⟨[], .list [], by simp⟩
      | cons item rest ih =>
          obtain ⟨here, later⟩ := List.forall_mem_cons.mp named
          obtain ⟨names, declares, known⟩ := ih later
          cases declares with
          | list =>
            cases item with
            | string name =>
                refine ⟨name :: names, .list (name :: names), List.forall_mem_cons.mpr ⟨?_, known⟩⟩
                exact of_decide_eq_true here
            | _ => cases here
  | _ => simp [finding, flatFinding, unlessHolds, isTypeName, complain, fine] at kept

end Metaschema.Passes

variable {short : Prop} {options : Options} {extent : Extent} {value : Json}

/-- What an evaluation leaves is ordinary, and it can end in no other fault than in a number that is too long. -/
structure Outcome.Tame (short : Prop) (outcome : Outcome) : Prop where
  left : Ordinary short outcome.value
  ends : ∀ fault, outcome.fault = some fault → fault = .tooManyDigits ∧ ¬short

namespace Outcome.Tame

theorem accept (ordinary : Ordinary short value) : (accept value).Tame short :=
  ⟨ordinary, by simp⟩

/-- A violation can be told if what it shows can be shown. -/
theorem reject (ordinary : Ordinary short value) {shown : List Json}
    (each : short → ∀ item ∈ shown, item.isShowable = true) (keyword message : String) :
    (reject value keyword shown message).Tame short := by
  refine ⟨by simpa using ordinary, fun fault found => ?_⟩
  unfold Outcome.reject at found
  split at found
  · cases found
  · next hidden =>
      exact ⟨(Option.some.inj found).symm, fun holds => hidden (List.all_eq_true.mpr (each holds))⟩

/-- A value can be shown in a violation of its own if it can be shown at all. -/
theorem reject_self (ordinary : Ordinary short value) (keyword message : String) :
    (Outcome.reject value keyword [value] message).Tame short := by
  refine .reject ordinary (fun holds item only => ?_) keyword message
  rw [List.mem_singleton.mp only]
  exact ordinary.shown holds

theorem andThen {outcome : Outcome} {next : Json → Outcome} (tame : outcome.Tame short)
    (later : ∀ value, Ordinary short value → (next value).Tame short) : (outcome.andThen extent next).Tame short := by
  unfold Outcome.andThen
  split
  · exact tame
  · exact ⟨(later _ tame.left).left, (later _ tame.left).ends⟩

theorem chain {steps : List (Json → Outcome)}
    (each : ∀ step ∈ steps, ∀ value, Ordinary short value → (step value).Tame short) (ordinary : Ordinary short value) :
    (chain extent steps value).Tame short := by
  induction steps generalizing value with
  | nil => exact .accept ordinary
  | cons step rest ih =>
      rw [chain_cons]
      exact (each step (by simp) value ordinary).andThen fun value ordinary =>
        ih (fun other listed => each other (by simp [listed])) ordinary

end Outcome.Tame

/-- A part whose evaluations are tame, and which makes ordinary values of scalars. -/
structure Part.Tame (short : Prop) (options : Options) (part : Part) : Prop where
  enter : ∀ extent value, Ordinary short value → (part.enter options extent value).Tame short
  made : ∀ value converted, Ordinary short value → part.coerce options value = .ok (some converted) →
    Ordinary short converted
  fails : ∀ value fault, Ordinary short value → part.coerce options value = .error fault →
    fault = .tooManyDigits ∧ ¬short

namespace Part.Tame

variable {part : Part}

theorem descend (tame : part.Tame short options) (step : Step) (ordinary : Ordinary short value) :
    (part.descend options extent step value).Tame short := by
  unfold Part.descend
  split
  · next child found =>
      have inner := tame.enter extent child (ordinary.child found)
      exact ⟨ordinary.setChild found inner.left, inner.ends⟩
  · exact .accept ordinary

theorem coerceAt (tame : part.Tame short options) (step : Step) (ordinary : Ordinary short value) :
    (part.coerceAt options step value).Tame short := by
  unfold Part.coerceAt
  split
  · next child found =>
      cases coerced : part.coerce options child with
      | error fault =>
          refine ⟨ordinary, fun fault' same => ?_⟩
          obtain rfl := Option.some.inj same
          exact tame.fails child fault (ordinary.child found) coerced
      | ok converted =>
          cases converted with
          | none => exact .accept ordinary
          | some converted =>
              exact .accept (ordinary.setChild found (tame.made child converted (ordinary.child found) coerced))
  · exact .accept ordinary

/-- Converting and evaluating children is tame if their parts are. -/
theorem editing {entries : List (Step × Part)} (tame : ∀ entry ∈ entries, entry.2.Tame short options)
    (ordinary : Ordinary short value) : (chain extent (editing options extent entries) value).Tame short := by
  refine .chain (fun step listed value ordinary => ?_) ordinary
  rcases List.mem_append.mp listed with coercion | descent
  · split at coercion
    · obtain ⟨entry, among, rfl⟩ := List.mem_map.mp coercion
      exact (tame entry among).coerceAt entry.1 ordinary
    · cases coercion
  · obtain ⟨entry, among, rfl⟩ := List.mem_map.mp descent
    exact (tame entry among).descend entry.1 ordinary

end Part.Tame

namespace Keyword

variable {argument : Json}

theorem checkType_tame (ordinary : Ordinary short value) {names : List String}
    (declares : Coercion.Declares argument names) (known : ∀ name ∈ names, name ∈ Metaschema.typeNames) :
    (checkType argument value).Tame short := by
  have listed : typesOf argument = some (names.map .string) := by cases declares <;> rfl
  rw [checkType_of_typesOf listed]
  rcases Coercion.hasOneOf_known .byValue value known with ⟨found, -⟩ | ⟨missed, -⟩
  · rw [found]
    exact .accept ordinary
  · rw [missed]
    exact .reject_self ordinary _ _

theorem checkSize_tame (ordinary : Ordinary short value) {bound : Number} (found : argument.plainNumber? = some bound)
    (keyword : String) (size : Nat) (refused : Number → Number → Bool) (special : Int)
    (specialVerdict verdict : String) :
    (checkSize keyword size refused special specialVerdict verdict argument value).Tame short := by
  unfold checkSize
  simp only [found]
  split
  · exact .reject_self ordinary _ _
  · exact .accept ordinary

theorem checkLength_tame (ordinary : Ordinary short value) {bound : Number} (found : argument.plainNumber? = some bound)
    {keyword : String} (listed : keyword ∈ ["minLength", "maxLength", "minItems", "maxItems"]) :
    (check keyword argument value).Tame short := by
  simp only [List.mem_cons, List.not_mem_nil, or_false] at listed
  rcases listed with rfl | rfl | rfl | rfl
  all_goals
    simp only [check]
    split
    · exact checkSize_tame ordinary found _ _ _ _ _ _
    · exact .accept ordinary

end Keyword

namespace Structure

variable {meaning : Meaning} {location : String} {fields : List (Key × Json)} {argument : Json}

theorem fillDefaults_tame (filled : options.useDefaults = true → ∀ member ∈ declared fields, ∀ default,
      member.2.default? = some default → Ordinary short default)
    (shaped : Shaped fields) (ordinary : Ordinary short value) :
    Ordinary short (if options.useDefaults then
      fillDefaults (memberPartsWith meaning location (declared fields)) value else value) := by
  split
  · next fill =>
      obtain ⟨textual, -, -⟩ := (Json.wellFormed_object _).mp shaped.declared_formed
      rw [memberPartsWith_eq_map]
      refine ordinary.fillDefaults ?_ ?_
      · intro member listed
        obtain ⟨entry, among, rfl⟩ := List.mem_map.mp listed
        exact textual entry among
      · intro member listed default found
        obtain ⟨entry, among, rfl⟩ := List.mem_map.mp listed
        exact filled fill entry among default (by simpa using found)
  · exact ordinary

theorem required_tame (filled : options.useDefaults = true → ∀ member ∈ declared fields, ∀ default,
      member.2.default? = some default → Ordinary short default)
    (shaped : Shaped fields) (ordinary : Ordinary short value) (names : List String) :
    (required (nodeWith meaning location fields) (.array (names.map .string)) options extent value).Tame short := by
  unfold required
  split
  · rw [declared_nodeWith]
    refine .chain ?_ (fillDefaults_tame filled shaped ordinary)
    intro step listed value ordinary
    obtain ⟨item, among, rfl⟩ := List.mem_map.mp listed
    obtain ⟨name, -, rfl⟩ := List.mem_map.mp among
    simp only [isThere, Json.key?, given]
    split
    · exact .accept ordinary
    · exact .reject ordinary (fun _ item only => List.mem_singleton.mp only ▸ rfl) _ _
  · exact .accept ordinary

theorem properties_tame (filled : options.useDefaults = true → ∀ member ∈ declared fields, ∀ default,
      member.2.default? = some default → Ordinary short default)
    (shaped : Shaped fields) (found : Fields.get? fields "properties" = some argument)
    (tame : ∀ member ∈ declared fields, (partWith meaning location member.2).Tame short options)
    (ordinary : Ordinary short value) :
    (properties (argumentWith meaning location argument) options extent value).Tame short := by
  obtain rfl := shaped.declared_of_get? found
  cases isObject : value.isObject with
  | false =>
      rw [properties, if_neg (by simp [isObject])]
      exact .accept ordinary
  | true =>
      rw [properties_eq _ isObject]
      refine Part.Tame.editing ?_ (fillDefaults_tame filled shaped ordinary)
      intro entry listed
      obtain ⟨member, among, rfl⟩ := List.mem_map.mp listed
      exact tame member among

theorem items_tame (tame : ∀ schema ∈ heldBy "items" argument, (partWith meaning location schema).Tame short options)
    (ordinary : Ordinary short value) :
    (items (argumentWith meaning location argument) options extent value).Tame short := by
  have steps : items (argumentWith meaning location argument) options extent value =
      chain extent (editing options extent ((itemParts (argumentWith meaning location argument)
        (itemCount value)).map fun entry => (.index entry.1, entry.2))) value := by
    simp only [items, editing, List.map_map]
    rfl
  rw [steps]
  refine Part.Tame.editing ?_ ordinary
  intro entry listed
  obtain ⟨pair, among, rfl⟩ := List.mem_map.mp listed
  simp only [heldBy] at tame
  unfold itemParts at among
  rw [argumentWith_self, partWith_schema] at among
  split at among
  · next isArray =>
      rw [if_pos isArray] at tame
      obtain ⟨schema, present, same⟩ := mem_argumentWith_items _ _ (List.mem_of_mem_take (mem_atIndices among))
      exact same ▸ tame schema present
  · next single =>
      rw [if_neg single] at tame
      rw [List.eq_of_mem_replicate (mem_atIndices among)]
      exact tame argument (List.mem_singleton_self _)

theorem additionalProperties_tame (shaped : Shaped fields)
    (isSchema : argument.isObject = true ∨ ∃ b, argument = .bool b)
    (tame : (partWith meaning location argument).Tame short options) (ordinary : Ordinary short value) :
    (additionalProperties (nodeWith meaning location fields) (partWith meaning location argument) options extent
      value).Tame short := by
  cases isObject : value.isObject with
  | false =>
      rw [additionalProperties, if_neg (by simp [isObject])]
      exact .accept ordinary
  | true =>
      rcases isSchema with isSchema | ⟨_ | _, rfl⟩
      · rw [additionalProperties_object shaped isSchema ordinary.formed isObject]
        refine Part.Tame.editing ?_ ordinary
        intro entry listed
        obtain ⟨step, -, rfl⟩ := List.mem_map.mp listed
        exact tame
      · have names : undeclaredNames (nodeWith meaning location fields) value = .ok (undeclared fields value) :=
          undeclaredNames_eq shaped fun _ => Json.namesOf_text ordinary.formed
        have texts : ∀ name ∈ undeclared fields value, ∃ text, name = .text text := fun name listed =>
          Json.namesOf_text ordinary.formed (List.mem_filter.mp listed).1
        have noObject : ¬(Json.bool false).isObject = true := by decide
        rw [additionalProperties, if_pos isObject, names]
        simp only [given, partWith_schema]
        rw [if_neg noObject]
        split
        · exact .accept (ordinary.removeNames _)
        · split
          · exact .accept ordinary
          · obtain ⟨message, worded⟩ := undeclaredMessage_ok names texts
            rw [worded]
            refine .reject ordinary (fun _ item listed => ?_) _ _
            obtain ⟨name, among, rfl⟩ := List.mem_map.mp listed
            obtain ⟨text, rfl⟩ := texts name among
            rfl
      · rw [additionalProperties_true shaped ordinary.formed]
        exact .accept ordinary

end Structure

namespace Evaluation

variable {meaning : Meaning} {location : String} {fields : List (Key × Json)} {argument schema : Json}

theorem get?_of_simple (simple : ∀ keyword argument, (Key.text keyword, argument) ∈ fields → IsSimple keyword)
    {keyword : String} (other : keyword ∉ simpleKeywords ∧ keyword ≠ "$schema")
    (evaluated : keyword ∈ evaluatedKeywords) :
    Fields.get? fields (.text keyword) = none := by
  cases found : Fields.get? fields (.text keyword) with
  | none => rfl
  | some argument =>
      rcases simple keyword argument (Fields.mem_of_get? found) with listed | same | silent
      · exact absurd listed other.1
      · exact absurd same other.2
      · exact absurd evaluated silent

theorem shaped_of_simple (simple : ∀ keyword argument, (Key.text keyword, argument) ∈ fields → IsSimple keyword)
    (formed : (Json.object fields).wellFormed = true) (passes : Metaschema.Passes (.object fields)) :
    Shaped fields where
  formed := formed
  properties _ found := (passes.properties found).1
  required _ found := passes.required found
  noPatterns := get?_of_simple simple (by decide) (by decide)

/-- A keyword of a simple schema is tame if the schemas that it looks at are. -/
theorem evaluate_tame (simple : ∀ keyword argument, (Key.text keyword, argument) ∈ fields → IsSimple keyword)
    (formed : (Json.object fields).wellFormed = true) (passes : Metaschema.Passes (.object fields))
    (filled : options.useDefaults = true → ∀ default, Offers (.object fields) default → Ordinary short default)
    (tame : ∀ keyword argument, Fields.get? fields (.text keyword) = some argument →
      ∀ schema ∈ heldBy keyword argument, (partWith meaning location schema).Tame short options)
    {keyword : String} (found : Fields.get? fields (.text keyword) = some argument) (ordinary : Ordinary short value) :
    (Structure.evaluate (nodeWith meaning location fields) keyword (argumentWith meaning location argument) options
      extent value).Tame short := by
  have shaped := shaped_of_simple simple formed passes
  have filled' : options.useDefaults = true → ∀ member ∈ declared fields, ∀ default,
      member.2.default? = some default → Ordinary short default := by
    intro fill member listed default given
    cases declares : Fields.get? fields "properties" with
    | none => simp [declared, declares] at listed
    | some members =>
        rw [shaped.declared_of_get? declares] at declares
        exact filled fill default (.here declares listed given)
  rcases simple keyword argument (Fields.mem_of_get? found) with listed | rfl | silent
  · simp only [simpleKeywords, List.mem_cons, List.not_mem_nil, or_false] at listed
    rcases listed with rfl | rfl | rfl | rfl | rfl | rfl | rfl | rfl | rfl
    · obtain ⟨names, declares, known⟩ := passes.types found
      simp only [Structure.evaluate, Keyword.check, argumentWith_self, partWith_schema]
      exact Keyword.checkType_tame ordinary declares known
    · refine Structure.properties_tame filled' shaped found (fun member listed => ?_) ordinary
      obtain rfl := shaped.declared_of_get? found
      exact tame _ _ found _ (List.mem_map_of_mem listed)
    · obtain ⟨names, rfl⟩ := passes.required found
      exact Structure.required_tame filled' shaped ordinary names
    · exact Structure.items_tame (tame _ _ found) ordinary
    · exact Structure.additionalProperties_tame shaped (passes.additional found).isSchema
        (tame _ _ found argument (List.mem_singleton_self _)) ordinary
    all_goals
      obtain ⟨bound, counted⟩ := passes.count (by decide) found
      simp only [Structure.evaluate, argumentWith_self, partWith_schema]
      exact Keyword.checkLength_tame ordinary counted (by decide)
  · exact .accept ordinary
  · rw [Structure.evaluate_silent silent]
    exact .accept ordinary

/-- The types that a schema declares have known names, if it passes the metaschema. -/
theorem declaredTypes_known (passes : Metaschema.Passes (.object fields)) :
    ∀ name ∈ Coercion.declaredTypes (.object fields), name ∈ Metaschema.typeNames := by
  have looked : (Json.object fields).get? "type" = Fields.get? fields (.text "type") := by simp [Json.get?]
  cases found : Fields.get? fields (.text "type") with
  | none => simp [Coercion.declaredTypes, looked, found]
  | some argument =>
      obtain ⟨names, declares, known⟩ := passes.types found
      have same : Coercion.declaredTypes (.object fields) = names := by
        rw [Coercion.declaredTypes, looked, found]
        cases declares with
        | one name => rfl
        | list => simp [List.filterMap_map]
      rw [same]
      exact known

/-- Without branches there is nothing that a conversion could try but the declared types. -/
theorem coercionBranches_eq_nil
    (absent : ∀ keyword ∈ ["oneOf", "anyOf", "allOf"], Fields.get? fields (.text keyword) = none) :
    coercionBranches (nodeWith meaning location fields) = .ok [] := by
  simp only [List.forall_mem_cons] at absent
  simp [coercionBranches, argument?_nodeWith, absent, List.mapM_cons, bind, Except.bind, pure, Except.pure]

/-- Converting toward a simple schema makes ordinary values, and it fails only for numbers that are too long. -/
theorem coerceNode_tame (simple : ∀ keyword argument, (Key.text keyword, argument) ∈ fields → IsSimple keyword)
    (passes : Metaschema.Passes (.object fields)) (run : Options → Extent → Json → Outcome)
    (ordinary : Ordinary short value) :
    (∀ converted, coerceNode fields (nodeWith meaning location fields) run options value = .ok (some converted) →
        Ordinary short converted) ∧
      ∀ fault, coerceNode fields (nodeWith meaning location fields) run options value = .error fault →
        fault = .tooManyDigits ∧ ¬short := by
  have absent : ∀ keyword ∈ ["oneOf", "anyOf", "allOf"], Fields.get? fields (.text keyword) = none := by
    intro keyword listed
    simp only [List.mem_cons, List.not_mem_nil, or_false] at listed
    rcases listed with rfl | rfl | rfl
    all_goals exact get?_of_simple simple (by decide) (by decide)
  unfold coerceNode
  split
  · simp
  · split
    · simp [coercionBranches_eq_nil absent, bind, Except.bind, pure, Except.pure]
    · refine ⟨fun converted made => Coercion.conversion?_ordinary ordinary.real made, fun fault failed => ?_⟩
      have known := declaredTypes_known passes
      obtain ⟨rfl, -, -, -, n, rfl, long⟩ := (Coercion.conversion?_eq_error known ordinary.real).mp failed
      refine ⟨rfl, fun holds => ?_⟩
      cases (ordinary.shown holds).symm.trans long

/-- The options inside a simple schema are the given ones or none at all. -/
theorem optionsIn_simple (passes : Metaschema.Passes (.object fields)) (options : Options) :
    optionsIn fields options = .ok options ∨ optionsIn fields options = .ok .plain := by
  unfold optionsIn
  split
  · split
    · exact .inr rfl
    · exact .inl rfl
  · next argument notText found =>
      obtain ⟨text, rfl⟩ := passes.text (by decide) found
      exact absurd rfl (notText text)
  · exact .inl rfl

theorem enter_simple (alone : Fields.has fields "$ref" = false) (passes : Metaschema.Passes (.object fields))
    (location : String) : ∃ inner, Reference.enter location (.object fields) = .ok inner := by
  simp only [Reference.enter, alone, Bool.false_eq_true, if_false]
  cases found : Fields.get? fields (.text "$id") with
  | none => exact ⟨_, rfl⟩
  | some argument =>
      obtain ⟨text, rfl⟩ := passes.text (by decide) found
      exact ⟨_, rfl⟩

/-- The keywords of a simple schema are tame together, if the schemas that they look at are. -/
theorem evaluateNode_tame (simple : ∀ keyword argument, (Key.text keyword, argument) ∈ fields → IsSimple keyword)
    (formed : (Json.object fields).wellFormed = true) (passes : Metaschema.Passes (.object fields))
    (filled : options.useDefaults = true → ∀ default, Offers (.object fields) default → Ordinary short default)
    (tame : ∀ keyword argument, (Key.text keyword, argument) ∈ fields → ∀ schema ∈ heldBy keyword argument,
      schema.wellFormed = true → Metaschema.Passes schema →
        (options.useDefaults = true → ∀ default, Offers schema default → Ordinary short default) →
          (partWith meaning location schema).Tame short options)
    (ordinary : Ordinary short value) :
    (evaluateNode meaning location fields (nodeWith meaning location fields) options extent value).Tame short := by
  have alone : Fields.has fields "$ref" = false := by
    rw [Fields.has, get?_of_simple simple (by decide) (by decide)]
    rfl
  rw [evaluateNode_closed meaning location alone]
  refine .chain (fun step listed value ordinary => ?_) ordinary
  obtain ⟨⟨keyword, argument⟩, among, rfl⟩ := List.mem_map.mp listed
  obtain ⟨-, distinct, values⟩ := (Json.wellFormed_object fields).mp formed
  have found := Fields.get?_of_mem distinct (mem_keywordsOf.mp among)
  refine evaluate_tame simple formed passes filled (fun keyword argument found schema held => ?_) found ordinary
  have present := Fields.mem_of_get? found
  exact tame keyword argument present schema held (wellFormed_heldBy (values _ present) held) (passes.held found held)
    fun fill default offers => filled fill default (.deeper found held offers)

/-- A simple schema is tame as a part, if the defaults that it can fill in are ordinary. -/
theorem partWith_tame (within : Within IsSimple schema) (formed : schema.wellFormed = true)
    (passes : Metaschema.Passes schema) (options : Options)
    (filled : options.useDefaults = true → ∀ default, Offers schema default → Ordinary short default)
    (meaning : Meaning) (location : String) : (partWith meaning location schema).Tame short options := by
  induction within generalizing options location with
  | flat notObject =>
      rw [partWith_flat meaning location notObject]
      rcases passes.isSchema with isObject | ⟨b, rfl⟩
      · cases notObject.symm.trans isObject
      · refine ⟨fun extent value ordinary => ?_, fun value converted ordinary made => ?_,
          fun value fault ordinary failed => ?_⟩
        rotate_left
        · cases made
        · cases failed
        cases b with
        | true => exact .accept ordinary
        | false => exact .reject_self ordinary _ _
  | @object fields simple held ih =>
      have alone : Fields.has fields "$ref" = false := by
        rw [Fields.has, get?_of_simple simple (by decide) (by decide)]
        rfl
      refine ⟨fun extent value ordinary => ?_, fun value converted ordinary made => ?_,
        fun value fault ordinary failed => ?_⟩
      · obtain ⟨inner, entered⟩ := enter_simple alone passes location
        simp only [partWith, entered, given, runNode]
        rcases optionsIn_simple passes options with same | plain
        · rw [same]
          exact evaluateNode_tame simple formed passes filled (fun keyword argument present schema held formed passes
            filled => ih keyword argument present schema held formed passes options filled inner) ordinary
        · rw [plain]
          have none : Options.plain.useDefaults = true → ∀ default, Offers (.object fields) default →
              Ordinary short default := fun fill => absurd fill Bool.false_ne_true
          exact evaluateNode_tame simple formed passes none (fun keyword argument present schema held formed passes
            filled => ih keyword argument present schema held formed passes .plain filled inner) ordinary
      · exact (coerceNode_tame simple passes _ ordinary).1 converted made
      · exact (coerceNode_tame simple passes _ ordinary).2 fault failed

end Evaluation

/-- A schema made of simple keywords and annotations, as it comes from a JSON text, that passes the metaschema. -/
structure Schema.Simple (schema : Json) : Prop where
  within : Within IsSimple schema
  formed : schema.wellFormed = true
  real : schema.real = true
  checked : Metaschema.isSchema schema = true

theorem Json.real_heldBy {keyword : String} {argument schema : Json} (real : argument.real = true)
    (held : schema ∈ heldBy keyword argument) : schema.real = true := by
  rcases heldBy_cases held with rfl | item | ⟨member, listed, rfl⟩
  · exact real
  · cases argument with
    | array items => exact (Json.itemsReal_iff items).mp real schema item
    | _ => cases item
  · cases argument with
    | object fields => exact (Json.membersReal_iff fields).mp real member listed
    | _ => cases listed

/-- What a JSON text of a schema offers as a default is such a value in its turn. -/
theorem Schema.Offers.ordinary {schema default : Json} (offers : Offers schema default)
    (formed : schema.wellFormed = true) (real : schema.real = true) :
    default.wellFormed = true ∧ default.real = true := by
  induction offers with
  | @here fields members name schema default found listed given =>
      have formed' := ((Json.wellFormed_object fields).mp formed).2.2 _ (Fields.mem_of_get? found)
      have real' := (Json.membersReal_iff fields).mp real _ (Fields.mem_of_get? found)
      have formed'' := ((Json.wellFormed_object members).mp formed').2.2 _ listed
      have real'' := (Json.membersReal_iff members).mp real' _ listed
      cases schema <;> simp only [Json.default?, Json.get?, reduceCtorEq] at given
      exact ⟨((Json.wellFormed_object _).mp formed'').2.2 _ (Fields.mem_of_get? given),
        (Json.membersReal_iff _).mp real'' _ (Fields.mem_of_get? given)⟩
  | deeper found held _ ih =>
      have present := Fields.mem_of_get? found
      exact ih (wellFormed_heldBy (((Json.wellFormed_object _).mp formed).2.2 _ present) held)
        (Json.real_heldBy ((Json.membersReal_iff _).mp real _ present) held)

namespace Validation

theorem verdictOf_eq_faulty {outcome : Outcome} {fault : Fault} :
    verdictOf outcome = .faulty fault ↔ outcome.fault = some fault := by
  obtain ⟨value, problems, found⟩ := outcome
  cases found <;> cases problems <;> simp [verdictOf]

theorem resultOf_faulty {passed : Json} {outcome : Outcome} {fault : Fault} :
    (resultOf passed outcome).verdict = .faulty fault ↔ outcome.fault = some fault :=
  verdictOf_eq_faulty

variable {schema : Json}

/-- The evaluation of a simple schema at the root of a value is tame. -/
theorem rootOutcome_tame (simple : Simple schema)
    (filled : options.useDefaults = true → ∀ default, Offers schema default → Ordinary short default)
    (ordinary : Ordinary short value) : (rootOutcome options schema value).Tame short := by
  have passes := Metaschema.passes_of_isSchema simple.checked
  rw [rootOutcome]
  cases simple.within with
  | flat notObject =>
      rcases passes.isSchema with isObject | ⟨b, rfl⟩
      · cases notObject.symm.trans isObject
      · simp only [evaluateRoot]
        rw [partIn_flat rfl]
        cases b with
        | true => exact .accept ordinary
        | false => exact .reject_self ordinary _ _
  | object keywords held =>
      exact evaluateNode_tame keywords simple.formed passes filled (fun keyword argument present schema among formed
        passes filled => partWith_tame (held keyword argument present schema among) formed passes options filled _ _)
        ordinary

/-- A validation with a simple schema ends in no other fault than in a number that is too long. -/
theorem validate_tame (simple : Simple schema) (ordinary : Ordinary short value)
    (filled : options.useDefaults = true → ∀ default, Offers schema default → Ordinary short default) {fault : Fault}
    (faulty : (validate options schema value).verdict = .faulty fault) : fault = .tooManyDigits ∧ ¬short := by
  have part : ∀ scope count location, ∃ meaning, partIn scope count location schema =
      partWith meaning location schema := by
    intro scope count location
    cases count <;> exact ⟨_, rfl⟩
  obtain ⟨meaning, same⟩ := part (scopeOf (ownLocation schema) schema)
    ((scopeOf (ownLocation schema) schema).bound value) (ownLocation schema)
  have tame := partWith_tame simple.within simple.formed (Metaschema.passes_of_isSchema simple.checked) options filled
    meaning (ownLocation schema)
  simp only [validate, same] at faulty
  cases coerced : coerceRoot options (partWith meaning (ownLocation schema) schema) value with
  | error fault' =>
      simp only [coerced, Verdict.faulty.injEq] at faulty
      subst faulty
      unfold coerceRoot at coerced
      split at coerced
      · rcases bind_eq_error.mp coerced with failed | ⟨_, -, failed⟩
        · exact tame.fails value _ ordinary failed
        · cases failed
      · cases coerced
  | ok root =>
      simp only [coerced] at faulty
      have ordinary' : Ordinary short root := by
        unfold coerceRoot at coerced
        split at coerced
        · obtain ⟨converted, made, ended⟩ := bind_eq_ok.mp coerced
          cases converted with
          | none => exact Except.ok.inj ended ▸ ordinary
          | some converted => exact Except.ok.inj ended ▸ tame.made value converted ordinary made
        · exact Except.ok.inj coerced ▸ ordinary
      exact (rootOutcome_tame simple filled ordinary').ends fault (resultOf_faulty.mp faulty)

end Validation

end SchemaAlgebra
