import SchemaAlgebra.Proofs.Validation.Checking

/-!
Where no keyword that edits can act, options make no difference: evaluation finds exactly what it finds
without normalization, and leaves the value as it is. This holds of schemas that use none of the editing
keywords on any value, and of all schemas without references on scalars, whose evaluation never meets an
object or an array.
-/

namespace SchemaAlgebra

/-- The keywords that can change a value. -/
def editingKeywords : List String :=
  ["properties", "required", "items", "patternProperties", "additionalProperties"]

/-- A part evaluates values under some options as another one does without normalization, which leaves
them as they are. -/
structure Part.Agrees (values : Json → Prop) (options : Options) (part checking : Part) : Prop where
  schema : part.schema = checking.schema
  run : ∀ value, values value → ∀ extent,
    part.run options extent value = checking.run .plain extent value
  enter : ∀ value, values value → ∀ extent,
    part.enter options extent value = checking.enter .plain extent value
  keeps : checking.Keeps .plain

/-- A set of values that holds, with each value, its parts and the names in it. -/
structure Hereditary (values : Json → Prop) : Prop where
  child : ∀ value step child, values value → value.child? step = some child → values child
  name : ∀ value name, values value → name ∈ namesOf value → values name.toJson

namespace Outcome

theorem andThen_congr {outcome : Outcome} {extent : Extent} {first second : Json → Outcome}
    (same : first outcome.value = second outcome.value) :
    outcome.andThen extent first = outcome.andThen extent second := by
  unfold andThen
  rw [same]

theorem chain_congr {α : Type} {extent : Extent} {items : List α} {first second : α → Json → Outcome}
    {value : Json} (same : ∀ item ∈ items, first item value = second item value)
    (keep : ∀ item ∈ items, (second item value).value = value) :
    chain extent (items.map first) value = chain extent (items.map second) value := by
  induction items with
  | nil => rfl
  | cons item rest ih =>
      rw [List.map_cons, List.map_cons, chain_cons, chain_cons, same item (by simp)]
      apply andThen_congr
      rw [keep item (by simp)]
      exact ih (fun other member => same other (by simp [member]))
        fun other member => keep other (by simp [member])

end Outcome

namespace Evaluation

variable (meaning : Meaning) (location : String)

theorem argumentWith_named (argument : Json) :
    (argumentWith meaning location argument).named =
      if argument.isObject then
        .ok (argument.members.map fun member => (member.1, partWith meaning location member.2))
      else .error .noMembers := by
  cases argument <;>
    simp [Parts.named, argumentWith, Json.isObject, membersOf, memberPartsWith_eq_map, Json.members]

theorem argumentWith_branches (argument : Json) :
    (argumentWith meaning location argument).branches =
      match argument.elements? with
      | some elements => .ok (elements.map (partWith meaning location))
      | none => .error .unusable := by
  have flat : ∀ key : Key, key.toJson.isObject = false := by
    intro key
    cases key <;> rfl
  cases argument with
  | array items => simp [Parts.branches, argumentWith, itemsOf, partsWith_eq_map, Json.elements?]
  | object fields => simp [Parts.branches, argumentWith, Json.elements?, partWith_flat, flat]
  | string text =>
      simp only [Parts.branches, argumentWith, partWith_schema, Json.elements?, List.map_map,
        Except.ok.injEq, List.map_inj_left, Function.comp_apply]
      intro character _
      exact (partWith_flat meaning location rfl).symm
  | _ => simp [Parts.branches, argumentWith, Json.elements?]

end Evaluation

namespace Structure

open Outcome

variable {values : Json → Prop} {options : Options} {extent : Extent} {value : Json}
  {part checking : Part} {schemas : List Json} {first second : Json → Part}

theorem descend_agree (closed : Hereditary values) (agrees : part.Agrees values options checking)
    (held : values value) (step : Step) :
    part.descend options extent step value = checking.descend .plain extent step value := by
  unfold Part.descend
  split
  · next child found =>
      rw [agrees.enter child (closed.child value step child held found)]
      have place : part.place step = checking.place step := by
        funext problem
        simp only [Part.place, agrees.schema]
      rw [place]
  · rfl

theorem probe_agree (agrees : part.Agrees values options checking) (held : values value)
    {decide decide' : Bool → Json → Outcome} (same : ∀ valid, decide valid value = decide' valid value) :
    part.probe options value decide = checking.probe .plain value decide' := by
  simp only [Part.probe, agrees.run value held, (agrees.keeps .first value).1, same]

theorem propertyNames_agree (closed : Hereditary values) (agrees : part.Agrees values options checking)
    (held : values value) :
    propertyNames part options extent value = propertyNames checking .plain extent value := by
  apply chain_congr
  · intro name present
    simp only [agrees.enter _ (closed.name value name held present)]
  · simp

theorem dependency_agree (agrees : part.Agrees values options checking) (held : values value)
    (property : Key) :
    dependency property part options extent value =
      dependency property checking .plain extent value := by
  simp only [dependency, agrees.schema, agrees.enter value held]

theorem atIndices_replicate (start count : Nat) (part : Part) :
    atIndices start (List.replicate count part) =
      (List.range' start count).map fun i => (i, part) := by
  induction count generalizing start with
  | zero => rfl
  | succ count ih => simp [List.replicate_succ, atIndices, List.range'_succ, ih]

theorem additionalItems_agree {node node' : Node} (closed : Hereditary values)
    (agrees : part.Agrees values options checking) (held : values value)
    (items : (node.argument? "items").map (fun parts => parts.self.schema) =
      (node'.argument? "items").map fun parts => parts.self.schema) :
    additionalItems node part options extent value =
      additionalItems node' checking .plain extent value := by
  unfold additionalItems
  cases value with
  | array listed =>
      cases found : node.argument? "items" with
      | none =>
          rw [found] at items
          cases found' : node'.argument? "items" with
          | none => rfl
          | some parts => simp [found'] at items
      | some parts =>
          rw [found] at items
          cases found' : node'.argument? "items" with
          | none => simp [found'] at items
          | some parts' =>
              simp only [found', Option.map_some, Option.some.injEq] at items
              simp only [items, agrees.schema, atIndices_replicate, List.map_map]
              split
              · rfl
              · congr 1
                funext count
                split
                · apply chain_congr
                  · intro i _
                    exact descend_agree closed agrees held _
                  · intro i _
                    exact Part.descend_value agrees.keeps _ _
                · rfl
  | _ => rfl

theorem contains_look_agree (closed : Hereditary values) (agrees : part.Agrees values options checking)
    (held : values value) (indices : List Nat) :
    contains.look part options indices value = contains.look checking .plain indices value := by
  induction indices with
  | nil => rfl
  | cons i rest ih =>
      rw [contains.look, contains.look]
      split
      · exact ih
      · next item found =>
          simp only [agrees.run item (closed.child value _ item held found),
            (agrees.keeps .first item).1, Json.setChild_of_child? found, ih]

theorem contains_agree (closed : Hereditary values) (agrees : part.Agrees values options checking)
    (held : values value) : contains part options value = contains checking .plain value := by
  unfold contains
  rw [contains_look_agree closed agrees held]

theorem allOf_agree (agree : ∀ schema ∈ schemas, (first schema).Agrees values options (second schema))
    (held : values value) :
    allOf (schemas.map first) options extent value = allOf (schemas.map second) .plain extent value := by
  unfold allOf
  rw [List.map_map, List.map_map]
  apply chain_congr
  · intro schema member
    exact (agree schema member).enter value held extent
  · intro schema member
    exact ((agree schema member).keeps extent value).2

/-- Looking for the first valid branch ends in the same way: with the same fault, with none, or with
the same schema and the same schemas after it. -/
theorem firstValid_agree
    (agree : ∀ schema ∈ schemas, (first schema).Agrees values options (second schema))
    (held : values value) :
    (∃ fault, firstValid options (schemas.map first) value = .error (value, fault) ∧
        firstValid .plain (schemas.map second) value = .error (value, fault)) ∨
      (firstValid options (schemas.map first) value = .ok (value, none) ∧
        firstValid .plain (schemas.map second) value = .ok (value, none)) ∨
      ∃ schema, ∃ rest : List Json, schema ∈ schemas ∧ (∀ other ∈ rest, other ∈ schemas) ∧
        firstValid options (schemas.map first) value =
          .ok (value, some (first schema, rest.map first)) ∧
        firstValid .plain (schemas.map second) value =
          .ok (value, some (second schema, rest.map second)) := by
  induction schemas with
  | nil => exact .inr (.inl ⟨rfl, rfl⟩)
  | cons schema rest ih =>
      have here := agree schema (by simp)
      have kept := (here.keeps .all value).2
      simp only [List.map_cons, firstValid, here.enter value held, kept]
      cases ended : ((second schema).enter .plain .all value).fault with
      | some fault => exact .inl ⟨fault, rfl, rfl⟩
      | none =>
          simp only
          split
          · exact .inr (.inr ⟨schema, rest, by simp, fun other member => by simp [member], rfl, rfl⟩)
          · rcases ih fun other member => agree other (by simp [member]) with
              failed | none | ⟨chosen, after, member, within, found⟩
            · exact .inl failed
            · exact .inr (.inl none)
            · exact .inr (.inr ⟨chosen, after, by simp [member],
                fun other listed => List.mem_cons_of_mem _ (within other listed), found⟩)

theorem anyOf_agree (agree : ∀ schema ∈ schemas, (first schema).Agrees values options (second schema))
    (held : values value) :
    anyOf (schemas.map first) options value = anyOf (schemas.map second) .plain value := by
  unfold anyOf
  rcases firstValid_agree agree held with
    ⟨fault, found, found'⟩ | ⟨found, found'⟩ | ⟨_, _, _, _, found, found'⟩ <;> rw [found, found']

theorem accepting_agree
    (agree : ∀ schema ∈ schemas, (first schema).Agrees values options (second schema))
    (held : values value) :
    accepting options (schemas.map first) value = accepting .plain (schemas.map second) value := by
  induction schemas with
  | nil => rfl
  | cons schema rest ih =>
      have here := agree schema (by simp)
      simp only [List.map_cons, accepting, here.run value held, (here.keeps .first value).1, here.schema,
        ih fun other member => agree other (by simp [member])]

theorem oneOf_agree (agree : ∀ schema ∈ schemas, (first schema).Agrees values options (second schema))
    (held : values value) :
    oneOf (schemas.map first) options value = oneOf (schemas.map second) .plain value := by
  unfold oneOf
  rcases firstValid_agree agree held with
    ⟨fault, found, found'⟩ | ⟨found, found'⟩ | ⟨schema, rest, member, within, found, found'⟩
  · rw [found, found']
  · rw [found, found']
  · rw [found, found']
    simp only [accepting_agree (fun other listed => agree other (within other listed)) held,
      (agree schema member).schema]

theorem negation_agree (agrees : part.Agrees values options checking) (held : values value) :
    negation part options value = negation checking .plain value := by
  apply probe_agree agrees held
  intro valid
  simp only [agrees.schema]

theorem conditional_agree {node node' : Node} (agrees : part.Agrees values options checking)
    (held : values value)
    (both : ∀ keyword, keyword = "then" ∨ keyword = "else" →
      (node.argument? keyword = none ∧ node'.argument? keyword = none) ∨
        ∃ parts parts', node.argument? keyword = some parts ∧ node'.argument? keyword = some parts' ∧
          parts.self.Agrees values options parts'.self) :
    conditional node part options extent value = conditional node' checking .plain extent value := by
  apply probe_agree agrees held
  intro valid
  have chosen : (if valid then "then" else "else") = "then" ∨
      (if valid then "then" else "else") = "else" := by
    cases valid <;> simp
  rcases both _ chosen with ⟨none, none'⟩ | ⟨parts, parts', found, found', agrees'⟩
  · rw [none, none']
  · rw [found, found']
    exact agrees'.enter value held extent

theorem flat_agrees (meaning meaning' : Evaluation.Meaning) (location location' : String) {schema : Json}
    (flat : schema.isObject = false) :
    (Evaluation.partWith meaning location schema).Agrees values options
      (Evaluation.partWith meaning' location' schema) := by
  rw [Evaluation.partWith_flat meaning location flat, Evaluation.partWith_flat meaning' location' flat]
  exact ⟨rfl, fun _ _ _ => rfl, fun _ _ _ => rfl, Part.flat_keeps schema⟩

/-- What an argument lists is either its items, or nothing that is an object. -/
theorem mem_elements? {argument : Json} {elements : List Json} (found : argument.elements? = some elements)
    {element : Json} (member : element ∈ elements) :
    element ∈ argument.items ∨ element.isObject = false := by
  cases argument <;> simp only [Json.elements?, reduceCtorEq, Option.some.injEq] at found <;> subst found
  · obtain ⟨character, -, rfl⟩ := List.mem_map.mp member
    exact .inr rfl
  · exact .inl member
  · obtain ⟨key, -, rfl⟩ := List.mem_map.mp member
    cases key <;> exact .inr rfl

section

variable (meaning meaning' : Evaluation.Meaning) (location location' : String)
  {fields : List (Key × Json)} {argument : Json}

theorem branches_agree
    (agree : ∀ schema ∈ argument.items, (Evaluation.partWith meaning location schema).Agrees values
      options (Evaluation.partWith meaning' location' schema))
    {rule rule' : List Part → Outcome}
    (same : ∀ schemas : List Json, (∀ schema ∈ schemas,
      (Evaluation.partWith meaning location schema).Agrees values options
        (Evaluation.partWith meaning' location' schema)) →
      rule (schemas.map (Evaluation.partWith meaning location)) =
        rule' (schemas.map (Evaluation.partWith meaning' location'))) :
    given (Evaluation.argumentWith meaning location argument).branches value rule =
      given (Evaluation.argumentWith meaning' location' argument).branches value rule' := by
  rw [Evaluation.argumentWith_branches, Evaluation.argumentWith_branches]
  cases found : argument.elements? with
  | none => rfl
  | some elements =>
      apply same
      intro schema member
      rcases mem_elements? found member with item | flat
      · exact agree schema item
      · exact flat_agrees meaning meaning' location location' flat

theorem dependencies_agree
    (agree : ∀ schema ∈ Schema.heldBy "dependencies" argument,
      (Evaluation.partWith meaning location schema).Agrees values options
        (Evaluation.partWith meaning' location' schema)) (held : values value) :
    dependencies (Evaluation.argumentWith meaning location argument) options extent value =
      dependencies (Evaluation.argumentWith meaning' location' argument) .plain extent value := by
  have members : ∀ member ∈ argument.members,
      (Evaluation.partWith meaning location member.2).Agrees values options
        (Evaluation.partWith meaning' location' member.2) := by
    intro member present
    cases listed : member.2.isArray with
    | true =>
        apply flat_agrees
        cases equal : member.2 <;> simp_all [Json.isArray, Json.isObject]
    | false =>
        apply agree
        simp only [Schema.heldBy, List.mem_filter, List.mem_map]
        exact ⟨⟨member, present, rfl⟩, by simp [listed]⟩
  unfold dependencies
  split
  · rw [Evaluation.argumentWith_named, Evaluation.argumentWith_named]
    split
    · simp only [given, List.map_map]
      apply chain_congr
      · intro member present
        exact dependency_agree (members member present) held member.1
      · intro member present
        exact dependency_value (members member present).keeps member.1 value
    · rfl
  · rfl

/-- A keyword finds what it finds without normalization, if it edits nothing that it can meet and what it
looks at finds what it finds without normalization. -/
theorem evaluate_agree (closed : Hereditary values) {keyword : String}
    (harmless : keyword ∈ editingKeywords → value.isArray = false ∧ value.isObject = false)
    (agree : ∀ schema ∈ Schema.heldBy keyword argument,
      (Evaluation.partWith meaning location schema).Agrees values options
        (Evaluation.partWith meaning' location' schema))
    (others : keyword = "if" → ∀ other schema, other = "then" ∨ other = "else" → (Key.text other, schema) ∈ fields →
      (Evaluation.partWith meaning location schema).Agrees values options
        (Evaluation.partWith meaning' location' schema))
    (held : values value) :
    evaluate (Evaluation.nodeWith meaning location fields) keyword
        (Evaluation.argumentWith meaning location argument) options extent value =
      evaluate (Evaluation.nodeWith meaning' location' fields) keyword
        (Evaluation.argumentWith meaning' location' argument) .plain extent value := by
  unfold evaluate
  split
  · rfl
  · simp [properties, (harmless (by simp [editingKeywords])).2]
  · simp [required, (harmless (by simp [editingKeywords])).2]
  · simp [patternProperties, (harmless (by simp [editingKeywords])).2]
  · simp [additionalProperties, (harmless (by simp [editingKeywords])).2]
  · exact propertyNames_agree closed (agree _ (by simp [Schema.heldBy])) held
  · exact dependencies_agree meaning meaning' location location' agree held
  · have noItems : itemCount value = 0 := by
      have := (harmless (by simp [editingKeywords])).1
      cases value <;> simp_all [itemCount, Json.isArray]
    simp [items, itemParts, noItems, atIndices]
  · apply additionalItems_agree closed (agree _ (by simp [Schema.heldBy])) held
    rw [Evaluation.argument?_nodeWith, Evaluation.argument?_nodeWith]
    cases Fields.get? fields (Key.text "items") <;> simp
  · exact contains_agree closed (agree _ (by simp [Schema.heldBy])) held
  · exact branches_agree meaning meaning' location location' agree fun _ listed => allOf_agree listed held
  · exact branches_agree meaning meaning' location location' agree fun _ listed => anyOf_agree listed held
  · exact branches_agree meaning meaning' location location' agree fun _ listed => oneOf_agree listed held
  · exact negation_agree (agree _ (by simp [Schema.heldBy])) held
  · apply conditional_agree (agree _ (by simp [Schema.heldBy])) held
    intro keyword branch
    rw [Evaluation.argument?_nodeWith, Evaluation.argument?_nodeWith]
    cases found : Fields.get? fields (Key.text keyword) with
    | none => exact .inl ⟨rfl, rfl⟩
    | some schema =>
        exact .inr ⟨_, _, rfl, rfl, others rfl keyword schema branch (Fields.mem_of_get? found)⟩
  · simp only [Evaluation.argumentWith_self, Evaluation.partWith_schema]

end

end Structure

namespace Evaluation

open Schema

theorem enter_either (location location' : String) (schema : Json) :
    (∃ fault, Reference.enter location schema = .error fault ∧
        Reference.enter location' schema = .error fault) ∨
      ∃ inner inner', Reference.enter location schema = .ok inner ∧
        Reference.enter location' schema = .ok inner' := by
  unfold Reference.enter
  split
  · exact .inr ⟨_, _, rfl, rfl⟩
  · split
    · exact .inr ⟨_, _, rfl, rfl⟩
    · split
      · exact .inr ⟨_, _, rfl, rfl⟩
      · exact .inr ⟨_, _, rfl, rfl⟩
      · exact .inr ⟨_, _, rfl, rfl⟩
      · exact .inl ⟨_, rfl, rfl⟩
  · split
    · exact .inr ⟨_, _, rfl, rfl⟩
    · exact .inl ⟨_, rfl, rfl⟩
    · exact .inl ⟨_, rfl, rfl⟩

variable {meaning meaning' : Meaning} {values : Json → Prop} {allowed : String → Prop}
  {options : Options}

theorem get?_of_notAllowed {fields : List (Key × Json)} {keyword : String}
    (keys : ∀ keyword argument, (Key.text keyword, argument) ∈ fields → allowed keyword)
    (refused : ¬ allowed keyword) : Fields.get? fields (.text keyword) = none := by
  cases found : Fields.get? fields (.text keyword) with
  | none => rfl
  | some argument => exact absurd (keys _ _ (Fields.mem_of_get? found)) refused

/-- A schema without references evaluates a value under some options as without normalization, if none of
its keywords can edit what it meets. -/
theorem partWith_agrees (kept : meaning'.Keeps) (closed : Hereditary values)
    (noReference : ¬ allowed "$ref") (noMetaschema : ¬ allowed "$schema")
    (harmless : ∀ keyword ∈ editingKeywords, allowed keyword →
      ∀ value, values value → value.isArray = false ∧ value.isObject = false)
    {schema : Json} (within : Within allowed schema) :
    ∀ location location', (partWith meaning location schema).Agrees values options
      (partWith meaning' location' schema) := by
  induction within with
  | flat notObject =>
      exact fun location location' => Structure.flat_agrees meaning meaning' location location' notObject
  | @object fields keys _ ih =>
      have alone : Fields.has fields "$ref" = false := by
        simp [Fields.has, get?_of_notAllowed keys noReference]
      have inForce : ∀ options, optionsIn fields options = .ok options := by
        intro options
        simp [optionsIn, get?_of_notAllowed keys noMetaschema]
      have keep := partWith_keeps kept (.object fields)
      have agree : ∀ location location' value, values value → ∀ extent,
          runNode meaning fields (nodeWith meaning location fields) location options extent value =
            runNode meaning' fields (nodeWith meaning' location' fields) location' .plain extent value := by
        intro location location' value held extent
        simp only [runNode, inForce, Outcome.given, evaluateNode_closed _ _ alone]
        apply Outcome.chain_congr
        · intro entry member
          have present := mem_keywordsOf.mp member
          apply Structure.evaluate_agree meaning meaning' location location' closed
          · exact fun editing => harmless _ editing (keys _ _ present) value held
          · exact fun schema listed => ih _ _ present schema listed location location'
          · rintro - other schema (rfl | rfl) branch <;>
              exact ih _ _ branch schema (by simp [heldBy]) location location'
          · exact held
        · intro entry member
          exact Structure.evaluate_plain_value (argumentWith_keep kept entry.2 location')
            (fun other listed => (nodeWith_keep kept location' other listed).self) _ _
      intro location location'
      refine ⟨by simp, agree location location', ?_, keep location'⟩
      intro value held extent
      simp only [partWith]
      rcases enter_either location location' (.object fields) with
        ⟨fault, found, found'⟩ | ⟨inner, inner', found, found'⟩
      · simp only [found, found', Outcome.given]
      · simp only [found, found', Outcome.given]
        exact agree inner inner' value held extent

/-- A schema without references in which no editing keyword is met. -/
def EditsNothing : Json → Prop :=
  Within fun keyword => keyword ∉ "$ref" :: "$schema" :: editingKeywords

/-- A schema that edits nothing evaluates every value as without normalization. -/
theorem agrees_of_editsNothing (kept : meaning'.Keeps) {schema : Json} (edits : EditsNothing schema)
    (location location' : String) :
    (partWith meaning location schema).Agrees (fun _ => True) options
      (partWith meaning' location' schema) :=
  partWith_agrees kept ⟨fun _ _ _ _ _ => trivial, fun _ _ _ _ => trivial⟩ (by simp) (by simp)
    (fun keyword editing allowed => by simp [editing] at allowed) edits location location'

end Evaluation

end SchemaAlgebra
