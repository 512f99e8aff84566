import SchemaAlgebra.Proofs.Validation.Agreement

/-!
Schemas without references. Nothing in such a schema asks what a reference means or where it stands, so
its part is the same whatever references mean, wherever it is met.
-/

namespace SchemaAlgebra

namespace Reference

variable {word : Key}

theorem countItems_eq_zero {items : List Json} :
    countItems word items = 0 ↔ ∀ item ∈ items, count word item = 0 := by
  induction items with
  | nil => simp [countItems]
  | cons item rest ih => simp [countItems, ih]

theorem countFields_eq_zero {fields : List (Key × Json)} :
    countFields word fields = 0 ↔ ∀ entry ∈ fields, entry.1 ≠ word ∧ count word entry.2 = 0 := by
  induction fields with
  | nil => simp [countFields]
  | cons entry rest ih => simp [countFields, ih]

/-- A word that does not occur in a value is no key in it, and occurs in none of its parts. -/
theorem count_eq_zero {value : Json} (absent : count word value = 0) :
    (∀ item ∈ value.items, count word item = 0) ∧
      ∀ member ∈ value.members, member.1 ≠ word ∧ count word member.2 = 0 := by
  cases value with
  | array items =>
      rw [count] at absent
      exact ⟨countItems_eq_zero.mp absent, by simp [Json.members]⟩
  | object fields =>
      rw [count] at absent
      exact ⟨by simp [Json.items], countFields_eq_zero.mp absent⟩
  | _ => simp [Json.items, Json.members]

theorem get?_of_count {fields : List (Key × Json)} (absent : count word (.object fields) = 0) :
    Fields.get? fields word = none := by
  cases found : Fields.get? fields word with
  | none => rfl
  | some argument =>
      exact absurd rfl ((count_eq_zero absent).2 _ (Fields.mem_of_get? found)).1

theorem count_heldBy {keyword : String} {argument schema : Json} (absent : count word argument = 0)
    (held : schema ∈ Schema.heldBy keyword argument) : count word schema = 0 := by
  obtain ⟨items, members⟩ := count_eq_zero absent
  rcases Schema.heldBy_cases held with rfl | item | ⟨member, listed, rfl⟩
  · exact absent
  · exact items schema item
  · exact (members member listed).2

end Reference

namespace Evaluation

/-- A schema in which a word is no key uses only other keywords. -/
theorem within_of_count {words : List String} {schema : Json}
    (absent : ∀ word ∈ words, Reference.count (.text word) schema = 0) :
    Schema.Within (fun keyword => keyword ∉ words) schema := by
  induction schema using Json.schemaInduction with
  | flat schema notObject => exact .flat notObject
  | object fields ih =>
      have inside := fun word listed => (Reference.count_eq_zero (absent word listed)).2
      refine .object (fun keyword argument present listed => ?_) fun keyword argument present schema held => ?_
      · exact (inside keyword listed _ present).1 rfl
      · obtain ⟨self, items, members⟩ := ih _ present
        have absent' : ∀ word ∈ words, Reference.count (.text word) schema = 0 := fun word listed =>
          Reference.count_heldBy (inside word listed _ present).2 held
        rcases Schema.heldBy_cases held with rfl | item | ⟨member, listed, rfl⟩
        · exact self absent'
        · exact items schema item absent'
        · exact members member listed absent'

theorem evaluateNode_alone {meaning meaning' : Meaning} {location location' : String}
    {fields : List (Key × Json)} (alone : Fields.get? fields "$ref" = none) :
    evaluateNode meaning location fields = evaluateNode meaning' location' fields := by
  funext node options extent value
  simp only [evaluateNode, alone]

theorem nodeWith_congr {meaning meaning' : Meaning} {location location' : String}
    {fields : List (Key × Json)}
    (same : ∀ entry ∈ fields, argumentWith meaning location entry.2 =
      argumentWith meaning' location' entry.2) :
    nodeWith meaning location fields = nodeWith meaning' location' fields := by
  rw [nodeWith_eq_map, nodeWith_eq_map]
  refine List.map_congr_left fun entry member => ?_
  rw [same _ (mem_keywordsOf.mp member)]

/-- The evaluation of a schema object that is entered from a location. -/
def enterNode (meaning : Meaning) (location : String) (fields : List (Key × Json)) (options : Options)
    (extent : Extent) (value : Json) : Outcome :=
  Outcome.given (Reference.enter location (.object fields)) value fun inner =>
    runNode meaning fields (nodeWith meaning inner fields) inner options extent value

theorem partWith_object (meaning : Meaning) (location : String) (fields : List (Key × Json)) :
    partWith meaning location (.object fields) =
      ⟨.object fields, runNode meaning fields (nodeWith meaning location fields) location,
        enterNode meaning location fields,
        coerceNode fields (nodeWith meaning location fields)
          (runNode meaning fields (nodeWith meaning location fields) location)⟩ := by
  rw [partWith]
  rfl

/-- What a schema without references means depends on nothing around it. -/
theorem partWith_closed {schema : Json} (closed : Reference.count "$ref" schema = 0) :
    ∀ (meaning meaning' : Meaning) (location location' : String),
      partWith meaning location schema = partWith meaning' location' schema := by
  induction schema using Json.schemaInduction with
  | flat schema notObject =>
      intro meaning meaning' location location'
      rw [partWith_flat _ _ notObject, partWith_flat _ _ notObject]
  | object fields ih =>
      have nodes : ∀ (meaning meaning' : Meaning) (location location' : String),
          nodeWith meaning location fields = nodeWith meaning' location' fields := by
        intro meaning meaning' location location'
        refine nodeWith_congr fun entry member => ?_
        obtain ⟨self, items, members⟩ := ih entry member
        have absent := ((Reference.count_eq_zero closed).2 entry member).2
        obtain ⟨absentItems, absentMembers⟩ := Reference.count_eq_zero absent
        have itemsSame : itemsOf meaning location entry.2 = itemsOf meaning' location' entry.2 := by
          cases same : entry.2 with
          | array listed =>
              rw [same] at items absentItems
              simp only [itemsOf, partsWith_eq_map]
              exact List.map_congr_left fun item inside =>
                items item inside (absentItems item inside) _ _ _ _
          | _ => simp only [itemsOf]
        have membersSame : membersOf meaning location entry.2 =
            membersOf meaning' location' entry.2 := by
          cases same : entry.2 with
          | object listed =>
              rw [same] at members absentMembers
              simp only [membersOf, memberPartsWith_eq_map]
              exact List.map_congr_left fun member inside => by
                rw [members member inside (absentMembers member inside).2 _ meaning' _ location']
          | _ => simp only [membersOf]
        rw [argumentWith, argumentWith, self absent _ meaning' _ location', itemsSame, membersSame]
      intro meaning meaning' location location'
      have runs : ∀ (meaning meaning' : Meaning) (location location' : String),
          runNode meaning fields (nodeWith meaning location fields) location =
            runNode meaning' fields (nodeWith meaning' location' fields) location' := by
        intro meaning meaning' location location'
        funext options extent value
        rw [runNode, runNode, nodes meaning meaning' location location',
          evaluateNode_alone (Reference.get?_of_count closed)]
      have enters : enterNode meaning location fields = enterNode meaning' location' fields := by
        funext options extent value
        unfold enterNode
        rcases enter_either location location' (.object fields) with
          ⟨fault, found, found'⟩ | ⟨inner, inner', found, found'⟩
        · simp only [found, found', Outcome.given]
        · rw [found, found', Outcome.given, Outcome.given, runs meaning meaning' inner inner']
      rw [partWith_object, partWith_object, enters, runs meaning meaning' location location',
        nodes meaning meaning' location location']

theorem argumentWith_closed {argument : Json} (closed : Reference.count "$ref" argument = 0)
    (meaning meaning' : Meaning) (location location' : String) :
    argumentWith meaning location argument = argumentWith meaning' location' argument := by
  obtain ⟨items, members⟩ := Reference.count_eq_zero closed
  have itemsSame : itemsOf meaning location argument = itemsOf meaning' location' argument := by
    cases argument with
    | array listed =>
        simp only [itemsOf, partsWith_eq_map]
        exact List.map_congr_left fun item inside => partWith_closed (items item inside) ..
    | _ => rfl
  have membersSame : membersOf meaning location argument = membersOf meaning' location' argument := by
    cases argument with
    | object listed =>
        simp only [membersOf, memberPartsWith_eq_map]
        exact List.map_congr_left fun member inside => by
          rw [partWith_closed (members member inside).2 _ meaning' _ location']
    | _ => rfl
  rw [argumentWith, argumentWith, partWith_closed closed _ meaning' _ location', itemsSame, membersSame]

theorem nodeWith_closed {fields : List (Key × Json)} (closed : Reference.count "$ref" (.object fields) = 0)
    (meaning meaning' : Meaning) (location location' : String) :
    nodeWith meaning location fields = nodeWith meaning' location' fields :=
  nodeWith_congr fun entry listed =>
    argumentWith_closed ((Reference.count_eq_zero closed).2 entry listed).2 ..

theorem enter_eq_given {meaning : Meaning} {location : String} {options : Options} {extent : Extent}
    {value : Json} (schema : Json) :
    (partWith meaning location schema).enter options extent value =
      Outcome.given (Reference.enter location schema) value fun inner =>
        (partWith meaning inner schema).run options extent value := by
  cases isObject : schema.isObject with
  | true =>
      cases schema <;> simp only [Json.isObject, Bool.false_eq_true] at isObject
      rfl
  | false =>
      simp only [partWith_flat meaning _ isObject, Part.flat]
      rcases enter_either "" location schema with
        ⟨fault, found, found'⟩ | ⟨inner, inner', found, found'⟩ <;> simp only [found, found', Outcome.given]

/-- References that mean nothing. -/
def noReference : Meaning :=
  fun _ _ _ _ value => .fail value .endlessReference

/-- The part of a schema that stands for itself. -/
def alone (schema : Json) : Part :=
  partWith noReference "" schema

theorem partIn_closed {schema : Json} (closed : Reference.count "$ref" schema = 0)
    (scope : Reference.Scope) (count : Nat) (location : String) :
    partIn scope count location schema = alone schema := by
  cases count <;> exact partWith_closed closed _ _ _ _

theorem alone_enter {schema : Json} (closed : Reference.count "$ref" schema = 0) (options : Options)
    (extent : Extent) (value : Json) :
    (alone schema).enter options extent value =
      Outcome.given (Reference.enter "" schema) value fun _ =>
        (alone schema).run options extent value := by
  rw [alone, enter_eq_given]
  congr 1
  funext inner
  rw [partWith_closed closed]

theorem alone_keeps (schema : Json) : (alone schema).Keeps .plain :=
  partWith_keeps (fun _ _ _ _ => rfl) schema ""

theorem alone_run_of_get? {fields : List (Key × Json)} (closed : Reference.count "$ref" (.object fields) = 0)
    (silent : Fields.get? fields "$schema" = none) (options : Options) (extent : Extent) (value : Json) :
    (alone (.object fields)).run options extent value =
      Outcome.chain extent ((keywordsOf fields).map fun entry =>
        Structure.evaluate (nodeWith noReference "" fields) entry.1
          (argumentWith noReference "" entry.2) options extent) value := by
  have noReferences : Fields.has fields "$ref" = false := by
    rw [Fields.has, Reference.get?_of_count closed]
    rfl
  have inForce : optionsIn fields options = .ok options := by
    rw [optionsIn, silent]
  rw [alone, partWith_object]
  simp only [runNode, inForce, Outcome.given]
  exact evaluateNode_closed noReference "" noReferences options extent value

theorem alone_run {fields : List (Key × Json)} (closed : Reference.count "$ref" (.object fields) = 0)
    (silent : Reference.count "$schema" (.object fields) = 0) (options : Options) (extent : Extent)
    (value : Json) :
    (alone (.object fields)).run options extent value =
      Outcome.chain extent ((keywordsOf fields).map fun entry =>
        Structure.evaluate (nodeWith noReference "" fields) entry.1
          (argumentWith noReference "" entry.2) options extent) value :=
  alone_run_of_get? closed (Reference.get?_of_count silent) options extent value

end Evaluation

end SchemaAlgebra
