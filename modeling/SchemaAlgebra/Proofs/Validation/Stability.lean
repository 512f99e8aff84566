import SchemaAlgebra.Proofs.Validation.Normalization
import SchemaAlgebra.Proofs.Validation.Trial

/-!
Validating what validation returned. In schemas in layers a normalized value leaves nothing to normalize:
no default is missing, nothing is left to remove, and every scalar fits where it stands. On such values
options make no difference, so a second validation returns the value exactly if it is accepted as it is.
-/

namespace SchemaAlgebra

open Outcome Evaluation

namespace Schema

/-- Nothing is left to normalize where a schema object meets a value. -/
structure Calm (meaning : Meaning) (options : Options) (fields : List (Key × Json)) (value : Json) : Prop where
  filled : options.useDefaults = true → value.isObject = true → ∀ member ∈ declared fields,
    member.2.default?.isSome = true → (value.child? (.member member.1)).isSome = true
  cleared : options.removeAdditional = true →
    Fields.get? fields "additionalProperties" = some (.bool false) → undeclared fields value = []
  unconverted : ∀ schema child, Applies fields value schema child → ∀ location,
    (partWith meaning location schema).coerce options child = .ok none

/-- Nothing is left to normalize in a value. -/
def AllCalm (meaning : Meaning) (options : Options) (schema value : Json) : Prop :=
  ∀ fields part, Meets schema value (.object fields) part → Calm meaning options fields part

variable {meaning : Meaning} {options : Options} {fields : List (Key × Json)} {value : Json}

theorem allCalm_object : AllCalm meaning options (.object fields) value ↔
    Calm meaning options fields value ∧
      ∀ schema child, Applies fields value schema child → AllCalm meaning options schema child := by
  constructor
  · intro calm
    exact ⟨calm _ _ (.here _ _), fun schema child applies fields' part meets =>
      calm _ _ (.inside applies meets)⟩
  · rintro ⟨here, below⟩ fields' part meets
    cases meets with
    | here => exact here
    | inside applies meets => exact below _ _ applies _ _ meets

theorem allCalm_bool (b : Bool) : AllCalm meaning options (.bool b) value := by
  intro fields part meets
  cases meets

/-- A schema object that edits nothing has no schemas for children. -/
theorem not_applies_of_editsNothing (edits : EditsNothing (.object fields)) {schema child : Json} :
    ¬ Applies fields value schema child := by
  have absent : ∀ keyword ∈ editingKeywords, Fields.get? fields (.text keyword) = none := by
    intro keyword editing
    cases edits with
    | flat notObject => simp [Json.isObject] at notObject
    | object keys _ => exact get?_of_notAllowed keys (by simp [editing])
  intro applies
  cases applies with
  | item found _ => simp [absent "items" (by decide)] at found
  | property present _ => simp [declared, absent "properties" (by decide)] at present
  | additional found _ _ => simp [absent "additionalProperties" (by decide)] at found

theorem allCalm_of_editsNothing (edits : EditsNothing (.object fields)) :
    AllCalm meaning options (.object fields) value := by
  have absent : ∀ keyword ∈ editingKeywords, Fields.get? fields (.text keyword) = none := by
    intro keyword editing
    cases edits with
    | flat notObject => simp [Json.isObject] at notObject
    | object keys _ => exact get?_of_notAllowed keys (by simp [editing])
  refine allCalm_object.mpr ⟨⟨fun _ _ member present => ?_, fun _ found => ?_, fun schema child applies => ?_⟩,
    fun schema child applies => ?_⟩
  · simp [declared, absent "properties" (by decide)] at present
  · simp [absent "additionalProperties" (by decide)] at found
  · exact absurd applies (not_applies_of_editsNothing edits)
  · exact absurd applies (not_applies_of_editsNothing edits)

end Schema

open Schema

namespace Outcome

variable {entries : List (Step × Part)} {options : Options} {extent : Extent} {value : Json}

/-- Converting and evaluating children that are not converted is only evaluating them. -/
theorem editing_calm (keep : ∀ entry ∈ entries, entry.2.Keeps .plain)
    (calm : ∀ entry ∈ entries, ∀ child, value.child? entry.1 = some child →
      entry.2.coerce options child = .ok none ∧
        entry.2.enter options extent child = entry.2.enter .plain extent child) :
    chain extent (editing options extent entries) value = chain extent (editing .plain extent entries) value := by
  have coerces : ∀ entry ∈ entries, entry.2.coerceAt options entry.1 value = accept value := by
    intro entry member
    unfold Part.coerceAt
    split
    · next child found => rw [(calm entry member child found).1, given]
    · rfl
  have coerced : chain extent (if options.coerceTypes then
      entries.map fun entry => entry.2.coerceAt options entry.1 else []) value = accept value := by
    split
    · refine chain_of_accept ?_
      simp only [List.mem_map, forall_exists_index, and_imp, forall_apply_eq_imp_iff₂]
      exact coerces
    · rfl
  have plain : editing .plain extent entries =
      entries.map fun entry => entry.2.descend .plain extent entry.1 := rfl
  rw [editing, chain_append, coerced, accept_andThen, plain]
  refine chain_congr (fun entry member => ?_) fun entry member => Part.descend_value (keep entry member) _ _
  unfold Part.descend
  split
  · next child found => rw [(calm entry member child found).2]
  · rfl

end Outcome

namespace Evaluation

variable {meaning : Meaning} {location : String} {options : Options} {extent : Extent} {schema value last : Json}
  {fields : List (Key × Json)}

/-- Schemas that options make no difference to where they meet a value. -/
def Unmoved (meaning : Meaning) (options : Options) (schema value : Json) : Prop :=
  ∀ location extent, (partWith meaning location schema).run options extent value =
    (partWith meaning location schema).run .plain extent value

theorem Unmoved.enter (unmoved : Unmoved meaning options schema value) (location : String) (extent : Extent) :
    (partWith meaning location schema).enter options extent value =
      (partWith meaning location schema).enter .plain extent value := by
  rw [enter_eq_given, enter_eq_given]
  congr 1
  funext inner
  exact unmoved inner extent

theorem sameEntries_calm (kept : meaning.Keeps) {steps : List Step}
    (calm : ∀ step ∈ steps, ∀ child, value.child? step = some child →
      (partWith meaning location schema).coerce options child = .ok none ∧ Unmoved meaning options schema child) :
    chain extent (editing options extent (sameEntries steps (partWith meaning location schema))) value =
      chain extent (editing .plain extent (sameEntries steps (partWith meaning location schema))) value := by
  refine editing_calm (fun entry member => ?_) fun entry member child found => ?_
  all_goals obtain ⟨step, listed, rfl⟩ := List.mem_map.mp member
  · exact partWith_keeps kept _ _
  · obtain ⟨coerced, unmoved⟩ := calm step listed child found
    exact ⟨coerced, unmoved.enter location extent⟩

theorem additionalProperties_false_calm (shaped : Shaped fields) (formed : value.wellFormed = true)
    (cleared : options.removeAdditional = true → undeclared fields value = []) :
    Structure.additionalProperties (nodeWith meaning location fields) (partWith meaning location (.bool false)) options
        extent value =
      Structure.additionalProperties (nodeWith meaning location fields) (partWith meaning location (.bool false)) .plain
        extent value := by
  cases removes : options.removeAdditional with
  | false => simp [Structure.additionalProperties, Options.plain, removes, Json.isObject]
  | true =>
      have removed : Structure.removeNames value [] = value := by cases value <;> rfl
      simp [Structure.additionalProperties, given, removes, Shape.isFalse,
        Structure.undeclaredNames_eq shaped fun _ => Json.namesOf_text formed, cleared removes, removed, Json.isObject]

/-- On a value in which nothing is left to normalize, options make no difference to the keywords of a schema object
in layers, if they make none to the children. -/
theorem evaluate_calm (kept : meaning.Keeps) (shaped : Shaped fields) (known : UsesLayers fields)
    (layered : ∀ schema, Below fields schema → Layered schema) (formed : value.wellFormed = true)
    (calm : Calm meaning options fields value)
    (unmoved : ∀ schema child, Applies fields value schema child → Unmoved meaning options schema child)
    {keyword : String} {argument : Json} (present : (Key.text keyword, argument) ∈ fields) :
    Structure.evaluate (nodeWith meaning location fields) keyword (argumentWith meaning location argument) options
        extent value =
      Structure.evaluate (nodeWith meaning location fields) keyword (argumentWith meaning location argument) .plain
        extent value := by
  have found := shaped.get?_of_mem present
  have complete : options.useDefaults = true → value.isObject = true →
      Complete (memberPartsWith meaning location (declared fields)) value := by
    intro defaults isObject member listed hasDefault
    rw [memberPartsWith_eq_map] at listed
    obtain ⟨entry, inside, rfl⟩ := List.mem_map.mp listed
    exact calm.filled defaults isObject entry inside (by simpa using hasDefault)
  have filled : value.isObject = true → (if options.useDefaults then
      fillDefaults (memberPartsWith meaning location (declared fields)) value else value) = value := by
    intro isObject
    split
    · next defaults => exact fillDefaults_of_complete (complete defaults isObject)
    · rfl
  rcases known keyword argument present with listed | silent
  · simp only [layerKeywords, shapeKeywords, List.cons_append, List.nil_append, List.mem_cons,
      List.not_mem_nil, or_false] at listed
    rcases listed with rfl | rfl | rfl | rfl | rfl | rfl | rfl
    · rfl
    · rfl
    · rfl
    · have single := (layered _ (.item found)).notArray
      simp only [Structure.evaluate]
      rw [Structure.items_eq single, Structure.items_eq single]
      refine sameEntries_calm kept fun step listed child there => ?_
      obtain ⟨i, -, rfl⟩ := List.mem_map.mp listed
      exact ⟨calm.unconverted _ _ (.item found there) location, unmoved _ _ (.item found there)⟩
    · simp only [Structure.evaluate]
      cases isObject : value.isObject with
      | false => simp [Structure.properties, isObject]
      | true =>
          rw [shaped.declared_of_get? found, Structure.properties_eq _ isObject, Structure.properties_eq _ isObject,
            filled isObject]
          refine editing_calm (fun entry member => ?_) fun entry member child there => ?_
          all_goals obtain ⟨declared, listed, rfl⟩ := List.mem_map.mp member
          · exact partWith_keeps kept _ _
          · exact ⟨calm.unconverted _ _ (.property listed there) location,
              (unmoved _ _ (.property listed there)).enter location extent⟩
    · cases isObject : value.isObject with
      | false => simp [Structure.evaluate, Structure.required, isObject]
      | true =>
          simp only [Structure.evaluate, Structure.required, Structure.declared_nodeWith, filled isObject]
          rfl
    · simp only [Structure.evaluate, argumentWith_self]
      cases isObject : value.isObject with
      | false => simp [Structure.additionalProperties, isObject]
      | true =>
          rcases (layered _ (.additional found)).isSchema with isSchema | ⟨_ | _, rfl⟩
          · rw [Structure.additionalProperties_object shaped isSchema formed isObject,
              Structure.additionalProperties_object shaped isSchema formed isObject]
            refine sameEntries_calm kept fun step listed child there => ?_
            obtain ⟨key, inside, rfl⟩ := List.mem_map.mp listed
            obtain ⟨member, other⟩ := List.mem_filter.mp inside
            obtain ⟨name, rfl⟩ := Json.namesOf_text formed member
            have applies : Applies fields value argument child := .additional found (by simpa using other) there
            exact ⟨calm.unconverted _ _ applies location, unmoved _ _ applies⟩
          · exact additionalProperties_false_calm shaped formed (calm.cleared · found)
          · rw [Structure.additionalProperties_true shaped formed, Structure.additionalProperties_true shaped formed]
  · rw [Structure.evaluate_silent silent, Structure.evaluate_silent silent]

theorem unmoved_of_layered (kept : meaning.Keeps) (layered : Layered schema) :
    schema.wellFormed = true → Metaschema.Passes schema → ∀ {value : Json}, value.wellFormed = true →
      AllCalm meaning options schema value → Unmoved meaning options schema value := by
  induction layered with
  | bool b => exact fun _ _ _ _ _ location extent => by rw [partWith_flat _ _ rfl]; rfl
  | leaf edits =>
      exact fun _ _ value _ _ location extent =>
        (agrees_of_editsNothing kept edits location location).run value trivial extent
  | @node fields known below ih =>
      intro formed passes value formedValue calm location extent
      have shaped := shaped_of_passes known formed passes
      obtain ⟨here, inside⟩ := allCalm_object.mp calm
      have unmoved : ∀ schema child, Applies fields value schema child → Unmoved meaning options schema child := by
        intro schema child applies
        obtain ⟨formed', passes'⟩ := applies.below.sound (below _ applies.below).notArray formed passes
        refine ih _ applies.below formed' passes' ?_ (inside schema child applies)
        cases applies <;> exact Json.wellFormed_child formedValue ‹_›
      rw [run_layers known, run_layers known]
      refine chain_congr (fun entry member => ?_) fun entry _ => ?_
      · exact evaluate_calm kept shaped known below formedValue here unmoved (mem_keywordsOf.mp member)
      · exact Structure.evaluate_plain_value (argumentWith_keep kept entry.2 location)
          (fun other listed => (nodeWith_keep kept location other listed).self) _ _

/-- A schema that edits nothing leaves what it accepts as it is, to whatever extent it is evaluated. -/
theorem survives_of_editsNothing (kept : meaning.Keeps) (edits : EditsNothing schema) :
    ∀ options location, (partWith meaning location schema).Survives options := by
  have agrees : ∀ (options : Options) (location location' : String),
      (partWith meaning location schema).Agrees (fun _ => True) options (partWith meaning location' schema) :=
    fun options location location' => agrees_of_editsNothing kept edits location location'
  induction edits with
  | flat notObject =>
      intro options location
      rw [partWith_flat _ _ notObject]
      exact Part.flat_survives _
  | @object fields keys inside ih =>
      intro options location
      have absent : ∀ keyword ∈ ["$ref", "$schema"], Fields.get? fields (.text keyword) = none := by
        intro keyword member
        refine get?_of_notAllowed keys ?_
        simp only [List.mem_cons, List.not_mem_nil, or_false] at member
        rcases member with rfl | rfl <;> simp
      have survive : ∀ keyword argument, (Key.text keyword, argument) ∈ fields →
          ∀ schema ∈ heldBy keyword argument, (partWith meaning location schema).Survives .plain :=
        fun keyword argument present schema held => ih keyword argument present schema held
          (fun options location location' =>
            agrees_of_editsNothing kept (inside keyword argument present schema held) location location') .plain location
      have alone : Fields.has fields "$ref" = false := by simp [Fields.has, absent "$ref" (by simp)]
      have inForce : ∀ options, optionsIn fields options = .ok options := by
        intro options
        simp [optionsIn, absent "$schema" (by simp)]
      have runs : ∀ extent value, (partWith meaning location (.object fields)).run .plain extent value =
          chain extent ((keywordsOf fields).map fun entry => Structure.evaluate (nodeWith meaning location fields)
            entry.1 (argumentWith meaning location entry.2) .plain extent) value := by
        intro extent value
        simp only [partWith, runNode, inForce, given, evaluateNode_closed _ _ alone]
      have each : ∀ extent value, (partWith meaning location (.object fields)).run .plain extent value = accept value →
          ∀ entry ∈ keywordsOf fields, Structure.evaluate (nodeWith meaning location fields) entry.1
            (argumentWith meaning location entry.2) .plain extent value = accept value := by
        intro extent value accepted entry member
        rw [runs] at accepted
        refine accept_of_chain ?_ accepted _ (List.mem_map_of_mem member)
        simp only [List.mem_map, forall_exists_index, and_imp, forall_apply_eq_imp_iff₂]
        exact fun other _ => Structure.evaluate_plain_value (argumentWith_keep kept other.2 location)
          (fun inner listed => (nodeWith_keep kept location inner listed).self) _ _
      have run : ∀ extent extent' value, (partWith meaning location (.object fields)).run .plain extent value = accept value →
          (partWith meaning location (.object fields)).run options extent' value = accept value := by
        intro extent extent' value accepted
        rw [(agrees options location location).run value trivial extent', runs]
        apply chain_of_accept
        simp only [List.mem_map, forall_exists_index, and_imp, forall_apply_eq_imp_iff₂]
        intro entry member
        have present := mem_keywordsOf.mp member
        refine Structure.evaluate_survives (rfl : Options.plain.useDefaults = false) (survive _ _ present) (fun _ _ _ _ refused => refused)
          (fun _ _ _ _ refused => refused) ?_ (each extent value accepted entry member)
        rintro other schema (rfl | rfl) branch <;> exact survive _ _ branch schema (by simp [heldBy])
      have moved := fun inner extent value => (agrees .plain inner location).run value trivial extent
      refine ⟨run, ?_, ?_, ?_, partWith_keeps kept _ _⟩
      · intro extent extent' value accepted
        rw [enter_eq_given] at accepted ⊢
        obtain ⟨inner, found, accepted⟩ := given_eq_accept.mp accepted
        rw [found, given, (agrees options inner location).run value trivial extent']
        rw [moved] at accepted
        exact (agrees options location location).run value trivial extent' ▸ run extent extent' value accepted
      · intro extent value accepted
        have ran := run extent .first value accepted
        rw [partWith_object] at ran ⊢
        exact coerceNode_accepted (each extent value accepted) ran
      · intro extent value accepted
        rw [enter_eq_given] at accepted
        obtain ⟨inner, -, accepted⟩ := given_eq_accept.mp accepted
        rwa [moved] at accepted

/-- On a scalar, a keyword of a schema object in layers does the same under all options and to every extent. -/
theorem evaluate_scalar (known : UsesLayers fields) {keyword : String} {argument : Json}
    (present : (Key.text keyword, argument) ∈ fields) (scalar : value.isContainer = false) (options' : Options)
    (extent' : Extent) :
    Structure.evaluate (nodeWith meaning location fields) keyword (argumentWith meaning location argument) options
        extent value =
      Structure.evaluate (nodeWith meaning location fields) keyword (argumentWith meaning location argument) options'
        extent' value := by
  have notObject : value.isObject = false := by cases value <;> simp_all [Json.isContainer, Json.isObject]
  have noItems : Structure.itemCount value = 0 := by cases value <;> simp_all [Json.isContainer, Structure.itemCount]
  rcases known keyword argument present with listed | silent
  · simp only [layerKeywords, shapeKeywords, List.cons_append, List.nil_append, List.mem_cons,
      List.not_mem_nil, or_false] at listed
    rcases listed with rfl | rfl | rfl | rfl | rfl | rfl | rfl
    · rfl
    · rfl
    · rfl
    · simp [Structure.evaluate, Structure.items, Structure.itemParts, noItems, Structure.atIndices]
    · simp [Structure.evaluate, Structure.properties, notObject]
    · simp [Structure.evaluate, Structure.required, notObject]
    · simp [Structure.evaluate, Structure.additionalProperties, notObject]
  · rw [Structure.evaluate_silent silent, Structure.evaluate_silent silent]

/-- A schema in layers does not convert what it accepts. -/
theorem coerce_of_layered (kept : meaning.Keeps) (layered : Layered schema) (formed : schema.wellFormed = true)
    (passes : Metaschema.Passes schema) (extent : Extent)
    (accepted : value.isContainer = false → (partWith meaning location schema).run .plain extent value = accept value) :
    (partWith meaning location schema).coerce options value = .ok none := by
  cases layered with
  | bool b => rw [partWith_flat _ _ rfl]; rfl
  | leaf edits =>
      cases container : value.isContainer with
      | true => simp [partWith_object, coerceNode, container]
      | false => exact (survives_of_editsNothing kept edits options location).coerce extent value (accepted container)
  | @node fields known below =>
      cases container : value.isContainer with
      | true => simp [partWith_object, coerceNode, container]
      | false =>
          have ran := accepted container
          rw [run_layers known, chain_eq_accept_iff] at ran
          · simp only [true_and, List.mem_map, forall_exists_index, and_imp, forall_apply_eq_imp_iff₂] at ran
            have first : (partWith meaning location (.object fields)).run options .first value = accept value := by
              rw [run_layers known]
              apply chain_of_accept
              simp only [List.mem_map, forall_exists_index, and_imp, forall_apply_eq_imp_iff₂]
              intro entry member
              rw [evaluate_scalar known (mem_keywordsOf.mp member) container .plain extent]
              exact ran entry member
            rw [partWith_object] at first ⊢
            exact coerceNode_accepted ran first
          · simp only [List.mem_map, forall_exists_index, and_imp, forall_apply_eq_imp_iff₂]
            exact fun entry _ => Structure.evaluate_plain_value (argumentWith_keep kept entry.2 location)
              (fun other listed => (nodeWith_keep kept location other listed).self) _ _

variable {meaning' : Meaning} {location' : String}

/-- What has left the evaluation of a schema in layers is not converted by it. -/
theorem coerce_of_leaves (kept : meaning'.Keeps) (layered : Layered schema) (formed : schema.wellFormed = true)
    (passes : Metaschema.Passes schema) (leaves : (partWith meaning location schema).Leaves options extent last)
    (location' : String) : (partWith meaning' location' schema).coerce options last = .ok none := by
  refine coerce_of_layered kept layered formed passes extent fun scalar => ?_
  obtain ⟨value, formedValue, entered⟩ := leaves
  rw [enter_eq_given] at entered
  obtain ⟨inner, -, ran⟩ := given_eq_accept.mp entered
  have noArray : last.isArray = false := by cases last <;> simp_all [Json.isContainer, Json.isArray]
  have noObject : last.isObject = false := by cases last <;> simp_all [Json.isContainer, Json.isObject]
  exact (sound_of_layered kept layered formed passes inner location' extent value last formedValue ran).2.mpr
    (spared_scalar noArray noObject)

/-- What is settled for every keyword of a schema object in layers leaves nothing to normalize. -/
theorem SettledAll.calm (kept : meaning'.Keeps) (layered : ∀ schema, Below fields schema → Layered schema)
    (formed : (Json.object fields).wellFormed = true) (passes : Metaschema.Passes (.object fields))
    (settled : SettledAll meaning location fields options extent value) (formedValue : value.wellFormed = true) :
    Calm meaning' options fields value where
  filled defaults isObject member present hasDefault := by
    obtain ⟨done, all, settled⟩ := settled
    cases found : Fields.get? fields "properties" with
    | none => simp [declared, found] at present
    | some argument =>
        have complete := settled.filled (all _ _ (Fields.mem_of_get? found)) defaults isObject
        rw [memberPartsWith_eq_map] at complete
        exact complete _ (List.mem_map_of_mem present) (by simpa using hasDefault)
  cleared removes found := by
    refine List.eq_nil_iff_forall_not_mem.mpr fun key listed => ?_
    obtain ⟨present, other⟩ := List.mem_filter.mp listed
    obtain ⟨name, rfl⟩ := Json.namesOf_text formedValue present
    obtain ⟨child, there⟩ := Option.isSome_iff_exists.mp (Json.text_mem_namesOf.mp present)
    exact not_leaves_false (settled.leaves (.additional found (by simpa using other) there))
  unconverted schema child applies location' := by
    obtain ⟨formed', passes'⟩ := applies.below.sound (layered _ applies.below).notArray formed passes
    exact coerce_of_leaves kept (layered _ applies.below) formed' passes' (settled.leaves applies) location'

/-- What a schema in layers accepts under some options comes out with nothing left to normalize. -/
theorem allCalm_of_run (kept : meaning'.Keeps) (layered : Layered schema) :
    schema.wellFormed = true → Metaschema.Passes schema → ∀ {location extent value last}, value.wellFormed = true →
      (partWith meaning location schema).run options extent value = accept last →
        AllCalm meaning' options schema last := by
  induction layered with
  | bool b => exact fun _ _ _ _ _ _ _ _ => allCalm_bool b
  | leaf edits => exact fun _ _ _ _ _ _ _ _ => allCalm_of_editsNothing edits
  | @node fields known below ih =>
      intro formed passes location extent value last formedValue ran
      have shaped := shaped_of_passes known formed passes
      have sound : ∀ schema, Below fields schema → Sound meaning meaning' options schema := by
        intro schema inside
        obtain ⟨formed', passes'⟩ := inside.sound (below schema inside).notArray formed passes
        exact sound_of_layered kept (below schema inside) formed' passes'
      obtain ⟨formedLast, settled⟩ := settledAll_of_run shaped (fun schema inside => (sound schema inside).forms location extent)
        below known formedValue ran
      refine allCalm_object.mpr ⟨settled.calm kept below formed passes formedLast, fun schema child applies => ?_⟩
      obtain ⟨formed', passes'⟩ := applies.below.sound (below _ applies.below).notArray formed passes
      obtain ⟨entering, formedEntering, entered⟩ := settled.leaves applies
      rw [enter_eq_given] at entered
      obtain ⟨inner, -, ran'⟩ := given_eq_accept.mp entered
      exact ih _ applies.below formed' passes' formedEntering ran'

end Evaluation

namespace Validation

variable {options : Options} {schema value result : Json}

/-- Options make no difference to a normalized value. -/
theorem rootOutcome_normalized (layered : Layered schema) (checked : Metaschema.isSchema schema = true)
    (distinct : schema.wellFormed = true) (formed : value.wellFormed = true)
    (validated : (validate options schema value).verdict = .valid result) :
    rootOutcome options schema result = rootOutcome .plain schema result := by
  have passes := Metaschema.passes_of_isSchema checked
  have leaves := leavesOptions_of_silent layered.namesNoMetaschema
  obtain ⟨root, coerced, ended⟩ := validate_eq_valid.mp validated
  rw [rootOutcome, evaluateRoot_eq_run (leaves options)] at ended
  rw [rootOutcome, rootOutcome, evaluateRoot_eq_run (leaves options), evaluateRoot_eq_run (leaves .plain)]
  have kept := fun value => meaningIn_partIn_keeps (scopeOf (ownLocation schema) schema)
    ((scopeOf (ownLocation schema) schema).bound value)
  have formedRoot := coerceRoot_formed formed coerced
  have formedResult := (sound_of_layered (kept result) layered distinct passes _ (ownLocation schema) _ _ _ formedRoot ended).1
  exact unmoved_of_layered (kept result) layered distinct passes formedResult
    (allCalm_of_run (kept result) layered distinct passes formedRoot ended) _ _

/-- The root of a normalized value is not converted. -/
theorem coerceRoot_normalized (layered : Layered schema) (checked : Metaschema.isSchema schema = true)
    (distinct : schema.wellFormed = true) (formed : value.wellFormed = true)
    (validated : (validate options schema value).verdict = .valid result) :
    coerceRoot options (partIn (scopeOf (ownLocation schema) schema)
      ((scopeOf (ownLocation schema) schema).bound result) (ownLocation schema) schema) result = .ok result := by
  have passes := Metaschema.passes_of_isSchema checked
  obtain ⟨root, coerced, ended⟩ := validate_eq_valid.mp validated
  rw [rootOutcome, evaluateRoot_eq_run (leavesOptions_of_silent layered.namesNoMetaschema options)] at ended
  have left : ∀ count, (partIn (scopeOf (ownLocation schema) schema) count (ownLocation schema) schema).coerce options
      result = .ok none := by
    have plain : ∀ {meaning : Meaning}, meaning.Keeps →
        (partWith meaning (ownLocation schema) schema).coerce options result = .ok none := by
      intro meaning kept
      refine coerce_of_layered kept layered distinct passes .all fun scalar => ?_
      have noArray : result.isArray = false := by cases result <;> simp_all [Json.isContainer, Json.isArray]
      have noObject : result.isObject = false := by cases result <;> simp_all [Json.isContainer, Json.isObject]
      exact (sound_of_layered kept layered distinct passes _ _ _ _ _ (coerceRoot_formed formed coerced) ended).2.mpr
        (spared_scalar noArray noObject)
    intro count
    cases count with
    | zero => exact plain fun _ _ _ _ => rfl
    | succ count => exact plain (meaningIn_partIn_keeps _ _)
  unfold coerceRoot
  split
  · rw [left]
    rfl
  · rfl

/-- A normalized value is validated to itself exactly if, wherever a schema object that removes undeclared properties
meets an object in it, all that is required is declared. -/
theorem normalized_fixed_iff (layered : Layered schema) (checked : Metaschema.isSchema schema = true)
    (distinct : schema.wellFormed = true) (formed : value.wellFormed = true)
    (validated : (validate options schema value).verdict = .valid result) :
    validate options schema result = ⟨.valid result, result⟩ ↔ Spared options schema result := by
  have same : validate options schema result = resultOf result (rootOutcome .plain schema result) := by
    rw [← rootOutcome_normalized layered checked distinct formed validated]
    simp only [validate, coerceRoot_normalized layered checked distinct formed validated, rootOutcome]
  have passes := Metaschema.passes_of_isSchema checked
  have leaves := leavesOptions_of_silent layered.namesNoMetaschema
  obtain ⟨root, coerced, ended⟩ := validate_eq_valid.mp validated
  rw [rootOutcome, evaluateRoot_eq_run (leaves options)] at ended
  have spared : rootOutcome .plain schema result = accept result ↔ Spared options schema result := by
    rw [rootOutcome, evaluateRoot_eq_run (leaves .plain)]
    exact (sound_of_layered (meaningIn_partIn_keeps _ _) layered distinct passes _ _ _ _ _
      (coerceRoot_formed formed coerced) ended).2
  rw [same, ← spared]
  constructor
  · intro fixed
    exact resultOf_valid.mp (congrArg Result.verdict fixed)
  · intro accepted
    rw [accepted, resultOf_accept]

/-- Removal takes away what is required, so that its own result is refused. -/
theorem removed_requirement_unstable :
    Layered undeclaredRequirement ∧ Metaschema.isSchema undeclaredRequirement = true ∧
      (validate .all undeclaredRequirement (.object [("x", .int 1)])).verdict = .valid (.object []) ∧
        ¬ ∃ result, (validate .all undeclaredRequirement (.object [])).verdict = .valid result := by
  refine ⟨layered_undeclaredRequirement, rfl, ?_, ?_⟩
  · exact validate_eq_valid.mpr ⟨_, coerceRoot_container rfl, rfl⟩
  · rintro ⟨result, validated⟩
    obtain ⟨root, coerced, ended⟩ := validate_eq_valid.mp validated
    rw [coerceRoot_container rfl] at coerced
    obtain rfl := Except.ok.inj coerced
    have invalid : (rootOutcome .all undeclaredRequirement (.object [])).isValid = false := rfl
    rw [ended] at invalid
    exact absurd invalid (by simp [Outcome.isValid])

/-- Arrays of objects with a whole number, zero by default, and otherwise texts. -/
def numbered : Json :=
  .object [("type", .string "array"), ("items", .object [("type", .string "object"),
    ("properties", .object [("a", .object [("type", .string "integer"), ("default", .int 0)])]),
    ("required", .array [.string "a"]), ("additionalProperties", .object [("type", .string "string")])])]

theorem layered_numbered : Layered numbered := by
  have leaf : ∀ fields : List (Key × Json), (∀ keyword argument, (Key.text keyword, argument) ∈ fields →
      keyword = "type" ∨ keyword = "default") → Layered (.object fields) := by
    intro fields words
    refine .leaf (.object (fun keyword argument present => ?_) fun keyword argument present schema held => ?_)
    · rcases words keyword argument present with rfl | rfl <;> decide
    · rcases words keyword argument present with rfl | rfl <;> cases held
  refine .node ?_ ?_
  · intro keyword argument present
    simp only [List.mem_cons, Prod.mk.injEq, Key.text.injEq, List.not_mem_nil, or_false] at present
    rcases present with ⟨rfl, -⟩ | ⟨rfl, -⟩ <;> exact .inl (by decide)
  · rintro schema (⟨⟨⟩⟩ | ⟨⟨⟩⟩ | ⟨⟨⟩⟩)
    refine .node ?_ ?_
    · intro keyword argument present
      simp only [List.mem_cons, Prod.mk.injEq, Key.text.injEq, List.not_mem_nil, or_false] at present
      rcases present with ⟨rfl, -⟩ | ⟨rfl, -⟩ | ⟨rfl, -⟩ | ⟨rfl, -⟩ <;> exact .inl (by decide)
    · rintro schema (⟨⟨⟩⟩ | ⟨⟨⟩⟩ | ⟨⟨⟩⟩)
      · refine leaf _ fun keyword argument present => ?_
        simp only [List.mem_cons, Prod.mk.injEq, Key.text.injEq, List.not_mem_nil, or_false] at present
        rcases present with ⟨rfl, -⟩ | ⟨rfl, -⟩ <;> simp
      · rename_i later
        cases later
      · refine leaf _ fun keyword argument present => ?_
        simp only [List.mem_cons, Prod.mk.injEq, Key.text.injEq, List.not_mem_nil, or_false] at present
        exact .inl present.1

/-- The text and the default that the first validation makes stay in the second one. -/
theorem numbered_fixed :
    (validate .all numbered (.array [.object [("b", .bool true)]])).verdict =
        .valid (.array [.object [("b", .string "true"), ("a", .int 0)]]) ∧
      validate .all numbered (.array [.object [("b", .string "true"), ("a", .int 0)]]) =
        ⟨.valid (.array [.object [("b", .string "true"), ("a", .int 0)]]),
          .array [.object [("b", .string "true"), ("a", .int 0)]]⟩ := by
  have validated : (validate .all numbered (.array [.object [("b", .bool true)]])).verdict =
      .valid (.array [.object [("b", .string "true"), ("a", .int 0)]]) :=
    validate_eq_valid.mpr ⟨_, coerceRoot_container rfl, rfl⟩
  refine ⟨validated, (normalized_fixed_iff layered_numbered rfl (by decide) (by decide) validated).mpr ?_⟩
  -- no schema in it removes anything
  have leaf : ∀ (fields : List (Key × Json)) (value : Json), Fields.get? fields "items" = none →
      Fields.get? fields "properties" = none → Fields.get? fields "additionalProperties" = none →
        Spared .all (.object fields) value := by
    intro fields value noItems noProperties noAdditional
    refine spared_object.mpr ⟨fun _ _ found => by simp [noAdditional] at found, fun schema child applies => ?_⟩
    cases applies with
    | item found _ => simp [noItems] at found
    | property present _ => simp [declared, noProperties] at present
    | additional found _ _ => simp [noAdditional] at found
  unfold numbered
  refine spared_object.mpr ⟨fun isObject => absurd isObject (by decide), fun schema child applies => ?_⟩
  rcases applies with ⟨⟨⟩, -⟩ | ⟨⟨⟩, -⟩ | ⟨⟨⟩, -, -⟩
  refine spared_object.mpr ⟨fun _ _ removed => (by cases removed), fun schema child applies => ?_⟩
  rcases applies with ⟨⟨⟩, -⟩ | ⟨present, -⟩ | ⟨⟨⟩, -, -⟩
  · obtain rfl := List.mem_singleton.mp present
    exact leaf _ _ rfl rfl rfl
  · exact leaf _ _ rfl rfl rfl

end Validation

end SchemaAlgebra
