import SchemaAlgebra.Proofs.Schema.Metaschema
import SchemaAlgebra.Proofs.Validation.Settlement
import SchemaAlgebra.Proofs.Validation.Verdict

/-!
What normalization makes of a value, and whether the schema accepts it without normalization. In schemas
whose objects and arrays are described in layers, each by the schemas of its children alone, nothing that
was checked is undone later, with one exception: removal takes away a property that is required and that
nothing declares. A normalized value is accepted exactly if this has happened nowhere in it.
-/

namespace SchemaAlgebra

open Outcome Evaluation

namespace Schema

/-- The keywords that evaluation knows. -/
def evaluatedKeywords : List String :=
  ["$ref", "$schema", "properties", "required", "patternProperties", "additionalProperties",
    "propertyNames", "dependencies", "items", "additionalItems", "contains", "allOf", "anyOf", "oneOf",
    "not", "if", "type", "enum", "const", "minimum", "maximum", "exclusiveMinimum", "exclusiveMaximum",
    "multipleOf", "minLength", "maxLength", "minItems", "maxItems", "minProperties", "maxProperties",
    "uniqueItems", "pattern", "format"]

/-- The keywords that describe an object or an array in layers. -/
def layerKeywords : List String :=
  shapeKeywords ++ ["items", "properties", "required", "additionalProperties"]

/-- A schema object that uses only the keywords of layers and annotations. -/
def UsesLayers (fields : List (Key × Json)) : Prop :=
  ∀ keyword argument, (Key.text keyword, argument) ∈ fields →
    keyword ∈ layerKeywords ∨ keyword ∉ evaluatedKeywords

/-- Schemas in layers: truth values, schemas that edit nothing, and schema objects that use only the
keywords of layers and annotations, with schemas in layers for the children. -/
inductive Layered : Json → Prop
  | bool (b : Bool) : Layered (.bool b)
  | leaf {fields : List (Key × Json)} :
      EditsNothing (.object fields) → Layered (.object fields)
  | node {fields : List (Key × Json)} :
      UsesLayers fields → (∀ schema, Below fields schema → Layered schema) → Layered (.object fields)

/-- The schemas that a schema object has for the children of a value. -/
inductive Applies (fields : List (Key × Json)) (value : Json) : Json → Json → Prop
  | item {schema child : Json} {i : Nat} :
      Fields.get? fields "items" = some schema → value.child? (.index i) = some child →
        Applies fields value schema child
  | property {member : Key × Json} {child : Json} :
      member ∈ declared fields → value.child? (.member member.1) = some child →
        Applies fields value member.2 child
  | additional {schema child : Json} {name : String} :
      Fields.get? fields "additionalProperties" = some schema → .text name ∉ declaredNames fields →
        value.child? (.member (.text name)) = some child → Applies fields value schema child

/-- The subschemas that meet parts of a value, each with the part that it meets. -/
inductive Meets : Json → Json → Json → Json → Prop
  | here (schema value : Json) : Meets schema value schema value
  | inside {fields : List (Key × Json)} {value inner child schema part : Json} :
      Applies fields value inner child → Meets inner child schema part →
        Meets (.object fields) value schema part

/-- Wherever a schema object meets an object, removal spares what is required. -/
def Spared (options : Options) (schema value : Json) : Prop :=
  ∀ fields members, Meets schema value (.object fields) (.object members) →
    RemovalSpares options fields

theorem spared_object {options : Options} {fields : List (Key × Json)} {value : Json} :
    Spared options (.object fields) value ↔
      (value.isObject = true → RemovalSpares options fields) ∧
        ∀ schema child, Applies fields value schema child → Spared options schema child := by
  constructor
  · intro spared
    refine ⟨fun isObject => ?_, ?_⟩
    · cases value <;> simp only [Json.isObject, Bool.false_eq_true] at isObject
      exact spared _ _ (.here _ _)
    · exact fun schema child applies fields' members meets => spared _ _ (.inside applies meets)
  · rintro ⟨here, below⟩ fields' members meets
    cases meets with
    | here => exact here rfl
    | inside applies meets => exact below _ _ applies _ _ meets

theorem spared_scalar {options : Options} {schema value : Json} (noArray : value.isArray = false)
    (noObject : value.isObject = false) : Spared options schema value := by
  have noChild : ∀ step, value.child? step = none := by
    intro step
    cases value <;> cases step <;> simp_all [Json.isArray, Json.isObject, Json.child?, Json.get?]
  intro fields members meets
  cases meets with
  | here => simp [Json.isObject] at noObject
  | inside applies _ =>
      cases applies with
      | item _ there => simp [noChild] at there
      | property _ there => simp [noChild] at there
      | additional _ _ there => simp [noChild] at there

theorem Applies.below {fields : List (Key × Json)} {value schema child : Json}
    (applies : Applies fields value schema child) : Below fields schema := by
  cases applies with
  | item found _ => exact .item found
  | property present _ => exact .property present
  | additional found _ _ => exact .additional found

theorem Layered.isSchema {schema : Json} (layered : Layered schema) :
    schema.isObject = true ∨ ∃ b, schema = .bool b := by
  cases layered with
  | bool b => exact .inr ⟨b, rfl⟩
  | leaf _ => exact .inl rfl
  | node _ _ => exact .inl rfl

theorem Layered.notArray {schema : Json} (layered : Layered schema) : schema.isArray = false := by
  rcases layered.isSchema with isObject | ⟨b, rfl⟩
  · cases schema <;> simp_all [Json.isObject, Json.isArray]
  · rfl

theorem get?_of_known {fields : List (Key × Json)} (known : UsesLayers fields) {keyword : String}
    (other : keyword ∉ layerKeywords) (evaluated : keyword ∈ evaluatedKeywords) :
    Fields.get? fields (.text keyword) = none := by
  cases found : Fields.get? fields (.text keyword) with
  | none => rfl
  | some argument =>
      rcases known keyword argument (Fields.mem_of_get? found) with listed | silent
      · exact absurd listed other
      · exact absurd evaluated silent

theorem shaped_of_passes {fields : List (Key × Json)} (known : UsesLayers fields)
    (formed : (Json.object fields).wellFormed = true) (passes : Metaschema.Passes (.object fields)) :
    Shaped fields where
  formed := formed
  properties _ found := (passes.properties found).1
  required _ found := passes.required found
  noPatterns := get?_of_known known (by decide) (by decide)

/-- A subschema for a child, below a schema that is well formed and passes, is well formed and passes. -/
theorem Below.sound {fields : List (Key × Json)} {schema : Json} (below : Below fields schema)
    (notArray : schema.isArray = false) (formed : (Json.object fields).wellFormed = true)
    (passes : Metaschema.Passes (.object fields)) :
    schema.wellFormed = true ∧ Metaschema.Passes schema := by
  have inside := ((Json.wellFormed_object fields).mp formed).2.2
  cases below with
  | item found => exact ⟨inside _ (Fields.mem_of_get? found), passes.items found notArray⟩
  | additional found => exact ⟨inside _ (Fields.mem_of_get? found), passes.additional found⟩
  | @property member present =>
      cases found : Fields.get? fields "properties" with
      | none => simp [declared, found] at present
      | some argument =>
          obtain ⟨isObject, pass⟩ := passes.properties found
          have formed' := inside _ (Fields.mem_of_get? found)
          cases argument <;> simp only [Json.isObject, Bool.false_eq_true] at isObject
          next members =>
            have listed : member ∈ members := by simpa only [declared, found, Json.members] using present
            exact ⟨((Json.wellFormed_object members).mp formed').2.2 member listed, pass member listed⟩

theorem Layered.namesNoMetaschema {schema : Json} (layered : Layered schema) (fields : List (Key × Json))
    (same : schema = .object fields) : Fields.get? fields "$schema" = none := by
  subst same
  have refused : ∀ argument, (Key.text "$schema", argument) ∉ fields := by
    intro argument present
    cases layered with
    | leaf within =>
        cases within with
        | flat notObject => simp [Json.isObject] at notObject
        | object keys _ => exact keys _ _ present (by decide)
    | node known _ =>
        rcases known _ _ present with listed | silent
        · exact absurd listed (by decide)
        · exact silent (by decide)
  cases found : Fields.get? fields "$schema" with
  | none => rfl
  | some argument => exact absurd (Fields.mem_of_get? found) (refused argument)

end Schema

open Schema

namespace Structure

theorem evaluate_silent {keyword : String} (silent : keyword ∉ evaluatedKeywords) (node : Node)
    (argument : Parts) (options : Options) (extent : Extent) (value : Json) :
    evaluate node keyword argument options extent value = accept value := by
  have unchecked : Keyword.check keyword argument.self.schema value = accept value := by
    unfold Keyword.check
    split <;> first | rfl | exact absurd (by simp [evaluatedKeywords]) silent
  unfold evaluate
  split <;> first | exact unchecked | exact absurd (by simp [evaluatedKeywords]) silent

end Structure

namespace Evaluation

variable {meaning : Meaning} {location : String} {options : Options} {extent : Extent}
  {schema value last : Json} {fields : List (Key × Json)}

/-- The evaluation of one keyword of a schema object settles it. -/
theorem settled_step (shaped : Shaped fields)
    (forms : ∀ schema, Below fields schema → (partWith meaning location schema).Forms options extent)
    (layered : ∀ schema, Below fields schema → Layered schema) {keyword : String} {argument : Json}
    (present : (Key.text keyword, argument) ∈ fields)
    (known : keyword ∈ layerKeywords ∨ keyword ∉ evaluatedKeywords) {done : List String}
    (settled : Settled meaning location fields options extent done value)
    (ran : Structure.evaluate (nodeWith meaning location fields) keyword
      (argumentWith meaning location argument) options extent value = accept last) :
    Settled meaning location fields options extent (keyword :: done) last := by
  have found := shaped.get?_of_mem present
  rcases known with listed | silent
  · simp only [layerKeywords, shapeKeywords, List.cons_append, List.nil_append, List.mem_cons,
      List.not_mem_nil, or_false] at listed
    have checked : ∀ word ∈ shapeKeywords, keyword = word →
        Keyword.check keyword argument value = accept last →
          Settled meaning location fields options extent (keyword :: done) last := by
      rintro word shape rfl ran
      have kept := Keyword.check_value keyword argument value
      rw [ran] at kept
      obtain rfl : last = value := kept
      have apart : ∀ word ∈ shapeKeywords, word ∉ editingKeywords := by decide
      refine settled.keep (apart keyword shape) fun _ argument' found' => ?_
      obtain rfl := Option.some.inj (found.symm.trans found')
      exact ran
    rcases listed with rfl | rfl | rfl | rfl | rfl | rfl | rfl
    · exact checked "type" (by decide) rfl (by simpa [Structure.evaluate] using ran)
    · exact checked "minItems" (by decide) rfl (by simpa [Structure.evaluate] using ran)
    · exact checked "maxItems" (by decide) rfl (by simpa [Structure.evaluate] using ran)
    · refine settled.items_step shaped forms found ?_ ran
      rcases (layered _ (.item found)).isSchema with isObject | ⟨b, rfl⟩
      · cases argument <;> simp_all [Json.isObject, Json.isArray]
      · rfl
    · exact settled.properties_step shaped forms found ran
    · exact settled.required_step shaped found (by simpa [Structure.evaluate] using ran)
    · exact settled.additional_step shaped forms found (layered _ (.additional found)).isSchema ran
  · rw [Structure.evaluate_silent silent, accept_inj] at ran
    subst ran
    have editing : ∀ word ∈ editingKeywords, word ∈ evaluatedKeywords := by decide
    have shaping : ∀ word ∈ shapeKeywords, word ∈ evaluatedKeywords := by decide
    exact settled.keep (fun edits => silent (editing keyword edits))
      fun shape => absurd (shaping keyword shape) silent

/-- The evaluation of several keywords settles them all. -/
theorem settled_run (shaped : Shaped fields)
    (forms : ∀ schema, Below fields schema → (partWith meaning location schema).Forms options extent)
    (layered : ∀ schema, Below fields schema → Layered schema) (known : UsesLayers fields)
    {entries : List (String × Json)} (within : ∀ entry ∈ entries, (Key.text entry.1, entry.2) ∈ fields)
    {done : List String} (settled : Settled meaning location fields options extent done value)
    (ran : chain extent (entries.map fun entry =>
      Structure.evaluate (nodeWith meaning location fields) entry.1
        (argumentWith meaning location entry.2) options extent) value = accept last) :
    ∃ done', (∀ entry ∈ entries, entry.1 ∈ done') ∧ (∀ word ∈ done, word ∈ done') ∧
      Settled meaning location fields options extent done' last := by
  induction entries generalizing done value with
  | nil =>
      obtain rfl := accept_inj.mp ran
      exact ⟨done, by simp, fun _ listed => listed, settled⟩
  | cons entry rest ih =>
      obtain ⟨middle, first, later⟩ := chain_cons_eq_accept.mp ran
      have present := within entry (by simp)
      obtain ⟨done', all, older, settled'⟩ :=
        ih (fun other member => within other (by simp [member]))
          (settled_step shaped forms layered present (known _ _ present) settled first) later
      refine ⟨done', fun other member => ?_, fun word listed => older word (by simp [listed]), settled'⟩
      rcases List.mem_cons.mp member with rfl | member
      · exact older _ (by simp)
      · exact all other member

/-- What is settled for every keyword of a schema object. -/
def SettledAll (meaning : Meaning) (location : String) (fields : List (Key × Json))
    (options : Options) (extent : Extent) (value : Json) : Prop :=
  ∃ done, (∀ keyword argument, (Key.text keyword, argument) ∈ fields → keyword ∈ done) ∧
    Settled meaning location fields options extent done value

theorem SettledAll.leaves (settled : SettledAll meaning location fields options extent value)
    {schema child : Json} (applies : Applies fields value schema child) :
    (partWith meaning location schema).Leaves options extent child := by
  obtain ⟨done, all, settled⟩ := settled
  cases applies with
  | item found there =>
      exact settled.items (all _ _ (Fields.mem_of_get? found)) _ found _ _ there
  | property present there =>
      refine settled.properties ?_ _ present _ there
      cases found : Fields.get? fields "properties" with
      | none => simp [declared, found] at present
      | some argument => exact all _ _ (Fields.mem_of_get? found)
  | additional found other there =>
      exact settled.additional (all _ _ (Fields.mem_of_get? found)) _ found _ other _ there

theorem not_leaves_false {child : Json} :
    ¬ (partWith meaning location (.bool false)).Leaves options extent child := by
  rintro ⟨value, -, entered⟩
  exact absurd entered reject_ne_accept

theorem get?_of_declared (shaped : Shaped fields) {member : Key × Json} (present : member ∈ declared fields) :
    Fields.get? fields "properties" = some (.object (declared fields)) := by
  cases found : Fields.get? fields "properties" with
  | none => simp [declared, found] at present
  | some argument => rw [← shaped.declared_of_get? found]

/-- A schema object in layers evaluates its keywords one after the other. -/
theorem run_layers (known : UsesLayers fields) (meaning : Meaning) (location : String) (options : Options)
    (extent : Extent) (value : Json) :
    (partWith meaning location (.object fields)).run options extent value =
      chain extent ((keywordsOf fields).map fun entry =>
        Structure.evaluate (nodeWith meaning location fields) entry.1
          (argumentWith meaning location entry.2) options extent) value := by
  have alone : Fields.has fields "$ref" = false := by
    rw [Fields.has, get?_of_known known (by decide) (by decide)]
    rfl
  have inForce : ∀ options, optionsIn fields options = .ok options := by
    intro options
    rw [optionsIn, get?_of_known known (by decide) (by decide)]
  simp only [partWith, runNode, inForce, given, evaluateNode_closed _ _ alone]

/-- What a schema object in layers accepts comes out settled for every keyword. -/
theorem settledAll_of_run (shaped : Shaped fields)
    (forms : ∀ schema, Below fields schema → (partWith meaning location schema).Forms options extent)
    (layered : ∀ schema, Below fields schema → Layered schema) (known : UsesLayers fields)
    (formed : value.wellFormed = true)
    (ran : (partWith meaning location (.object fields)).run options extent value = accept last) :
    last.wellFormed = true ∧ SettledAll meaning location fields options extent last := by
  rw [run_layers known] at ran
  obtain ⟨done, all, -, settled⟩ := settled_run shaped forms layered known
    (fun entry member => mem_keywordsOf.mp member) (.start formed) ran
  exact ⟨settled.formed, done, fun keyword argument present => all _ (mem_keywordsOf.mpr present), settled⟩

section

variable {meaning' : Meaning} {location' : String}

/-- Every keyword accepts the value without normalization. -/
def AcceptedPlainly (meaning : Meaning) (location : String) (fields : List (Key × Json)) (extent : Extent)
    (value : Json) : Prop :=
  ∀ entry ∈ keywordsOf fields, Structure.evaluate (nodeWith meaning location fields) entry.1
    (argumentWith meaning location entry.2) .plain extent value = accept value

/-- Where a settled value is accepted, removal has spared what is required: it would have removed it. -/
theorem SettledAll.spares (settled : SettledAll meaning location fields options extent value)
    (accepted : AcceptedPlainly meaning' location' fields extent value) (isObject : value.isObject = true) :
    RemovalSpares options fields := by
  intro removes none names listed name present
  refine Decidable.byContradiction fun other => ?_
  have ran : Structure.required (nodeWith meaning' location' fields) (.array (names.map .string))
      .plain extent value = accept value := by
    simpa [Structure.evaluate] using accepted _ (mem_keywordsOf.mpr (Fields.mem_of_get? listed))
  have there := (Structure.required_plain_iff names).mp ran isObject name present
  obtain ⟨child, there⟩ := Option.isSome_iff_exists.mp there
  exact not_leaves_false (settled.leaves (.additional none other there))

theorem child_of_acceptedPlainly (kept : meaning'.Keeps) (shaped : Shaped fields)
    (layered : ∀ schema, Below fields schema → Layered schema) (formed : value.wellFormed = true)
    (accepted : AcceptedPlainly meaning' location' fields extent value) {child : Json}
    (applies : Applies fields value schema child) :
    (partWith meaning' location' schema).enter .plain extent child = accept child := by
  have evaluated : ∀ keyword argument, Fields.get? fields (.text keyword) = some argument →
      Structure.evaluate (nodeWith meaning' location' fields) keyword
        (argumentWith meaning' location' argument) .plain extent value = accept value :=
    fun keyword argument found => accepted _ (mem_keywordsOf.mpr (Fields.mem_of_get? found))
  cases applies with
  | item found there =>
      exact (Structure.items_plain_iff kept (layered _ (.item found)).notArray).mp (evaluated _ _ found) _
        child there
  | property present there =>
      exact (Structure.properties_plain_iff kept _).mp (evaluated _ _ (get?_of_declared shaped present)) _
        present child there
  | additional found other there =>
      exact (Structure.additionalProperties_plain_iff kept shaped formed
        (layered _ (.additional found)).isSchema).mp (evaluated _ _ found) _ other child there

theorem SettledAll.acceptedPlainly (kept : meaning'.Keeps) (shaped : Shaped fields)
    (known : UsesLayers fields) (layered : ∀ schema, Below fields schema → Layered schema)
    (settled : SettledAll meaning location fields options extent value)
    (spares : value.isObject = true → RemovalSpares options fields)
    (accepted : ∀ schema child, Applies fields value schema child →
      (partWith meaning' location' schema).enter .plain extent child = accept child) :
    AcceptedPlainly meaning' location' fields extent value := by
  rintro ⟨keyword, argument⟩ member
  obtain ⟨done, all, settled⟩ := settled
  have present := mem_keywordsOf.mp member
  have found := shaped.get?_of_mem present
  rcases known keyword argument present with listed | silent
  · have checks := settled.checks keyword
    simp only [layerKeywords, shapeKeywords, List.cons_append, List.nil_append, List.mem_cons,
      List.not_mem_nil, or_false] at listed
    rcases listed with rfl | rfl | rfl | rfl | rfl | rfl | rfl
    · simpa [Structure.evaluate] using checks (by decide) (all _ _ present) argument found
    · simpa [Structure.evaluate] using checks (by decide) (all _ _ present) argument found
    · simpa [Structure.evaluate] using checks (by decide) (all _ _ present) argument found
    · exact (Structure.items_plain_iff kept (layered _ (.item found)).notArray).mpr
        fun i child there => accepted _ _ (.item found there)
    · rw [shaped.declared_of_get? found]
      exact (Structure.properties_plain_iff kept _).mpr
        fun member present child there => accepted _ _ (.property present there)
    · obtain ⟨names, rfl⟩ := shaped.required argument found
      have there := fun isObject => settled.required (all _ _ present) (spares isObject) isObject names
        found
      simpa [Structure.evaluate] using (Structure.required_plain_iff names).mpr there
    · exact (Structure.additionalProperties_plain_iff kept shaped settled.formed
        (layered _ (.additional found)).isSchema).mpr
          fun name other child there => accepted _ _ (.additional found other there)
  · exact Structure.evaluate_silent silent ..

/-- A settled value is accepted without normalization exactly if its children are and removal has spared
what is required. -/
theorem SettledAll.plain_iff (kept : meaning'.Keeps) (shaped : Shaped fields)
    (known : UsesLayers fields) (layered : ∀ schema, Below fields schema → Layered schema)
    (settled : SettledAll meaning location fields options extent value) :
    AcceptedPlainly meaning' location' fields extent value ↔
      (value.isObject = true → RemovalSpares options fields) ∧
        ∀ schema child, Applies fields value schema child →
          (partWith meaning' location' schema).enter .plain extent child = accept child := by
  constructor
  · intro accepted
    have spares := settled.spares accepted
    obtain ⟨done, -, settled⟩ := settled
    exact ⟨spares, fun schema child applies =>
      child_of_acceptedPlainly kept shaped layered settled.formed accepted applies⟩
  · rintro ⟨spares, accepted⟩
    exact settled.acceptedPlainly kept shaped known layered spares accepted

end

/-- What the evaluation of a schema in layers leaves is well formed, and without normalization it is
accepted exactly if removal has spared what is required. -/
def Sound (meaning meaning' : Meaning) (options : Options) (schema : Json) : Prop :=
  ∀ location location' extent value last, value.wellFormed = true →
    (partWith meaning location schema).run options extent value = accept last →
      last.wellFormed = true ∧
        ((partWith meaning' location' schema).run .plain extent last = accept last ↔
          Spared options schema last)

variable {meaning' : Meaning}

theorem Sound.forms (sound : Sound meaning meaning' options schema) (location : String)
    (extent : Extent) : (partWith meaning location schema).Forms options extent := by
  constructor
  · exact fun value converted made => Json.wellFormed_scalar (coerce_flat schema made)
  · intro value last formed entered
    rw [enter_eq_given] at entered
    obtain ⟨inner, -, ran⟩ := given_eq_accept.mp entered
    exact (sound inner inner extent value last formed ran).1

theorem Sound.enter_iff (sound : Sound meaning meaning' options schema) {location location' : String}
    (leaves : (partWith meaning location schema).Leaves options extent last) :
    (partWith meaning' location' schema).enter .plain extent last = accept last ↔
      Spared options schema last := by
  obtain ⟨value, formed, entered⟩ := leaves
  rw [enter_eq_given] at entered ⊢
  obtain ⟨inner, found, ran⟩ := given_eq_accept.mp entered
  rcases enter_either location location' schema with ⟨fault, failed, -⟩ | ⟨_, inner', -, found'⟩
  · simp [found] at failed
  · rw [found', given]
    exact (sound inner inner' extent value last formed ran).2

theorem sound_bool (b : Bool) : Sound meaning meaning' options (.bool b) := by
  intro location location' extent value last formed ran
  cases b with
  | true =>
      obtain rfl := accept_inj.mp ran
      refine ⟨formed, iff_of_true rfl fun fields members meets => ?_⟩
      cases meets
  | false => exact absurd ran reject_ne_accept

theorem sound_leaf (kept : meaning'.Keeps)
    (within : EditsNothing (.object fields)) : Sound meaning meaning' options (.object fields) := by
  intro location location' extent value last formed ran
  have agrees : (partWith meaning location (.object fields)).Agrees (fun _ => True) options
      (partWith meaning' location' (.object fields)) := agrees_of_editsNothing kept within location location'
  rw [agrees.run value trivial] at ran
  have same := (agrees.keeps extent value).1
  rw [ran] at same
  obtain rfl : last = value := same
  refine ⟨formed, iff_of_true ran ?_⟩
  cases within with
  | flat notObject => simp [Json.isObject] at notObject
  | object keys _ =>
      have absent : ∀ keyword ∈ editingKeywords, Fields.get? fields (.text keyword) = none := by
        intro keyword editing
        exact get?_of_notAllowed keys (by simp [editing])
      have noItems := absent "items" (by decide)
      have noProperties := absent "properties" (by decide)
      have noAdditional := absent "additionalProperties" (by decide)
      refine spared_object.mpr ⟨fun _ _ found => ?_, fun schema child applies => ?_⟩
      · simp [noAdditional] at found
      · cases applies with
        | item found _ => simp [noItems] at found
        | property present _ => simp [declared, noProperties] at present
        | additional found _ _ => simp [noAdditional] at found

theorem sound_of_layered (kept : meaning'.Keeps) (layered : Layered schema) :
    schema.wellFormed = true → Metaschema.Passes schema → Sound meaning meaning' options schema := by
  induction layered with
  | bool b => exact fun _ _ => sound_bool b
  | leaf within => exact fun _ _ => sound_leaf kept within
  | @node fields known below ih =>
      intro formed passes location location' extent value last formedValue ran
      have shaped := shaped_of_passes known formed passes
      have sound : ∀ schema, Below fields schema → Sound meaning meaning' options schema := by
        intro schema inside
        obtain ⟨formed', passes'⟩ := inside.sound (below schema inside).notArray formed passes
        exact ih schema inside formed' passes'
      have forms := fun schema inside => (sound schema inside).forms location extent
      obtain ⟨formedLast, settledAll⟩ := settledAll_of_run shaped forms below known formedValue ran
      refine ⟨formedLast, ?_⟩
      rw [run_layers known, chain_eq_accept_iff, spared_object]
      · simp only [true_and, List.mem_map, forall_exists_index, and_imp, forall_apply_eq_imp_iff₂]
        rw [← AcceptedPlainly, settledAll.plain_iff kept shaped known below]
        refine and_congr_right fun _ => forall₂_congr fun schema child => ?_
        exact forall_congr' fun applies =>
          (sound schema applies.below).enter_iff (settledAll.leaves applies)
      · simp only [List.mem_map, forall_exists_index, and_imp, forall_apply_eq_imp_iff₂]
        intro entry _
        exact Structure.evaluate_plain_value (argumentWith_keep kept entry.2 location')
          (fun other listed => (nodeWith_keep kept location' other listed).self) _ _

end Evaluation

namespace Validation

/-- A normalized value is accepted without normalization exactly if, wherever a schema object that removes
undeclared properties meets an object in it, all that is required is declared. -/
theorem normalized_accepted_iff {options : Options} {schema value result : Json}
    (layered : Layered schema) (checked : Metaschema.isSchema schema = true)
    (distinct : schema.wellFormed = true) (formed : value.wellFormed = true)
    (validated : (validate options schema value).verdict = .valid result) :
    Accepts schema result ↔ Spared options schema result := by
  obtain ⟨root, coerced, ended⟩ := validate_eq_valid.mp validated
  have leaves := leavesOptions_of_silent layered.namesNoMetaschema
  rw [rootOutcome, evaluateRoot_eq_run (leaves options)] at ended
  rw [accepts_iff, rootOutcome, evaluateRoot_eq_run (leaves .plain)]
  have passes := Metaschema.passes_of_isSchema checked
  exact (sound_of_layered (meaningIn_partIn_keeps _ _) layered distinct passes _ _ _ _ _
    (coerceRoot_formed formed coerced) ended).2

/-- Objects with a required property that nothing declares, and without undeclared properties. -/
def undeclaredRequirement : Json :=
  .object [("type", .string "object"), ("required", .array [.string "x"]),
    ("additionalProperties", .bool false)]

theorem layered_undeclaredRequirement : Layered undeclaredRequirement := by
  refine .node ?_ ?_
  · intro keyword argument present
    simp only [List.mem_cons, Prod.mk.injEq, Key.text.injEq, List.not_mem_nil, or_false] at present
    rcases present with ⟨rfl, -⟩ | ⟨rfl, -⟩ | ⟨rfl, -⟩ <;> exact .inl (by decide)
  · rintro schema (⟨⟨⟩⟩ | ⟨⟨⟩⟩ | ⟨⟨⟩⟩)
    exact .bool false

/-- Removal takes away what has just been found to be there. -/
theorem removed_requirement :
    Layered undeclaredRequirement ∧ Metaschema.isSchema undeclaredRequirement = true ∧
      (validate .all undeclaredRequirement (.object [("x", .int 1)])).verdict = .valid (.object []) ∧
        ¬ Accepts undeclaredRequirement (.object []) := by
  refine ⟨layered_undeclaredRequirement, rfl, ?_, ?_⟩
  · exact validate_eq_valid.mpr ⟨_, coerceRoot_container rfl, rfl⟩
  · intro accepted
    have invalid : (rootOutcome .plain undeclaredRequirement (.object [])).isValid = false := rfl
    rw [accepts_iff.mp accepted] at invalid
    exact absurd invalid (by decide)

/-- Objects with one property, which is required, declared and has a default. -/
def declaredRequirement : Json :=
  .object [("type", .string "object"), ("required", .array [.string "a"]),
    ("properties", .object [("a", .object [("type", .string "integer"), ("default", .int 0)])]),
    ("additionalProperties", .bool false)]

theorem layered_declaredRequirement : Layered declaredRequirement := by
  refine .node ?_ ?_
  · intro keyword argument present
    simp only [List.mem_cons, Prod.mk.injEq, Key.text.injEq, List.not_mem_nil, or_false] at present
    rcases present with ⟨rfl, -⟩ | ⟨rfl, -⟩ | ⟨rfl, -⟩ | ⟨rfl, -⟩ <;> exact .inl (by decide)
  · rintro schema (⟨⟨⟩⟩ | ⟨⟨⟩⟩ | ⟨⟨⟩⟩)
    · refine .leaf (.object ?_ ?_)
      · intro keyword argument present
        simp only [List.mem_cons, Prod.mk.injEq, Key.text.injEq, List.not_mem_nil, or_false] at present
        rcases present with ⟨rfl, -⟩ | ⟨rfl, -⟩ <;> decide
      · intro keyword argument present
        simp only [List.mem_cons, Prod.mk.injEq, Key.text.injEq, List.not_mem_nil, or_false] at present
        rcases present with ⟨rfl, -⟩ | ⟨rfl, -⟩ <;> exact fun schema held => by cases held
    · rename_i later
      cases later
    · exact .bool false

/-- The default is filled in before the property is required, and the undeclared one is removed. -/
theorem declaredRequirement_accepts :
    (validate .all declaredRequirement (.object [("b", .null)])).verdict =
        .valid (.object [("a", .int 0)]) ∧
      Accepts declaredRequirement (.object [("a", .int 0)]) := by
  have validated : (validate .all declaredRequirement (.object [("b", .null)])).verdict =
      .valid (.object [("a", .int 0)]) :=
    validate_eq_valid.mpr ⟨_, coerceRoot_container rfl, rfl⟩
  refine ⟨validated, (normalized_accepted_iff layered_declaredRequirement rfl (by decide)
    (by decide) validated).mpr ?_⟩
  refine spared_object.mpr ⟨fun _ _ _ names listed name present => ?_, fun schema child applies => ?_⟩
  · have same : [Json.string "a"] = names.map .string := Json.array.inj (Option.some.inj listed)
    have among : Json.string name ∈ [Json.string "a"] := same ▸ List.mem_map_of_mem present
    obtain rfl : name = "a" := by simpa using among
    decide
  · have zero : ∀ key, (Json.object [("a", .int 0)]).child? (.member (.text key)) = some child →
        key = "a" ∧ child = .int 0 := by
      intro key there
      rw [Json.child?_text, Fields.get?_cons] at there
      split at there
      · next same => exact ⟨(Key.text.inj same).symm, (Option.some.inj there).symm⟩
      · simp at there
    cases applies with
    | item found _ => cases found
    | property present there =>
        obtain rfl := List.mem_singleton.mp present
        rw [(zero "a" there).2]
        exact spared_scalar rfl rfl
    | additional _ other there =>
        rw [(zero _ there).1] at other
        exact absurd (by decide) other

end Validation

end SchemaAlgebra
