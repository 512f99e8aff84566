import SchemaAlgebra.Proofs.Validation.Rewriting

/-!
What holds of a value after some keywords of a schema object were evaluated and accepted it: each of them
is settled, and no later keyword unsettles it. Children that a keyword evaluated are left as they came out
of that evaluation, since the other keywords work on other children; defaults that were filled in stay; and
what was required stays, unless a property that is required is removed because nothing declares it.
-/

namespace SchemaAlgebra

open Outcome Evaluation Schema

/-- Where undeclared properties are removed, everything that is required is declared. -/
def RemovalSpares (options : Options) (fields : List (Key × Json)) : Prop :=
  options.removeAdditional = true →
    Fields.get? fields "additionalProperties" = some (.bool false) →
      ∀ names : List String, Fields.get? fields "required" = some (.array (names.map .string)) →
        ∀ name ∈ names, .text name ∈ declaredNames fields

/-- What is known of a value when the keywords that are done have accepted it. -/
structure Settled (meaning : Meaning) (location : String) (fields : List (Key × Json))
    (options : Options) (extent : Extent) (done : List String) (value : Json) : Prop where
  formed : value.wellFormed = true
  checks : ∀ keyword ∈ shapeKeywords, keyword ∈ done → ∀ argument,
    Fields.get? fields (.text keyword) = some argument →
      Keyword.check keyword argument value = accept value
  items : "items" ∈ done → ∀ schema, Fields.get? fields "items" = some schema →
    ∀ i child, value.child? (.index i) = some child →
      (partWith meaning location schema).Leaves options extent child
  properties : "properties" ∈ done → ∀ member ∈ declared fields, ∀ child,
    value.child? (.member member.1) = some child →
      (partWith meaning location member.2).Leaves options extent child
  filled : "properties" ∈ done → options.useDefaults = true → value.isObject = true →
    Complete (memberPartsWith meaning location (declared fields)) value
  additional : "additionalProperties" ∈ done → ∀ schema,
    Fields.get? fields "additionalProperties" = some schema →
      ∀ name, .text name ∉ declaredNames fields → ∀ child,
        value.child? (.member (.text name)) = some child →
          (partWith meaning location schema).Leaves options extent child
  required : "required" ∈ done → RemovalSpares options fields → value.isObject = true →
    ∀ names : List String, Fields.get? fields "required" = some (.array (names.map .string)) →
      ∀ name ∈ names, (value.child? (.member (.text name))).isSome = true

/-- The subschemas that a schema object has for the children of a value. -/
inductive Schema.Below (fields : List (Key × Json)) : Json → Prop
  | item {schema : Json} : Fields.get? fields "items" = some schema → Below fields schema
  | property {member : Key × Json} : member ∈ declared fields → Below fields member.2
  | additional {schema : Json} :
      Fields.get? fields "additionalProperties" = some schema → Below fields schema

namespace Settled

variable {meaning : Meaning} {location : String} {fields : List (Key × Json)} {options : Options}
  {extent : Extent} {done : List String} {before after : Json}

theorem start (formed : before.wellFormed = true) :
    Settled meaning location fields options extent [] before := by
  constructor <;> simp [formed]

theorem isObject_of_member {value child : Json} {key : Key}
    (found : value.child? (.member key) = some child) : value.isObject = true := by
  cases value <;> simp_all [Json.child?, Json.get?, Json.isObject]

theorem declared_textual (shaped : Shaped fields) {member : Key × Json}
    (present : member ∈ declared fields) : ∃ name, member.1 = .text name :=
  ((Json.wellFormed_object _).mp shaped.declared_formed).1 member present

theorem mem_declaredNames {member : Key × Json} (present : member ∈ declared fields) :
    member.1 ∈ declaredNames fields :=
  List.mem_map_of_mem present

/-- A keyword about objects settles what is no object. -/
theorem other (settled : Settled meaning location fields options extent done before)
    (notObject : before.isObject = false) {keyword : String}
    (about : keyword = "properties" ∨ keyword = "required" ∨ keyword = "additionalProperties") :
    Settled meaning location fields options extent (keyword :: done) before := by
  have noMember : ∀ key child, before.child? (.member key) ≠ some child := by
    intro key child found
    simp [isObject_of_member found] at notObject
  have older : ∀ word, word ≠ "properties" → word ≠ "required" → word ≠ "additionalProperties" →
      word ∈ keyword :: done → word ∈ done := by
    intro word first second third listed
    rcases List.mem_cons.mp listed with rfl | listed
    · rcases about with rfl | rfl | rfl <;> contradiction
    · exact listed
  refine ⟨settled.formed, ?_, ?_, ?_, ?_, ?_, ?_⟩
  · intro word shape listed
    refine settled.checks word shape (older word ?_ ?_ ?_ listed) <;> rintro rfl <;>
      simp [shapeKeywords] at shape
  · exact fun listed => settled.items (older _ (by decide) (by decide) (by decide) listed)
  · exact fun _ member _ child found => absurd found (noMember _ child)
  · exact fun _ _ isObject => by simp [isObject] at notObject
  · exact fun _ _ _ name _ child found => absurd found (noMember _ child)
  · exact fun _ _ isObject => by simp [isObject] at notObject

/-- A keyword that edits nothing and looks at no child settles what it leaves. -/
theorem keep (settled : Settled meaning location fields options extent done before) {keyword : String}
    (edits : keyword ∉ editingKeywords)
    (accepted : keyword ∈ shapeKeywords → ∀ argument,
      Fields.get? fields (.text keyword) = some argument →
        Keyword.check keyword argument before = accept before) :
    Settled meaning location fields options extent (keyword :: done) before := by
  have older : ∀ word ∈ editingKeywords, word ∈ keyword :: done → word ∈ done := by
    intro word editing listed
    rcases List.mem_cons.mp listed with rfl | listed
    · contradiction
    · exact listed
  refine ⟨settled.formed, ?_, ?_, ?_, ?_, ?_, ?_⟩
  · intro word shape listed
    rcases List.mem_cons.mp listed with rfl | listed
    · exact accepted shape
    · exact settled.checks word shape listed
  · exact fun listed => settled.items (older _ (by decide) listed)
  · exact fun listed => settled.properties (older _ (by decide) listed)
  · exact fun listed => settled.filled (older _ (by decide) listed)
  · exact fun listed => settled.additional (older _ (by decide) listed)
  · exact fun listed => settled.required (older _ (by decide) listed)

/-- A keyword that edits leaves what the keywords about shapes have accepted. -/
theorem checks_cons (settled : Settled meaning location fields options extent done before)
    {keyword : String} (edits : keyword ∉ shapeKeywords) (shape : Json.SameShape before after) :
    ∀ word ∈ shapeKeywords, word ∈ keyword :: done → ∀ argument,
      Fields.get? fields (.text word) = some argument →
        Keyword.check word argument after = accept after := by
  intro word known listed argument found
  rcases List.mem_cons.mp listed with rfl | listed
  · contradiction
  · exact Keyword.check_sameShape known shape (settled.checks word known listed argument found)

theorem fillable (meaning : Meaning) (location : String) (shaped : Shaped fields) :
    Fillable (memberPartsWith meaning location (declared fields)) := by
  obtain ⟨textual, -, values⟩ := (Json.wellFormed_object _).mp shaped.declared_formed
  rw [memberPartsWith_eq_map]
  constructor
  · intro member present
    obtain ⟨entry, listed, rfl⟩ := List.mem_map.mp present
    exact textual entry listed
  · intro member present default found
    obtain ⟨entry, listed, rfl⟩ := List.mem_map.mp present
    simp only [partWith_schema] at found
    have there : entry.2.child? (.member "default") = some default := found
    exact Json.wellFormed_child (values entry listed) there

theorem memberPartsWith_names (members : List (Key × Json)) :
    (memberPartsWith meaning location members).map Prod.fst = Fields.keys members := by
  rw [memberPartsWith_eq_map, List.map_map]
  rfl

theorem declared_of_memberPart (shaped : Shaped fields) {member : Key × Part}
    (present : member ∈ memberPartsWith meaning location (declared fields)) :
    ∃ name, member.1 = .text name ∧ .text name ∈ declaredNames fields := by
  obtain ⟨name, named⟩ := (fillable meaning location shaped).names member present
  have inside : member.1 ∈ (memberPartsWith meaning location (declared fields)).map Prod.fst :=
    List.mem_map_of_mem present
  rw [memberPartsWith_names, named] at inside
  exact ⟨name, named, inside⟩

theorem sameEntries_steps (steps : List Step) (part : Part) :
    (sameEntries steps part).map Prod.fst = steps := by
  rw [sameEntries, List.map_map]
  exact List.map_id _

/-- An object with the defaults of its declared properties, if they are asked for. -/
theorem filled_of_defaults (meaning : Meaning) (location : String) (options : Options)
    (shaped : Shaped fields) (formed : before.wellFormed = true)
    (isObject : before.isObject = true) {filled : Json}
    (same : filled = if options.useDefaults then
      fillDefaults (memberPartsWith meaning location (declared fields)) before else before) :
    Filled (declaredNames fields) before filled ∧ (options.useDefaults = true →
      Complete (memberPartsWith meaning location (declared fields)) filled) := by
  cases defaults : options.useDefaults with
  | true =>
      simp only [defaults, if_true] at same
      subst same
      refine ⟨?_, fun _ => fillDefaults_complete (fillable meaning location shaped) formed isObject⟩
      have made := fillDefaults_filled (fillable meaning location shaped) formed
      rwa [memberPartsWith_names] at made
  | false =>
      simp only [defaults, Bool.false_eq_true, if_false] at same
      subst same
      exact ⟨.refl formed, by simp⟩

theorem undeclared_step {name : String} (undeclared : .text name ∉ declaredNames fields) :
    ∀ key ∈ declaredNames fields, Step.member (.text name) ≠ .member key := by
  rintro key listed same
  exact undeclared (Step.member.inj same ▸ listed)

theorem memberEntries_steps (meaning : Meaning) (location : String) (fields : List (Key × Json)) :
    (memberEntries meaning location (declared fields)).map Prod.fst =
      (declaredNames fields).map .member := by
  simp [memberEntries, declaredNames, Fields.keys]

theorem memberEntries_exact (meaning : Meaning) (location : String) (shaped : Shaped fields) :
    ∀ entry ∈ memberEntries meaning location (declared fields), Json.IsExact entry.1 := by
  intro entry listed
  obtain ⟨member, present, rfl⟩ := List.mem_map.mp listed
  obtain ⟨name, named⟩ := declared_textual shaped present
  exact named ▸ .text name

theorem memberEntries_distinct (meaning : Meaning) (location : String) (shaped : Shaped fields) :
    ((memberEntries meaning location (declared fields)).map Prod.fst).Nodup := by
  rw [memberEntries_steps]
  exact List.Pairwise.map Step.member (fun _ _ other same => other (Step.member.inj same))
    ((Json.wellFormed_object _).mp shaped.declared_formed).2.1

theorem properties_step (shaped : Shaped fields)
    (forms : ∀ schema, Below fields schema → (partWith meaning location schema).Forms options extent)
    (settled : Settled meaning location fields options extent done before) {argument : Json}
    (found : Fields.get? fields "properties" = some argument)
    (ran : Structure.properties (argumentWith meaning location argument) options extent before =
      accept after) :
    Settled meaning location fields options extent ("properties" :: done) after := by
  cases isObject : before.isObject with
  | false =>
      simp only [Structure.properties, isObject, Bool.false_eq_true, if_false, accept_inj] at ran
      exact ran ▸ settled.other isObject (.inl rfl)
  | true =>
      rw [shaped.declared_of_get? found, Structure.properties_eq _ isObject] at ran
      obtain ⟨filled, complete⟩ := filled_of_defaults meaning location options shaped settled.formed
        isObject rfl
      have steps := memberEntries_steps meaning location fields
      have touched := editing_touched (memberEntries_exact meaning location shaped)
        (memberEntries_distinct meaning location shaped) (fun entry listed => by
        obtain ⟨member, present, rfl⟩ := List.mem_map.mp listed
        exact forms _ (.property present)) filled.formed ran
      have shape := filled.shape.trans touched.shape
      have isObject' : after.isObject = true := shape.isObject.trans isObject
      refine ⟨touched.formed, ?_, ?_, ?_, ?_, ?_, ?_⟩
      · exact settled.checks_cons (by decide) shape
      · intro _ schema _ i child there
        cases after <;> simp [Json.child?, Json.isObject] at there isObject'
      · intro _ member present child there
        obtain ⟨-, -, left⟩ := touched.each _ (List.mem_map_of_mem present) child there
        exact left
      · intro _ defaults _ member present hasDefault
        obtain ⟨name, named⟩ := (fillable meaning location shaped).names member present
        rw [named, touched.present _ (.text name), ← named]
        exact complete defaults member present hasDefault
      · intro listed schema found' name other child there
        rw [touched.others _ (.text name), filled.others _ (.text name) (undeclared_step other)] at there
        · exact settled.additional (by simpa using listed) schema found' name other child there
        · rw [steps, List.mem_map]
          rintro ⟨key, listed', same⟩
          exact undeclared_step other key listed' same.symm
      · intro listed spares _ names found' name present
        obtain ⟨child, there⟩ := Option.isSome_iff_exists.mp
          (settled.required (by simpa using listed) spares isObject names found' name present)
        rw [touched.present _ (.text name), filled.kept _ (.text name) child there]
        rfl

theorem required_step (shaped : Shaped fields)
    (settled : Settled meaning location fields options extent done before) {argument : Json}
    (found : Fields.get? fields "required" = some argument)
    (ran : Structure.required (nodeWith meaning location fields) argument options extent before =
      accept after) :
    Settled meaning location fields options extent ("required" :: done) after := by
  cases isObject : before.isObject with
  | false =>
      simp only [Structure.required, isObject, Bool.false_eq_true, if_false, accept_inj] at ran
      exact ran ▸ settled.other isObject (.inr (.inl rfl))
  | true =>
      obtain ⟨names, rfl⟩ := shaped.required argument found
      obtain ⟨same, there⟩ := (Structure.required_eq_accept names isObject).mp ran
      obtain ⟨filled, -⟩ := filled_of_defaults meaning location options shaped settled.formed
        isObject same
      -- once `properties` is done nothing is left to fill in
      have unchanged : "properties" ∈ done → after = before := by
        intro listed
        cases defaults : options.useDefaults with
        | true =>
            simp only [defaults, if_true] at same
            rw [same, fillDefaults_of_complete (settled.filled listed defaults isObject)]
        | false => simpa [defaults] using same
      have isObject' : after.isObject = true := filled.shape.isObject.trans isObject
      refine ⟨filled.formed, ?_, ?_, ?_, ?_, ?_, ?_⟩
      · exact settled.checks_cons (by decide) filled.shape
      · intro _ schema _ i child there
        cases after <;> simp [Json.child?, Json.isObject] at there isObject'
      · intro listed
        have listed' : "properties" ∈ done := by simpa using listed
        exact unchanged listed' ▸ settled.properties listed'
      · intro listed
        have listed' : "properties" ∈ done := by simpa using listed
        exact unchanged listed' ▸ settled.filled listed'
      · intro listed schema found' name other child there'
        rw [filled.others _ (.text name) (undeclared_step other)] at there'
        exact settled.additional (by simpa using listed) schema found' name other child there'
      · intro _ _ _ names' found' name present
        obtain rfl : names' = names := by
          have equal := Json.array.inj (Option.some.inj (found'.symm.trans found))
          exact (List.map_inj_right fun _ _ => Json.string.inj).mp equal
        exact there name present

/-- An object whose undeclared properties were looked at: they are left as their schema may leave them,
and only removal takes any away. -/
structure Sifted (fields : List (Key × Json)) (left : Json → Prop) (removed : Prop)
    (before after : Json) : Prop where
  shape : Json.SameShape before after
  formed : after.wellFormed = true
  declared : ∀ name, .text name ∈ declaredNames fields →
    after.child? (.member (.text name)) = before.child? (.member (.text name))
  undeclared : ∀ name, .text name ∉ declaredNames fields → ∀ child,
    after.child? (.member (.text name)) = some child → left child
  stays : ¬ removed → ∀ name, (before.child? (.member (.text name))).isSome = true →
    (after.child? (.member (.text name))).isSome = true

theorem sifted_object (shaped : Shaped fields) (formed : before.wellFormed = true)
    (isObject : before.isObject = true) {schema : Json} (isSchema : schema.isObject = true)
    (forms : (partWith meaning location schema).Forms options extent)
    (ran : Structure.additionalProperties (nodeWith meaning location fields)
      (partWith meaning location schema) options extent before = accept after) :
    Sifted fields ((partWith meaning location schema).Leaves options extent)
      (options.removeAdditional = true ∧ schema = .bool false) before after := by
  rw [Structure.additionalProperties_object shaped isSchema formed isObject] at ran
  have entries : ∀ entry ∈ sameEntries ((undeclared fields before).map .member)
      (partWith meaning location schema), entry.2 = partWith meaning location schema ∧
        ∃ name, entry.1 = .member (.text name) ∧ .text name ∉ declaredNames fields := by
    intro entry member
    obtain ⟨step, within, rfl⟩ := List.mem_map.mp member
    obtain ⟨key, inside, rfl⟩ := List.mem_map.mp within
    obtain ⟨present, other⟩ := List.mem_filter.mp inside
    obtain ⟨name, rfl⟩ := Json.namesOf_text formed present
    exact ⟨rfl, name, rfl, by simpa using other⟩
  have distinct : ((sameEntries ((undeclared fields before).map .member)
      (partWith meaning location schema)).map Prod.fst).Nodup := by
    rw [sameEntries_steps]
    exact List.Pairwise.map Step.member (fun _ _ other same => other (Step.member.inj same))
      ((Json.namesOf_nodup formed).sublist List.filter_sublist)
  have touched := editing_touched (fun entry member => by
    obtain ⟨-, name, named, -⟩ := entries entry member
    exact named ▸ .text name) distinct (fun entry member => (entries entry member).1 ▸ forms) formed ran
  refine ⟨touched.shape, touched.formed, ?_, ?_, ?_⟩
  · intro name declared
    refine touched.others _ (.text name) fun member => ?_
    obtain ⟨entry, within, same⟩ := List.mem_map.mp member
    obtain ⟨-, name', named, other⟩ := entries entry within
    rw [named] at same
    exact other (Step.member.inj same ▸ declared)
  · intro name other child there
    have present : (before.child? (.member (.text name))).isSome = true := by
      rw [← touched.present _ (.text name), there]
      rfl
    obtain ⟨old, there'⟩ := Option.isSome_iff_exists.mp present
    obtain ⟨-, -, left⟩ := touched.each (.member (.text name), partWith meaning location schema)
      (List.mem_map_of_mem (List.mem_map_of_mem (Json.text_mem_undeclared other there'))) child there
    exact left
  · intro _ name present
    rwa [touched.present _ (.text name)]

theorem sifted_true (shaped : Shaped fields) (formed : before.wellFormed = true)
    (ran : Structure.additionalProperties (nodeWith meaning location fields)
      (partWith meaning location (.bool true)) options extent before = accept after) (removed : Prop) :
    Sifted fields ((partWith meaning location (.bool true)).Leaves options extent) removed
      before after := by
  rw [Structure.additionalProperties_true shaped formed, accept_inj] at ran
  subst ran
  refine ⟨.same _, formed, fun _ _ => rfl, ?_, fun _ _ present => present⟩
  intro name _ child there
  exact ⟨child, Json.wellFormed_child formed there, rfl⟩

theorem sifted_false (shaped : Shaped fields) (formed : before.wellFormed = true)
    (isObject : before.isObject = true)
    (ran : Structure.additionalProperties (nodeWith meaning location fields)
      (partWith meaning location (.bool false)) options extent before = accept after)
    (left : Json → Prop) :
    Sifted fields left (options.removeAdditional = true ∧ Json.bool false = .bool false)
      before after := by
  rcases (Structure.additionalProperties_false shaped (fun _ => Json.namesOf_text formed) isObject).mp ran with
    ⟨removes, rfl⟩ | ⟨leaves, rfl, empty⟩
  · refine ⟨Structure.removeNames_shape, Structure.removeNames_formed formed, ?_, ?_, ?_⟩
    · intro name declared
      rw [Structure.child?_removeNames, if_neg]
      simp [undeclared, declared]
    · intro name other child there
      rw [Structure.child?_removeNames] at there
      split at there
      · simp at there
      · next unlisted => exact absurd (Json.text_mem_undeclared other there) unlisted
    · exact fun kept => absurd ⟨removes, rfl⟩ kept
  · refine ⟨.same _, formed, fun _ _ => rfl, ?_, fun _ _ present => present⟩
    intro name other child there
    have within := Json.text_mem_undeclared other there
    simp [empty] at within

theorem additional_step (shaped : Shaped fields)
    (forms : ∀ schema, Below fields schema → (partWith meaning location schema).Forms options extent)
    (settled : Settled meaning location fields options extent done before) {schema : Json}
    (found : Fields.get? fields "additionalProperties" = some schema)
    (isSchema : schema.isObject = true ∨ ∃ b, schema = .bool b)
    (ran : Structure.additionalProperties (nodeWith meaning location fields)
      (partWith meaning location schema) options extent before = accept after) :
    Settled meaning location fields options extent ("additionalProperties" :: done) after := by
  cases isObject : before.isObject with
  | false =>
      simp only [Structure.additionalProperties, isObject, Bool.false_eq_true, if_false,
        accept_inj] at ran
      exact ran ▸ settled.other isObject (.inr (.inr rfl))
  | true =>
      have sifted : Sifted fields ((partWith meaning location schema).Leaves options extent)
          (options.removeAdditional = true ∧ schema = .bool false) before after := by
        rcases isSchema with isSchema | ⟨_ | _, rfl⟩
        · exact sifted_object shaped settled.formed isObject isSchema (forms _ (.additional found)) ran
        · exact sifted_false shaped settled.formed isObject ran _
        · exact sifted_true shaped settled.formed ran _
      have isObject' : after.isObject = true := sifted.shape.isObject.trans isObject
      refine ⟨sifted.formed, ?_, ?_, ?_, ?_, ?_, ?_⟩
      · exact settled.checks_cons (by decide) sifted.shape
      · intro _ schema' _ i child there
        cases after <;> simp [Json.child?, Json.isObject] at there isObject'
      · intro listed member present child there
        obtain ⟨name, named⟩ := declared_textual shaped present
        rw [named, sifted.declared name (named ▸ mem_declaredNames present), ← named] at there
        exact settled.properties (by simpa using listed) member present child there
      · intro listed defaults _ member present hasDefault
        obtain ⟨name, named, declared⟩ := declared_of_memberPart shaped present
        have before' := settled.filled (by simpa using listed) defaults isObject member present hasDefault
        rw [named] at before' ⊢
        rwa [sifted.declared name declared]
      · intro _ schema' found' name other child there
        obtain rfl := Option.some.inj (found.symm.trans found')
        exact sifted.undeclared name other child there
      · intro listed spares _ names found' name present
        have before' := settled.required (by simpa using listed) spares isObject names found' name present
        by_cases removed : options.removeAdditional = true ∧ schema = .bool false
        · obtain ⟨removes, rfl⟩ := removed
          rwa [sifted.declared name (spares removes found names found' name present)]
        · exact sifted.stays removed name before'

/-- What `items` with one schema makes of a value: the items are left as the schema leaves them, and the
members stay. -/
theorem items_edited {schema : Json} (forms : (partWith meaning location schema).Forms options extent)
    (formed : before.wellFormed = true) (single : schema.isArray = false)
    (ran : Structure.items (argumentWith meaning location schema) options extent before = accept after) :
    Json.SameShape before after ∧ after.wellFormed = true ∧
      (∀ name, after.child? (.member (.text name)) = before.child? (.member (.text name))) ∧
        ∀ i child, after.child? (.index i) = some child →
          (partWith meaning location schema).Leaves options extent child := by
  rw [Structure.items_eq single] at ran
  have entries : ∀ entry ∈ sameEntries ((List.range (Structure.itemCount before)).map .index)
      (partWith meaning location schema), entry.2 = partWith meaning location schema ∧
        ∃ i, entry.1 = .index i := by
    intro entry member
    obtain ⟨step, within, rfl⟩ := List.mem_map.mp member
    obtain ⟨i, -, rfl⟩ := List.mem_map.mp within
    exact ⟨rfl, i, rfl⟩
  have exactly : ∀ entry ∈ sameEntries ((List.range (Structure.itemCount before)).map .index)
      (partWith meaning location schema), Json.IsExact entry.1 := by
    intro entry member
    obtain ⟨-, i, named⟩ := entries entry member
    exact named ▸ .index i
  have distinct : ((sameEntries ((List.range (Structure.itemCount before)).map .index)
      (partWith meaning location schema)).map Prod.fst).Nodup := by
    rw [sameEntries_steps]
    exact List.Pairwise.map Step.index (fun _ _ other same => other (Step.index.inj same))
      List.nodup_range
  have touched := editing_touched exactly distinct
    (fun entry member => (entries entry member).1 ▸ forms) formed ran
  refine ⟨touched.shape, touched.formed, fun name => ?_, fun i child there => ?_⟩
  · refine touched.others _ (.text name) fun member => ?_
    rw [sameEntries_steps] at member
    simp at member
  · have present : (before.child? (.index i)).isSome = true := by
      rw [← touched.present _ (.index i), there]
      rfl
    have inside : i < Structure.itemCount before := by
      cases before <;> simp_all [Json.child?, Structure.itemCount]
    obtain ⟨-, -, left⟩ := touched.each (.index i, partWith meaning location schema)
      (List.mem_map_of_mem (List.mem_map_of_mem (List.mem_range.mpr inside))) child there
    exact left

theorem items_step (shaped : Shaped fields)
    (forms : ∀ schema, Below fields schema → (partWith meaning location schema).Forms options extent)
    (settled : Settled meaning location fields options extent done before) {schema : Json}
    (found : Fields.get? fields "items" = some schema) (single : schema.isArray = false)
    (ran : Structure.items (argumentWith meaning location schema) options extent before =
      accept after) :
    Settled meaning location fields options extent ("items" :: done) after := by
  obtain ⟨shape, formed, same, left⟩ := items_edited (forms _ (.item found)) settled.formed single ran
  have older : ∀ word, word ≠ "items" → word ∈ "items" :: done → word ∈ done := by
    intro word other listed
    simpa [other] using listed
  refine ⟨formed, ?_, ?_, ?_, ?_, ?_, ?_⟩
  · exact settled.checks_cons (by decide) shape
  · intro _ schema' found' i child there
    obtain rfl := Option.some.inj (found.symm.trans found')
    exact left i child there
  · intro listed member present child there
    obtain ⟨name, named⟩ := declared_textual shaped present
    rw [named, same, ← named] at there
    exact settled.properties (older _ (by decide) listed) member present child there
  · intro listed defaults isObject member present hasDefault
    rw [shape.isObject] at isObject
    obtain ⟨name, named⟩ := (fillable meaning location shaped).names member present
    have before' := settled.filled (older _ (by decide) listed) defaults isObject member present hasDefault
    rw [named] at before' ⊢
    rwa [same]
  · intro listed schema' found' name other child there
    rw [same] at there
    exact settled.additional (older _ (by decide) listed) schema' found' name other child there
  · intro listed spares isObject names found' name present
    rw [shape.isObject] at isObject
    rw [same]
    exact settled.required (older _ (by decide) listed) spares isObject names found' name present

end Settled

end SchemaAlgebra
