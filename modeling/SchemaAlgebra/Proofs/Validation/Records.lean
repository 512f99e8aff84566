import SchemaAlgebra.Proofs.Builder.Properties
import SchemaAlgebra.Proofs.Json.Sorting
import SchemaAlgebra.Proofs.Schema.Rules
import SchemaAlgebra.Proofs.Validation.Naming
import SchemaAlgebra.Proofs.Validation.Normalization
import SchemaAlgebra.Proofs.Validation.Rearranging
import SchemaAlgebra.Proofs.Validation.Rows

/-!
Closed records: object schemas that say which properties there are and which of them are required, and allow no
others. What validation makes of a property depends only on what is seen of it, which is its value or else its
default, and on its own schema. Each keyword keeps this true of the properties that were not settled yet and settles
those that it is about; so whatever the order of the keywords, a record is made exactly if every property that is
seen can be settled and none that is required is missing.
-/

namespace SchemaAlgebra

open Outcome Evaluation Schema
open Json (IsExact SameShape child?)

namespace Schema

/-- The keywords of closed records. -/
def recordKeywords : List String := ["type", "properties", "required", "additionalProperties"]

/-- A schema of objects with certain properties, some of them required, and no others, that has no keywords besides
but annotations, and no references in the schemas of its properties. The names that it requires are written as their
code points are. -/
structure ClosedRecord (fields : List (Key × Json)) : Prop where
  formed : (Json.object fields).wellFormed = true
  isSchema : Metaschema.isSchema (.object fields) = true
  type : Fields.get? fields "type" = some (.string "object")
  closed : Fields.get? fields "additionalProperties" = some (.bool false)
  only : ∀ keyword argument, (Key.text keyword, argument) ∈ fields →
    keyword ∈ recordKeywords ∨ keyword ∉ evaluatedKeywords
  unreferring : ∀ member ∈ declared fields, Reference.count "$ref" member.2 = 0
  written : ∀ name ∈ Property.requiredNames fields, Text.Written name

variable {fields : List (Key × Json)}

theorem only_of_keys (keys : ∀ key ∈ Fields.keys fields, key ∈ recordKeywords.map Key.text) :
    ∀ keyword argument, (Key.text keyword, argument) ∈ fields →
      keyword ∈ recordKeywords ∨ keyword ∉ evaluatedKeywords := by
  intro keyword argument listed
  have known := keys _ (List.mem_map_of_mem listed)
  exact .inl ((List.mem_map_of_injective fun _ _ => Key.text.inj).mp known)

namespace ClosedRecord

theorem usesLayers (record : ClosedRecord fields) : UsesLayers fields := by
  have layers : ∀ keyword ∈ recordKeywords, keyword ∈ layerKeywords := by decide
  exact fun keyword argument present => (record.only keyword argument present).imp_left (layers keyword)

theorem shaped (record : ClosedRecord fields) : Shaped fields :=
  shaped_of_passes record.usesLayers record.formed (Metaschema.passes_of_isSchema record.isSchema)

theorem names (record : ClosedRecord fields) : Names fields where
  formed := record.formed
  properties := record.shaped.properties
  patterns argument found := by rw [record.shaped.noPatterns] at found; cases found

theorem member_alone (record : ClosedRecord fields) (meaning : Meaning) (location : String) {member : Key × Json}
    (listed : member ∈ declared fields) : partWith meaning location member.2 = alone member.2 :=
  partWith_closed (record.unreferring member listed) _ _ _ _

theorem textual (record : ClosedRecord fields) {member : Key × Json} (listed : member ∈ declared fields) :
    ∃ name, member.1 = .text name :=
  Settled.declared_textual record.shaped listed

end ClosedRecord

theorem fillDefaults_meaning (meaning : Meaning) (location : String) (members : List (Key × Json)) (value : Json) :
    fillDefaults (memberPartsWith meaning location members) value =
      fillDefaults (memberPartsWith noReference "" members) value := by
  simp only [fillDefaults, memberPartsWith_eq_map, List.foldl_map, partWith_schema]

variable {options : Options} {value : Json}

theorem filled_def (options : Options) (fields : List (Key × Json)) (value : Json) :
    filled options fields value =
      if options.useDefaults then fillDefaults (memberPartsWith noReference "" (declared fields)) value else value :=
  rfl

theorem isObject_filled (isObject : value.isObject = true) : (filled options fields value).isObject = true := by
  unfold filled
  split
  · generalize memberPartsWith noReference "" (declared fields) = members
    induction members generalizing value with
    | nil => exact isObject
    | cons member rest ih => exact ih (isObject_fillDefault member.1 isObject)
  · exact isObject

/-- The names of the properties for which a default is filled in. -/
def defaultNames (options : Options) (fields : List (Key × Json)) : List Key :=
  if options.useDefaults then defaultedNames (declared fields) else []

theorem mem_declaredNames_of_default {key : Key} (listed : key ∈ defaultNames options fields) :
    key ∈ declaredNames fields := by
  unfold defaultNames at listed
  split at listed
  · exact (List.filter_sublist.map Prod.fst).subset listed
  · cases listed

variable (options) in
theorem namesOf_filled (record : ClosedRecord fields) (isObject : value.isObject = true) :
    namesOf (filled options fields value) = supplement (namesOf value) (defaultNames options fields) := by
  unfold filled defaultNames
  split
  · exact namesOf_fillDefaults (fun _ listed => record.textual listed) isObject
  · rfl

variable (options) in
theorem keyed_filled (record : ClosedRecord fields) (isObject : value.isObject = true) (keyed : value.Keyed) :
    (filled options fields value).Keyed ∧
      ∀ key ∈ namesOf (filled options fields value), key ∈ namesOf value ∨ key ∈ declaredNames fields := by
  have names := namesOf_filled options record isObject
  have either : ∀ key ∈ namesOf (filled options fields value), key ∈ namesOf value ∨ key ∈ declaredNames fields := by
    intro key listed
    rw [names, mem_supplement] at listed
    exact listed.imp_right mem_declaredNames_of_default
  refine ⟨⟨fun key listed => ?_, names ▸ nodup_supplement keyed.distinct⟩, either⟩
  rcases either key listed with old | declared
  · exact keyed.textual key old
  · obtain ⟨member, present, rfl⟩ := List.mem_map.mp declared
    exact record.textual present

/-- The names in what is made of a value with some names: those that are there, then those of the defaults that are
filled in, without those that are not declared if these are removed. -/
def resultNames (options : Options) (fields : List (Key × Json)) (names : List Key) : List Key :=
  if options.removeAdditional then (supplement names (defaultNames options fields)).filter (· ∈ declaredNames fields)
  else supplement names (defaultNames options fields)

/-- What is not declared is removed, or is not there. -/
def Admits (options : Options) (fields : List (Key × Json)) (value : Json) : Prop :=
  options.removeAdditional = true ∨ ∀ key ∈ namesOf value, key ∈ declaredNames fields

/-- What has become of a declared property: what was seen of it at the start, settled by its schema. -/
def Comes (options : Options) (fields : List (Key × Json)) (start value : Json) (member : Key × Json) : Prop :=
  Option.Rel ((alone member.2).Settles options .all) (seen options fields start (.member member.1))
    (value.child? (.member member.1))

/-- What is known of a value that some keywords of a closed record have accepted: the properties are settled, or
still seen as they were; and once it was looked for, what is required is there, and nothing else than what is
declared. -/
structure Underway (options : Options) (fields : List (Key × Json)) (start : Json) (done : List String)
    (value : Json) : Prop where
  isObject : value.isObject = true
  keyed : value.Keyed
  waiting : "properties" ∉ done → ∀ member ∈ declared fields,
    seen options fields value (.member member.1) = seen options fields start (.member member.1)
  settled : "properties" ∈ done → ∀ member ∈ declared fields, Comes options fields start value member
  required : "required" ∈ done → ∀ names : List String,
    Fields.get? fields "required" = some (.array (names.map .string)) → ∀ name ∈ names,
      .text name ∈ declaredNames fields → (value.child? (.member (.text name))).isSome = true
  closed : "additionalProperties" ∈ done → ∀ key ∈ namesOf value, key ∈ declaredNames fields

variable {meaning : Meaning} {location : String} {start last : Json} {done : List String}

theorem seen_filled {step : Step} (names : Names fields) (isObject : value.isObject = true) (exactly : IsExact step) :
    seen options fields (filled options fields value) step = seen options fields value step := by
  rw [seen, child?_filled names exactly, isObject_filled isObject, seen, isObject, Option.or_assoc, Option.or_self]

variable (meaning location) in
/-- `properties` fills defaults in and then settles what is there. -/
theorem properties_eq_chain (isObject : value.isObject = true) :
    Structure.properties (argumentWith meaning location (.object (declared fields))) options .all value =
      chain .all (editing options .all (memberEntries meaning location (declared fields)))
        (filled options fields value) := by
  rw [Structure.properties_eq _ isObject, fillDefaults_meaning]
  rfl

theorem evaluate_type (node : Node) (argument : Json) (extent : Extent) (value : Json) :
    Structure.evaluate node "type" (argumentWith meaning location argument) options extent value =
      Keyword.check "type" argument value := by
  simp [Structure.evaluate]

theorem check_object (isObject : value.isObject = true) : Keyword.check "type" (.string "object") value = accept value := by
  have typed : Keyword.checkType (.string "object") value = accept value := by
    refine Keyword.checkType_eq_accept.mpr ⟨[.string "object"], rfl, ?_⟩
    cases value <;> first | rfl | cases isObject
  simpa [Keyword.check] using typed

theorem Comes.isSome {member : Key × Json} (comes : Comes options fields start value member) :
    (seen options fields start (.member member.1)).isSome = (value.child? (.member member.1)).isSome := by
  unfold Comes at comes
  generalize seen options fields start (.member member.1) = old, value.child? (.member member.1) = new at comes
  cases comes <;> rfl

/-- Of a property that is settled no default is missing. -/
theorem Comes.seen {member : Key × Json} (comes : Comes options fields start value member)
    (isObject : start.isObject = true) (isObject' : value.isObject = true) :
    seen options fields value (.member member.1) = value.child? (.member member.1) := by
  unfold Comes Schema.seen at comes
  rw [isObject, if_pos rfl] at comes
  rw [Schema.seen, isObject', if_pos rfl]
  cases there : value.child? (.member member.1) with
  | some child => exact Option.some_or
  | none =>
      rw [there] at comes
      cases default : filling options fields (.member member.1) with
      | none => rfl
      | some default =>
          rw [default] at comes
          generalize start.child? (.member member.1) = child at comes
          cases child <;> cases comes

namespace Underway

theorem of_keyed (isObject : value.isObject = true) (keyed : value.Keyed) : Underway options fields value [] value := by
  constructor <;> simp [isObject, keyed]

/-- A keyword that edits nothing leaves what is known. -/
theorem keep (underway : Underway options fields start done value) {keyword : String}
    (properties : keyword ≠ "properties") (required : keyword ≠ "required")
    (additional : keyword ≠ "additionalProperties") : Underway options fields start (keyword :: done) value where
  isObject := underway.isObject
  keyed := underway.keyed
  waiting other := underway.waiting fun listed => other (List.mem_cons_of_mem _ listed)
  settled listed := underway.settled ((List.mem_cons.mp listed).resolve_left properties.symm)
  required listed := underway.required ((List.mem_cons.mp listed).resolve_left required.symm)
  closed listed := underway.closed ((List.mem_cons.mp listed).resolve_left additional.symm)

/-- Filling defaults in leaves what is known. -/
theorem filled (record : ClosedRecord fields) (isObject : Json.isObject start = true)
    (underway : Underway options fields start done value) :
    Underway options fields start done (filled options fields value) := by
  obtain ⟨keyed, names⟩ := keyed_filled options record underway.isObject underway.keyed
  have exactly : ∀ member ∈ declared fields, IsExact (.member member.1) := by
    intro member listed
    obtain ⟨name, named⟩ := record.textual listed
    exact named ▸ .text name
  refine ⟨isObject_filled underway.isObject, keyed, fun other member listed => ?_, fun listed member present => ?_,
    fun listed required found name among declared => ?_, fun listed key there => ?_⟩
  · rw [seen_filled record.names underway.isObject (exactly member listed), underway.waiting other member listed]
  · have comes := underway.settled listed member present
    rw [Comes, child?_filled record.names (exactly member present), comes.seen isObject underway.isObject]
    exact comes
  · rw [child?_filled record.names (.text name), seen, Option.isSome_or,
      underway.required listed required found name among declared, Bool.true_or]
  · exact (names key there).elim (underway.closed listed key) id

/-- The properties that were looked at come out settled. -/
theorem properties_step (record : ClosedRecord fields) (isObject : start.isObject = true)
    (underway : Underway options fields start done value) (fresh : "properties" ∉ done)
    (ran : Structure.properties (argumentWith meaning location (.object (declared fields))) options .all value =
      accept last) : Underway options fields start ("properties" :: done) last := by
  have rowed := editing_rowed (Settled.memberEntries_exact meaning location record.shaped)
    (Settled.memberEntries_distinct meaning location record.shaped)
    ((properties_eq_chain meaning location underway.isObject).symm.trans ran)
  have filled := underway.filled record isObject
  have isObject' : last.isObject = true := rowed.shape.isObject.trans filled.isObject
  refine ⟨isObject', filled.keyed.of_names rowed.names, fun other => absurd List.mem_cons_self other,
    fun _ member listed => ?_, fun listed names found name among declared => ?_, fun listed key there => ?_⟩
  · have settles := rowed.each _ (List.mem_map_of_mem listed)
    obtain ⟨name, named⟩ := record.textual listed
    rw [record.member_alone meaning location listed, child?_filled record.names (named ▸ .text name),
      underway.waiting fresh member listed] at settles
    exact settles
  · have older := (List.mem_cons.mp listed).resolve_left (by decide)
    rw [← Json.text_mem_namesOf, rowed.names, Json.text_mem_namesOf]
    exact filled.required older names found name among declared
  · have older := (List.mem_cons.mp listed).resolve_left (by decide)
    exact filled.closed older key (rowed.names ▸ there)

theorem required_step (record : ClosedRecord fields) (isObject : start.isObject = true)
    (underway : Underway options fields start done value) {argument : Json}
    (found : Fields.get? fields "required" = some argument)
    (ran : Structure.required (nodeWith meaning location fields) argument options .all value = accept last) :
    Underway options fields start ("required" :: done) last := by
  obtain ⟨names, rfl⟩ := record.shaped.required argument found
  obtain ⟨same, there⟩ := (Structure.required_eq_accept names underway.isObject).mp ran
  rw [fillDefaults_meaning] at same
  have filled : Underway options fields start done last := same ▸ underway.filled record isObject
  refine ⟨filled.isObject, filled.keyed, fun other => filled.waiting fun listed => other (List.mem_cons_of_mem _ listed),
    fun listed => filled.settled ((List.mem_cons.mp listed).resolve_left (by decide)), fun _ names' found' name among _ =>
      there name ?_, fun listed => filled.closed ((List.mem_cons.mp listed).resolve_left (by decide))⟩
  have equal := Json.array.inj (Option.some.inj (found'.symm.trans found))
  rwa [← (List.map_inj_right fun _ _ => Json.string.inj).mp equal]

theorem additional_step (record : ClosedRecord fields) (underway : Underway options fields start done value)
    (ran : Structure.additionalProperties (nodeWith meaning location fields) (partWith meaning location (.bool false))
      options .all value = accept last) : Underway options fields start ("additionalProperties" :: done) last := by
  have older {keyword : String} (listed : keyword ∈ "additionalProperties" :: done)
      (other : keyword ≠ "additionalProperties") : keyword ∈ done :=
    (List.mem_cons.mp listed).resolve_left other
  rcases (Structure.additionalProperties_false record.shaped underway.keyed.textual underway.isObject).mp ran with
    ⟨-, rfl⟩ | ⟨-, rfl, none⟩
  · have shape : SameShape value (Structure.removeNames value (undeclared fields value)) :=
      Structure.removeNames_shape
    have isObject := shape.isObject.trans underway.isObject
    have inside : (namesOf (Structure.removeNames value (undeclared fields value))).Sublist (namesOf value) :=
      namesOf_removeNames value _ ▸ List.filter_sublist
    have stays : ∀ name, .text name ∈ declaredNames fields →
        (Structure.removeNames value (undeclared fields value)).child? (.member (.text name)) =
          value.child? (.member (.text name)) := by
      intro name declared
      rw [Structure.child?_removeNames, if_neg]
      simp [undeclared, declared]
    have member_stays : ∀ member ∈ declared fields,
        (Structure.removeNames value (undeclared fields value)).child? (.member member.1) =
          value.child? (.member member.1) := by
      intro member listed
      obtain ⟨name, named⟩ := record.textual listed
      exact named ▸ stays name (named ▸ Settled.mem_declaredNames listed)
    refine ⟨isObject, underway.keyed.of_sublist inside, fun other member listed => ?_,
      fun listed member present => ?_, fun listed names found name among declared => ?_, fun _ key there => ?_⟩
    · have waits := underway.waiting (fun listed => other (List.mem_cons_of_mem _ listed)) member listed
      rw [← waits, seen, seen, member_stays member listed, isObject, underway.isObject]
    · have comes := underway.settled (older listed (by decide)) member present
      rwa [Comes, member_stays member present]
    · rw [stays name declared]
      exact underway.required (older listed (by decide)) names found name among declared
    · rw [namesOf_removeNames, List.mem_filter] at there
      by_contra other
      exact of_decide_eq_true there.2 (List.mem_filter.mpr ⟨there.1, decide_eq_true other⟩)
  · refine ⟨underway.isObject, underway.keyed, fun other => underway.waiting fun listed => other (List.mem_cons_of_mem _ listed),
      fun listed => underway.settled (older listed (by decide)),
      fun listed => underway.required (older listed (by decide)), fun _ key there => ?_⟩
    by_contra other
    have listed : key ∈ undeclared fields last := List.mem_filter.mpr ⟨there, decide_eq_true other⟩
    rw [none] at listed
    cases listed

/-- Each keyword of a closed record that accepts adds to what is known. -/
theorem step (record : ClosedRecord fields) (isObject : start.isObject = true)
    (underway : Underway options fields start done value) {keyword : String}
    {argument : Json} (present : (Key.text keyword, argument) ∈ fields) (fresh : keyword ∉ done)
    (ran : Structure.evaluate (nodeWith meaning location fields) keyword (argumentWith meaning location argument)
      options .all value = accept last) : Underway options fields start (keyword :: done) last := by
  have found := record.shaped.get?_of_mem present
  rcases record.only keyword argument present with listed | silent
  · simp only [recordKeywords, List.mem_cons, List.not_mem_nil, or_false] at listed
    rcases listed with rfl | rfl | rfl | rfl
    · have kept := Keyword.check_value "type" argument value
      rw [evaluate_type] at ran
      rw [ran] at kept
      obtain rfl : last = value := kept
      exact underway.keep (by decide) (by decide) (by decide)
    · rw [record.shaped.declared_of_get? found] at ran
      exact underway.properties_step record isObject fresh ran
    · exact underway.required_step record isObject found (by simpa [Structure.evaluate] using ran)
    · obtain rfl := Option.some.inj (found.symm.trans record.closed)
      exact underway.additional_step record ran
  · rw [Structure.evaluate_silent silent, accept_inj] at ran
    subst ran
    have known : ∀ word ∈ recordKeywords, keyword ≠ word := by
      rintro word listed rfl
      have evaluated : ∀ word ∈ recordKeywords, word ∈ evaluatedKeywords := by decide
      exact silent (evaluated keyword listed)
    exact underway.keep (known _ (by decide)) (known _ (by decide)) (known _ (by decide))

/-- A keyword leaves the names as they are, or adds those of the defaults that it fills in, or removes those that are
not declared. -/
theorem namesOf_step (record : ClosedRecord fields) (underway : Underway options fields start done value)
    {keyword : String} {argument : Json} (present : (Key.text keyword, argument) ∈ fields)
    (ran : Structure.evaluate (nodeWith meaning location fields) keyword (argumentWith meaning location argument)
      options .all value = accept last) :
    namesOf last = namesOf value ∨ namesOf last = supplement (namesOf value) (defaultNames options fields) ∨
      options.removeAdditional = true ∧ namesOf last = (namesOf value).filter (· ∈ declaredNames fields) := by
  have found := record.shaped.get?_of_mem present
  have filled := namesOf_filled options record underway.isObject
  rcases record.only keyword argument present with listed | silent
  · simp only [recordKeywords, List.mem_cons, List.not_mem_nil, or_false] at listed
    rcases listed with rfl | rfl | rfl | rfl
    · have kept := Keyword.check_value "type" argument value
      rw [evaluate_type] at ran
      rw [ran] at kept
      exact .inl (congrArg namesOf kept)
    · rw [record.shaped.declared_of_get? found] at ran
      have rowed := editing_rowed (Settled.memberEntries_exact meaning location record.shaped)
        (Settled.memberEntries_distinct meaning location record.shaped)
        ((properties_eq_chain meaning location underway.isObject).symm.trans ran)
      exact .inr (.inl (rowed.names.trans filled))
    · obtain ⟨names, rfl⟩ := record.shaped.required argument found
      obtain ⟨same, -⟩ := (Structure.required_eq_accept names underway.isObject).mp
        (show Structure.required (nodeWith meaning location fields) (.array (names.map .string)) options .all value =
          accept last by simpa [Structure.evaluate] using ran)
      rw [fillDefaults_meaning] at same
      exact .inr (.inl ((congrArg namesOf same).trans filled))
    · obtain rfl := Option.some.inj (found.symm.trans record.closed)
      rcases (Structure.additionalProperties_false record.shaped underway.keyed.textual underway.isObject).mp ran with
        ⟨removes, rfl⟩ | ⟨-, rfl, -⟩
      · refine .inr (.inr ⟨removes, (namesOf_removeNames value _).trans (List.filter_congr fun key listed => ?_)⟩)
        simp [undeclared, listed]
      · exact .inl rfl
  · rw [Structure.evaluate_silent silent, accept_inj] at ran
    exact .inl (congrArg namesOf ran.symm)

/-- The names that will come out stay the same. -/
theorem resultNames_step (record : ClosedRecord fields) (underway : Underway options fields start done value)
    {keyword : String} {argument : Json} (present : (Key.text keyword, argument) ∈ fields)
    (ran : Structure.evaluate (nodeWith meaning location fields) keyword (argumentWith meaning location argument)
      options .all value = accept last) :
    resultNames options fields (namesOf last) = resultNames options fields (namesOf value) := by
  have declared : ∀ key ∈ defaultNames options fields, decide (key ∈ declaredNames fields) = true :=
    fun key listed => decide_eq_true (mem_declaredNames_of_default listed)
  rcases underway.namesOf_step record present ran with same | added | ⟨removes, kept⟩
  · rw [same]
  · rw [added, resultNames, resultNames, supplement_supplement]
  · rw [kept, resultNames, resultNames, if_pos removes, if_pos removes, filter_supplement declared,
      filter_supplement declared, List.filter_filter]
    simp only [Bool.and_self]

theorem admits_step (record : ClosedRecord fields) (underway : Underway options fields start done value)
    (admits : Admits options fields value) {keyword : String} {argument : Json}
    (present : (Key.text keyword, argument) ∈ fields)
    (ran : Structure.evaluate (nodeWith meaning location fields) keyword (argumentWith meaning location argument)
      options .all value = accept last) : Admits options fields last := by
  refine admits.imp_right fun inside key listed => ?_
  rcases underway.namesOf_step record present ran with same | added | ⟨-, kept⟩
  · exact inside key (same ▸ listed)
  · rw [added, mem_supplement] at listed
    exact listed.elim (inside key) mem_declaredNames_of_default
  · rw [kept] at listed
    exact of_decide_eq_true (List.mem_filter.mp listed).2

theorem fresh_tail {keyword : String} {rest : List (String × Json)} (new : keyword ∉ rest.map Prod.fst)
    (fresh : ∀ entry ∈ rest, entry.1 ∉ done) : ∀ entry ∈ rest, entry.1 ∉ keyword :: done := by
  intro entry listed among
  rcases List.mem_cons.mp among with same | old
  · exact new (same ▸ List.mem_map_of_mem listed)
  · exact fresh entry listed old

theorem run (record : ClosedRecord fields) (isObject : start.isObject = true) {entries : List (String × Json)}
    (within : ∀ entry ∈ entries, (Key.text entry.1, entry.2) ∈ fields) (distinct : (entries.map Prod.fst).Nodup)
    (fresh : ∀ entry ∈ entries, entry.1 ∉ done) (underway : Underway options fields start done value)
    (ran : chain .all (entries.map fun entry =>
      Structure.evaluate (nodeWith meaning location fields) entry.1 (argumentWith meaning location entry.2) options .all)
        value = accept last) :
    (∃ done', (∀ entry ∈ entries, entry.1 ∈ done') ∧ (∀ word ∈ done, word ∈ done') ∧
      Underway options fields start done' last) ∧
      resultNames options fields (namesOf last) = resultNames options fields (namesOf value) := by
  induction entries generalizing done value with
  | nil =>
      obtain rfl := accept_inj.mp ran
      exact ⟨⟨done, by simp, fun _ listed => listed, underway⟩, rfl⟩
  | cons entry rest ih =>
      obtain ⟨middle, first, later⟩ := chain_cons_eq_accept.mp ran
      obtain ⟨new, distinct'⟩ := List.nodup_cons.mp distinct
      obtain ⟨here, within'⟩ := List.forall_mem_cons.mp within
      obtain ⟨fresh', freshs⟩ := List.forall_mem_cons.mp fresh
      obtain ⟨⟨done', all, older, underway'⟩, names⟩ := ih within' distinct' (fresh_tail new freshs)
        (underway.step record isObject here fresh' first) later
      exact ⟨⟨done', List.forall_mem_cons.mpr ⟨older _ List.mem_cons_self, all⟩,
        fun word listed => older word (List.mem_cons_of_mem _ listed), underway'⟩,
        names.trans (underway.resultNames_step record here first)⟩

end Underway

/-- Every property that is seen can be settled, and every one that is required is declared and seen. -/
structure Makeable (options : Options) (fields : List (Key × Json)) (start : Json) : Prop where
  settles : ∀ member ∈ declared fields, ∀ child, seen options fields start (.member member.1) = some child →
    ∃ new, (alone member.2).Settles options .all child new
  required : ∀ names : List String, Fields.get? fields "required" = some (.array (names.map .string)) →
    ∀ name ∈ names, .text name ∈ declaredNames fields ∧
      (seen options fields start (.member (.text name))).isSome = true

/-- What a closed record makes of an object. -/
structure Makes (options : Options) (fields : List (Key × Json)) (start last : Json) : Prop where
  isObject : last.isObject = true
  keyed : last.Keyed
  settled : ∀ member ∈ declared fields, Comes options fields start last member
  required : ∀ names : List String, Fields.get? fields "required" = some (.array (names.map .string)) →
    ∀ name ∈ names, .text name ∈ declaredNames fields → (last.child? (.member (.text name))).isSome = true
  closed : ∀ key ∈ namesOf last, key ∈ declaredNames fields

namespace Underway

/-- A declared property is seen as long as it was at the start. -/
theorem isSome_seen (underway : Underway options fields start done value) (isObject : start.isObject = true)
    {member : Key × Json} (listed : member ∈ declared fields) :
    (seen options fields value (.member member.1)).isSome =
      (seen options fields start (.member member.1)).isSome := by
  by_cases passed : "properties" ∈ done
  · have comes := underway.settled passed member listed
    rw [comes.seen isObject underway.isObject]
    exact comes.isSome.symm
  · rw [underway.waiting passed member listed]

variable (meaning location) in
/-- A keyword of a closed record accepts a value in which nothing stands against the record. -/
theorem accepts (record : ClosedRecord fields) (isObject : start.isObject = true)
    (makeable : Makeable options fields start) (underway : Underway options fields start done value)
    (admits : Admits options fields value) {keyword : String} {argument : Json}
    (present : (Key.text keyword, argument) ∈ fields) (fresh : keyword ∉ done) :
    ∃ last, Structure.evaluate (nodeWith meaning location fields) keyword (argumentWith meaning location argument)
      options .all value = accept last := by
  have found := record.shaped.get?_of_mem present
  have filled := underway.filled record isObject
  rcases record.only keyword argument present with listed | silent
  · simp only [recordKeywords, List.mem_cons, List.not_mem_nil, or_false] at listed
    rcases listed with rfl | rfl | rfl | rfl
    · obtain rfl := Option.some.inj (found.symm.trans record.type)
      exact ⟨value, (evaluate_type ..).trans (check_object underway.isObject)⟩
    · rw [record.shaped.declared_of_get? found]
      have evaluated : ∀ value, Structure.evaluate (nodeWith meaning location fields) "properties"
          (argumentWith meaning location (.object (declared fields))) options .all value =
            Structure.properties (argumentWith meaning location (.object (declared fields))) options .all value :=
        fun value => by simp [Structure.evaluate]
      rw [evaluated, properties_eq_chain meaning location underway.isObject]
      refine editing_accepts (Settled.memberEntries_exact meaning location record.shaped)
        (Settled.memberEntries_distinct meaning location record.shaped) fun entry listed child there => ?_
      obtain ⟨member, declared, rfl⟩ := List.mem_map.mp listed
      obtain ⟨name, named⟩ := record.textual declared
      dsimp only at there ⊢
      rw [child?_filled record.names (named ▸ .text name), underway.waiting fresh member declared] at there
      rw [record.member_alone meaning location declared]
      exact makeable.settles member declared child there
    · obtain ⟨names, rfl⟩ := record.shaped.required argument found
      have evaluated : ∀ value, Structure.evaluate (nodeWith meaning location fields) "required"
          (argumentWith meaning location (.array (names.map .string))) options .all value =
            Structure.required (nodeWith meaning location fields) (.array (names.map .string)) options .all value :=
        fun value => by simp [Structure.evaluate]
      rw [evaluated]
      refine ⟨_, (Structure.required_eq_accept names underway.isObject).mpr ⟨rfl, fun name listed => ?_⟩⟩
      obtain ⟨declared, there⟩ := makeable.required names found name listed
      obtain ⟨member, present, named⟩ := List.mem_map.mp declared
      rw [fillDefaults_meaning, ← filled_def, child?_filled record.names (.text name), ← named,
        underway.isSome_seen isObject present, named, there]
    · obtain rfl := Option.some.inj (found.symm.trans record.closed)
      have textual := underway.keyed.textual
      cases removes : options.removeAdditional with
      | true =>
          exact ⟨_, (Structure.additionalProperties_false record.shaped textual underway.isObject).mpr (.inl ⟨removes, rfl⟩)⟩
      | false =>
          have inside := admits.resolve_left (by simp [removes])
          refine ⟨value, (Structure.additionalProperties_false record.shaped textual underway.isObject).mpr
            (.inr ⟨removes, rfl, List.filter_eq_nil_iff.mpr fun key listed => ?_⟩)⟩
          simpa using inside key listed
  · exact ⟨value, Structure.evaluate_silent silent ..⟩

theorem run_accepts (record : ClosedRecord fields) (isObject : start.isObject = true)
    (makeable : Makeable options fields start) {entries : List (String × Json)}
    (within : ∀ entry ∈ entries, (Key.text entry.1, entry.2) ∈ fields) (distinct : (entries.map Prod.fst).Nodup)
    (fresh : ∀ entry ∈ entries, entry.1 ∉ done) (underway : Underway options fields start done value)
    (admits : Admits options fields value) :
    ∃ last, chain .all (entries.map fun entry =>
      Structure.evaluate (nodeWith meaning location fields) entry.1 (argumentWith meaning location entry.2) options .all)
        value = accept last := by
  induction entries generalizing done value with
  | nil => exact ⟨value, rfl⟩
  | cons entry rest ih =>
      obtain ⟨new, distinct'⟩ := List.nodup_cons.mp distinct
      obtain ⟨here, within'⟩ := List.forall_mem_cons.mp within
      obtain ⟨fresh', freshs⟩ := List.forall_mem_cons.mp fresh
      obtain ⟨middle, first⟩ := underway.accepts meaning location record isObject makeable admits here fresh'
      obtain ⟨last, later⟩ := ih within' distinct' (fresh_tail new freshs)
        (underway.step record isObject here fresh' first) (underway.admits_step record admits here first)
      exact ⟨last, chain_cons_eq_accept.mpr ⟨middle, first, later⟩⟩

end Underway

theorem nodup_keywords (formed : (Json.object fields).wellFormed = true) : ((keywordsOf fields).map Prod.fst).Nodup :=
  nodup_keywordNames formed

namespace ClosedRecord

open Validation

/-- At the root of a value the keywords of a closed record are evaluated one after the other. -/
theorem rootOutcome_eq (record : ClosedRecord fields) (options : Options) (value : Json) :
    ∃ meaning location, rootOutcome options (.object fields) value =
      chain .all ((keywordsOf fields).map fun entry =>
        Structure.evaluate (nodeWith meaning location fields) entry.1 (argumentWith meaning location entry.2) options
          .all) value := by
  have silent : Fields.get? fields "$schema" = none := get?_of_known record.usesLayers (by decide) (by decide)
  have leaves : LeavesOptions (.object fields) options := by
    refine leavesOptions_of_silent ?_ options
    rintro _ ⟨⟩
    exact silent
  exact ⟨_, _, (evaluateRoot_eq_run leaves value).trans (run_layers record.usesLayers ..)⟩

/-- What is no object is left as it is by every keyword, and refused by the type. -/
theorem isObject_of_accept (record : ClosedRecord fields)
    (accepted : rootOutcome options (.object fields) value = accept last) : value.isObject = true := by
  obtain ⟨meaning, location, evaluated⟩ := record.rootOutcome_eq options value
  rw [evaluated] at accepted
  by_contra other
  have flat : value.isObject = false := by simpa using other
  have kept : ∀ step ∈ (keywordsOf fields).map fun entry =>
      Structure.evaluate (nodeWith meaning location fields) entry.1 (argumentWith meaning location entry.2) options .all,
      (step value).value = value := by
    simp only [List.mem_map, forall_exists_index, and_imp, forall_apply_eq_imp_iff₂]
    rintro ⟨keyword, argument⟩ listed
    rcases record.only keyword argument (mem_keywordsOf.mp listed) with known | silent
    · simp only [recordKeywords, List.mem_cons, List.not_mem_nil, or_false] at known
      rcases known with rfl | rfl | rfl | rfl
      · exact (congrArg Outcome.value (evaluate_type ..)).trans (Keyword.check_value ..)
      · simp [Structure.evaluate, Structure.properties, flat]
      · simp [Structure.evaluate, Structure.required, flat]
      · simp [Structure.evaluate, Structure.additionalProperties, flat]
    · exact congrArg Outcome.value (Structure.evaluate_silent silent ..)
  have typed := accept_of_chain kept accepted _
    (List.mem_map_of_mem (mem_keywordsOf.mpr (Fields.mem_of_get? record.type)))
  rw [evaluate_type, show Keyword.check "type" (.string "object") value = Keyword.checkType (.string "object") value by
    simp [Keyword.check]] at typed
  obtain ⟨types, listed, found⟩ := Keyword.checkType_eq_accept.mp typed
  obtain rfl : [.string "object"] = types := Option.some.inj listed
  cases value with
  | object members => cases flat
  | _ => cases found

/-- What a closed record makes of a value, and the names in it. -/
theorem makes (record : ClosedRecord fields) (keyed : value.Keyed)
    (accepted : rootOutcome options (.object fields) value = accept last) :
    Makes options fields value last ∧ namesOf last = resultNames options fields (namesOf value) := by
  have isObject := record.isObject_of_accept accepted
  obtain ⟨meaning, location, evaluated⟩ := record.rootOutcome_eq options value
  rw [evaluated] at accepted
  obtain ⟨⟨done, all, -, underway⟩, names⟩ := Underway.run record isObject
    (fun entry listed => mem_keywordsOf.mp listed) (nodup_keywords record.formed) (by simp)
    (.of_keyed isObject keyed) accepted
  have passed : ∀ {keyword argument}, Fields.get? fields (.text keyword) = some argument → keyword ∈ done :=
    fun found => all _ (mem_keywordsOf.mpr (Fields.mem_of_get? found))
  have settled := fun member listed => underway.settled (passed (get?_of_declared record.shaped listed)) member listed
  have closed := underway.closed (passed record.closed)
  refine ⟨⟨underway.isObject, underway.keyed, settled, fun names found => underway.required (passed found) names found,
    closed⟩, ?_⟩
  -- every default is there and every name is declared, so nothing is added or removed any more
  have complete : ∀ key ∈ defaultNames options fields, key ∈ namesOf last := by
    intro key listed
    obtain ⟨member, present, rfl⟩ := List.mem_map.mp (mem_declaredNames_of_default listed)
    obtain ⟨name, named⟩ := record.textual present
    have there := (settled member present).seen isObject underway.isObject
    have filled := namesOf_filled options record underway.isObject
    rw [named, Json.text_mem_namesOf, ← named, ← there, ← child?_filled record.names (named ▸ .text name), named,
      ← Json.text_mem_namesOf, filled, ← named]
    exact mem_supplement.mpr (.inr listed)
  have stays : resultNames options fields (namesOf last) = namesOf last := by
    rw [resultNames, supplement_of_subset complete]
    split
    · exact List.filter_eq_self.mpr fun key listed => decide_eq_true (closed key listed)
    · rfl
  rw [← names, stays]

/-- What is not declared is removed or was not there. -/
theorem admits (record : ClosedRecord fields) (keyed : value.Keyed)
    (accepted : rootOutcome options (.object fields) value = accept last) : Admits options fields value := by
  obtain ⟨makes, names⟩ := record.makes keyed accepted
  cases removes : options.removeAdditional with
  | true => exact .inl removes
  | false =>
      refine .inr fun key listed => makes.closed key ?_
      rw [names, resultNames, if_neg (by simp [removes])]
      exact mem_supplement.mpr (.inl listed)

theorem accepts (record : ClosedRecord fields) (keyed : value.Keyed) (isObject : value.isObject = true)
    (makeable : Makeable options fields value) (admits : Admits options fields value) :
    ∃ last, rootOutcome options (.object fields) value = accept last := by
  obtain ⟨meaning, location, evaluated⟩ := record.rootOutcome_eq options value
  rw [evaluated]
  exact Underway.run_accepts record isObject makeable (fun entry listed => mem_keywordsOf.mp listed)
    (nodup_keywords record.formed) (by simp) (.of_keyed isObject keyed) admits

end ClosedRecord

end Schema

end SchemaAlgebra
