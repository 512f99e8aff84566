import SchemaAlgebra.Proofs.Running
import SchemaAlgebra.Proofs.Validation.Agreement
import SchemaAlgebra.Proofs.Validation.Editing

/-!
The keywords that edit, as rows of steps on different children, and what each of them works on: the
declared properties, the undeclared ones, or the items. The names in a value are texts here, so that a
property is declared exactly if its name is among the names of the declared ones.
-/

namespace SchemaAlgebra

open Outcome

namespace Schema

/-- The declared properties of a schema object with their schemas. -/
def declared (fields : List (Key × Json)) : List (Key × Json) :=
  match Fields.get? fields "properties" with
  | some argument => argument.members
  | none => []

/-- The names of the declared properties of a schema object. -/
def declaredNames (fields : List (Key × Json)) : List Key :=
  Fields.keys (declared fields)

/-- A schema object whose keywords have the shape that the metaschema asks of them. -/
structure Shaped (fields : List (Key × Json)) : Prop where
  formed : (Json.object fields).wellFormed = true
  properties : ∀ argument, Fields.get? fields "properties" = some argument → argument.isObject = true
  required : ∀ argument, Fields.get? fields "required" = some argument →
    ∃ names : List String, argument = .array (names.map .string)
  noPatterns : Fields.get? fields "patternProperties" = none

variable {fields : List (Key × Json)}

theorem Shaped.get?_of_mem (shaped : Shaped fields) {key : Key} {argument : Json}
    (member : (key, argument) ∈ fields) : Fields.get? fields key = some argument :=
  Fields.get?_of_mem ((Json.wellFormed_object fields).mp shaped.formed).2.1 member

theorem Shaped.declared_of_get? (shaped : Shaped fields) {argument : Json}
    (found : Fields.get? fields "properties" = some argument) : argument = .object (declared fields) := by
  have isObject := shaped.properties argument found
  cases argument <;> simp_all [Json.isObject, declared, Json.members]

theorem Shaped.declared_formed (shaped : Shaped fields) :
    (Json.object (declared fields)).wellFormed = true := by
  cases found : Fields.get? fields "properties" with
  | none => simp [declared, found, Json.wellFormed_object, Fields.keys]
  | some argument =>
      rw [← shaped.declared_of_get? found]
      exact ((Json.wellFormed_object fields).mp shaped.formed).2.2 _ (Fields.mem_of_get? found)

end Schema

/-- The steps to named children, each with the part of its schema. -/
def memberEntries (meaning : Evaluation.Meaning) (location : String) (members : List (Key × Json)) :
    List (Step × Part) :=
  members.map fun member => (.member member.1, Evaluation.partWith meaning location member.2)

/-- The steps to several children, all with the same part. -/
def sameEntries (steps : List Step) (part : Part) : List (Step × Part) :=
  steps.map fun step => (step, part)

/-- A value with the defaults of missing properties put in. -/
structure Filled (names : List Key) (before after : Json) : Prop where
  shape : Json.SameShape before after
  formed : after.wellFormed = true
  kept : ∀ step, Json.IsExact step → ∀ child, before.child? step = some child →
    after.child? step = some child
  others : ∀ step, Json.IsExact step → (∀ name ∈ names, step ≠ .member name) →
    after.child? step = before.child? step

namespace Filled

variable {names : List Key} {first second third : Json}

theorem refl (formed : first.wellFormed = true) : Filled names first first :=
  ⟨.same _, formed, fun _ _ _ found => found, fun _ _ _ => rfl⟩

theorem trans (left : Filled names first second) (right : Filled names second third) :
    Filled names first third := by
  refine ⟨left.shape.trans right.shape, right.formed, ?_, ?_⟩
  · exact fun step exactly child found =>
      right.kept step exactly child (left.kept step exactly child found)
  · intro step exactly other
    rw [right.others step exactly other, left.others step exactly other]

end Filled

/-- A new member whose name is a text keeps an object well formed. -/
theorem wellFormed_put {fields : List (Key × Json)} {name : String} {value : Json}
    (formed : (Json.object fields).wellFormed = true) (formed' : value.wellFormed = true)
    (missing : Fields.get? fields (.text name) = none) :
    (Json.object (Fields.put fields (.text name) value)).wellFormed = true := by
  obtain ⟨textual, distinct, values⟩ := (Json.wellFormed_object fields).mp formed
  rw [Json.wellFormed_object]
  refine ⟨fun entry member => ?_, ?_, fun entry member => ?_⟩
  · rcases Fields.mem_put member with rfl | old
    · exact ⟨name, rfl⟩
    · exact textual entry old
  · have fresh := (Fields.get?_eq_none_iff fields _).mp missing
    have absent : Fields.has fields (.text name) = false := by simp [Fields.has, missing]
    rw [Fields.keys_put, absent]
    simp only [Bool.false_eq_true, if_false]
    refine List.nodup_append.mpr ⟨distinct, by simp, ?_⟩
    intro key member other last same
    rw [same, List.mem_singleton.mp last] at member
    exact fresh member
  · rcases Fields.mem_put member with rfl | old
    · exact formed'
    · exact values entry old

theorem fillDefault_filled {names : List Key} {value schema : Json} {key : Key}
    (textual : ∃ name, key = .text name) (listed : key ∈ names) (formed : value.wellFormed = true)
    (formed' : ∀ default, schema.default? = some default → default.wellFormed = true) :
    Filled names value (fillDefault value key schema) := by
  obtain ⟨name, rfl⟩ := textual
  unfold fillDefault
  split
  · next fields default found =>
      split
      · exact .refl formed
      · next absent =>
          have missing : Fields.get? fields (.text name) = none := by
            simpa [Json.has, Json.get?] using absent
          have there : ∀ name', Fields.get? (Fields.put fields (.text name) default) (.text name') =
              if name = name' then some default else Fields.get? fields (.text name') := by
            intro name'
            simp [Fields.get?_put]
          refine ⟨.object _ _, wellFormed_put formed (formed' default found) missing, ?_, ?_⟩
          · intro step exactly child found'
            cases exactly with
            | index i => simp [Json.child?] at found'
            | text name' =>
                rw [Json.child?_text] at found' ⊢
                rw [there, if_neg, found']
                rintro rfl
                simp [missing] at found'
          · intro step exactly other
            cases exactly with
            | index i => rfl
            | text name' =>
                rw [Json.child?_text, Json.child?_text, there, if_neg]
                rintro rfl
                exact other _ listed rfl
  · exact .refl formed

/-- Members whose names are texts and whose defaults are well formed. -/
structure Fillable (members : List (Key × Part)) : Prop where
  names : ∀ member ∈ members, ∃ name, member.1 = .text name
  defaults : ∀ member ∈ members, ∀ default, member.2.schema.default? = some default →
    default.wellFormed = true

/-- Every declared property with a default is there. -/
def Complete (members : List (Key × Part)) (value : Json) : Prop :=
  ∀ member ∈ members, (member.2.schema.default?).isSome = true →
    (value.child? (.member member.1)).isSome = true

theorem fillDefaults_filled {members : List (Key × Part)} (fillable : Fillable members) {value : Json}
    (formed : value.wellFormed = true) :
    Filled (members.map Prod.fst) value (fillDefaults members value) := by
  have filled : ∀ rest : List (Key × Part), (∀ member ∈ rest, member ∈ members) → ∀ value : Json,
      value.wellFormed = true → Filled (members.map Prod.fst) value (fillDefaults rest value) := by
    intro rest
    induction rest with
    | nil => exact fun _ value formed => .refl formed
    | cons member rest ih =>
        intro listed value formed
        have here := listed member (by simp)
        have first := fillDefault_filled (fillable.names member here) (List.mem_map_of_mem here) formed
          (fillable.defaults member here)
        exact first.trans (ih (fun other present => listed other (by simp [present])) _ first.formed)
  exact filled members (fun _ listed => listed) value formed

theorem fillDefaults_complete {members : List (Key × Part)} (fillable : Fillable members) {value : Json}
    (formed : value.wellFormed = true) (isObject : value.isObject = true) :
    Complete members (fillDefaults members value) := by
  induction members generalizing value with
  | nil => simp [Complete]
  | cons member rest ih =>
      have fillable' : Fillable rest :=
        ⟨fun other present => fillable.names other (by simp [present]),
          fun other present => fillable.defaults other (by simp [present])⟩
      obtain ⟨name, named⟩ := fillable.names member (by simp)
      have first := fillDefault_filled ⟨name, named⟩ (List.mem_singleton_self _) formed
        (fillable.defaults member (by simp))
      have later := fillDefaults_filled fillable' first.formed
      intro other present hasDefault
      rcases List.mem_cons.mp present with rfl | present
      · have put : ((fillDefault value other.1 other.2.schema).child? (.member other.1)).isSome = true := by
          obtain ⟨default, found⟩ := Option.isSome_iff_exists.mp hasDefault
          cases value <;> simp only [Json.isObject, Bool.false_eq_true] at isObject
          simp only [fillDefault, found]
          split
          · next there => exact there
          · simp [named]
        obtain ⟨child, there⟩ := Option.isSome_iff_exists.mp put
        have exactly : Json.IsExact (.member other.1) := named ▸ .text name
        exact Option.isSome_iff_exists.mpr ⟨child, later.kept _ exactly child there⟩
      · exact ih fillable' first.formed (first.shape.isObject.trans isObject) other present hasDefault

theorem fillDefaults_of_complete {members : List (Key × Part)} {value : Json}
    (complete : Complete members value) : fillDefaults members value = value := by
  induction members with
  | nil => rfl
  | cons member rest ih =>
      have same : fillDefault value member.1 member.2.schema = value := by
        unfold fillDefault
        split
        · next default found =>
            have there := complete member (by simp) (by simp [found])
            exact if_pos there
        · rfl
      rw [fillDefaults, List.foldl_cons, same]
      exact ih fun other present => complete other (by simp [present])

theorem filterM_ok {ε α : Type} {test : α → Except ε Bool} {holds : α → Bool} {items : List α}
    (tested : ∀ item ∈ items, test item = .ok (holds item)) :
    items.filterM test = .ok (items.filter holds) := by
  have accumulated : ∀ rest : List α, (∀ item ∈ rest, test item = .ok (holds item)) → ∀ kept : List α,
      rest.filterAuxM test kept = .ok ((rest.filter holds).reverse ++ kept) := by
    intro rest
    induction rest with
    | nil => exact fun _ kept => rfl
    | cons item rest ih =>
        intro tested kept
        simp only [List.filterAuxM, tested item (by simp), bind, Except.bind]
        rw [ih fun other member => tested other (by simp [member])]
        cases answer : holds item <;> simp [answer]
  simp [List.filterM, accumulated items tested, bind, Except.bind, pure, Except.pure]

/-- Picking out items by a test succeeds only if testing each of them does. -/
theorem filterM_eq_ok {ε α : Type} {test : α → Except ε Bool} {items kept : List α} :
    items.filterM test = .ok kept ↔
      ∃ holds : α → Bool, (∀ item ∈ items, test item = .ok (holds item)) ∧ items.filter holds = kept := by
  have tested : ∀ rest front result : List α, rest.filterAuxM test front = .ok result →
      ∀ item ∈ rest, test item = .ok ((test item).toOption.getD false) := by
    intro rest
    induction rest with
    | nil => simp
    | cons item rest ih =>
        intro front result ran
        obtain ⟨holds, found, later⟩ := bind_eq_ok.mp ran
        refine List.forall_mem_cons.mpr ⟨?_, ih _ _ later⟩
        simp [found, Except.toOption]
  constructor
  · intro ran
    obtain ⟨result, listed, -⟩ := bind_eq_ok.mp ran
    have each := tested items [] result listed
    exact ⟨_, each, Except.ok.inj ((filterM_ok each).symm.trans ran)⟩
  · rintro ⟨holds, each, rfl⟩
    exact filterM_ok each

namespace Schema

/-- The names in a value that a schema object does not declare. -/
def undeclared (fields : List (Key × Json)) (value : Json) : List Key :=
  (namesOf value).filter fun name => name ∉ declaredNames fields

end Schema

namespace Json

theorem namesOf_text {value : Json} (formed : value.wellFormed = true) {key : Key}
    (member : key ∈ namesOf value) : ∃ name, key = .text name := by
  cases value with
  | object fields =>
      obtain ⟨entry, present, rfl⟩ := List.mem_map.mp member
      exact ((wellFormed_object fields).mp formed).1 entry present
  | _ => simp [namesOf] at member

theorem text_mem_namesOf {value : Json} {name : String} :
    .text name ∈ namesOf value ↔ (value.child? (.member (.text name))).isSome = true := by
  cases value with
  | object fields => rw [child?_text, namesOf, ← Fields.has_iff_mem_keys, Fields.has]
  | _ => simp [namesOf, child?, get?]

theorem text_mem_undeclared {fields : List (Key × Json)} {value child : Json} {name : String}
    (other : .text name ∉ Schema.declaredNames fields)
    (there : value.child? (.member (.text name)) = some child) :
    .text name ∈ Schema.undeclared fields value := by
  rw [Schema.undeclared, List.mem_filter, text_mem_namesOf, there]
  simpa using other

theorem namesOf_nodup {value : Json} (formed : value.wellFormed = true) : (namesOf value).Nodup := by
  cases value with
  | object fields => exact ((wellFormed_object fields).mp formed).2.1
  | _ => simp [namesOf]

end Json

namespace Structure

open Evaluation Schema

variable {meaning : Meaning} {location : String} {fields : List (Key × Json)} {options : Options}
  {extent : Extent} {value last : Json}

theorem declared_nodeWith : (nodeWith meaning location fields).declared =
    memberPartsWith meaning location (declared fields) := by
  rw [Node.declared, argument?_nodeWith, declared]
  cases Fields.get? fields (.text "properties") with
  | none => rfl
  | some argument => cases argument <;> simp [argumentWith, membersOf, Json.members, memberPartsWith]

theorem properties_eq (members : List (Key × Json)) (isObject : value.isObject = true) :
    properties (argumentWith meaning location (.object members)) options extent value =
      chain extent (editing options extent (memberEntries meaning location members))
        (if options.useDefaults then fillDefaults (memberPartsWith meaning location members) value
          else value) := by
  have named : (argumentWith meaning location (.object members)).named =
      .ok (memberPartsWith meaning location members) := by
    rw [argumentWith_named, memberPartsWith_eq_map]
    rfl
  simp only [properties, isObject, if_true, named, given, editing, memberEntries, List.map_map,
    memberPartsWith_eq_map]
  rfl

theorem required_eq_accept (names : List String) (isObject : value.isObject = true) :
    required (nodeWith meaning location fields) (.array (names.map .string)) options extent value =
        accept last ↔
      last = (if options.useDefaults then
          fillDefaults (memberPartsWith meaning location (declared fields)) value else value) ∧
        ∀ name ∈ names, (last.child? (.member (.text name))).isSome = true := by
  simp only [required, isObject, if_true, Json.elements?, declared_nodeWith]
  rw [chain_eq_accept_iff]
  · refine and_congr_right fun same => ?_
    subst same
    simp only [List.mem_map, forall_exists_index, and_imp, forall_apply_eq_imp_iff₂, isThere, Json.key?,
      given]
    generalize (if options.useDefaults = true then _ else value) = filled
    refine forall₂_congr fun name _ => ?_
    change _ ↔ filled.has (.text name) = true
    by_cases present : filled.has (.text name) = true <;> simp [present, reject_ne_accept]
  · simp only [List.mem_map, forall_exists_index, and_imp, forall_apply_eq_imp_iff₂]
    intro name _
    apply given_value
    intro present _
    split <;> simp

theorem undeclaredNames_eq (shaped : Shaped fields) (textual : ∀ key ∈ namesOf value, ∃ name, key = .text name) :
    undeclaredNames (nodeWith meaning location fields) value = .ok (undeclared fields value) := by
  have noPatterns : (nodeWith meaning location fields).patterns = .ok [] := by
    simp [Node.patterns, argument?_nodeWith, shaped.noPatterns]
  have declares : ∀ name ∈ namesOf value,
      ((!·) <$> (nodeWith meaning location fields).declares name : Except Fault Bool) =
        .ok (decide (name ∉ declaredNames fields)) := by
    intro key member
    obtain ⟨name, rfl⟩ := textual key member
    rw [Node.declares, argument?_nodeWith]
    cases found : Fields.get? fields (.text "properties") with
    | none => simp [declaredNames, declared, found, Fields.keys, Functor.map, Except.map]
    | some argument =>
        have isObject := shaped.declared_of_get? found
        have has : (Json.object (declared fields)).has (.text name) =
            decide (Key.text name ∈ declaredNames fields) := by
          rw [Json.has, Json.get?, Key.spelledIn_text, declaredNames, Bool.eq_iff_iff,
            ← Fields.has, Fields.has_iff_mem_keys, decide_eq_true_iff]
        simp only [isObject, Option.map_some, argumentWith_self, partWith_schema, has, Functor.map,
          Except.map, decide_not]
  simp [undeclaredNames, noPatterns, filterM_ok declares, bind, Except.bind, pure, Except.pure,
    undeclared]

theorem additionalProperties_object (shaped : Shaped fields) {schema : Json}
    (isSchema : schema.isObject = true) (formed : value.wellFormed = true)
    (isObject : value.isObject = true) :
    additionalProperties (nodeWith meaning location fields) (partWith meaning location schema) options
        extent value =
      chain extent (editing options extent (sameEntries ((undeclared fields value).map .member)
        (partWith meaning location schema))) value := by
  simp only [additionalProperties, isObject, if_true, given,
    undeclaredNames_eq shaped fun _ => Json.namesOf_text formed, partWith_schema, isSchema, editing, sameEntries,
    List.map_map]
  rfl

theorem additionalProperties_true (shaped : Shaped fields) (formed : value.wellFormed = true) :
    additionalProperties (nodeWith meaning location fields) (partWith meaning location (.bool true))
      options extent value = accept value := by
  simp [additionalProperties, undeclaredNames_eq shaped fun _ => Json.namesOf_text formed, given, Json.isObject,
    Shape.isFalse, Json.isTruthy]

theorem additionalProperties_false (shaped : Shaped fields)
    (textual : ∀ key ∈ namesOf value, ∃ name, key = .text name) (isObject : value.isObject = true) :
    additionalProperties (nodeWith meaning location fields) (partWith meaning location (.bool false))
        options extent value = accept last ↔
      (options.removeAdditional = true ∧ last = removeNames value (undeclared fields value)) ∨
        (options.removeAdditional = false ∧ last = value ∧ undeclared fields value = []) := by
  simp only [additionalProperties, isObject, if_true, undeclaredNames_eq shaped textual, given,
    partWith_schema, Shape.isFalse, Json.isTruthy, Bool.and_true, Bool.or_false]
  cases options.removeAdditional with
  | true =>
      simp only [Json.isObject, Bool.false_eq_true, if_false, if_true, accept_inj, true_and, false_and,
        or_false, reduceCtorEq]
      exact eq_comm
  | false =>
      simp only [Json.isObject, Bool.false_eq_true, if_false, List.isEmpty_iff, false_and, true_and,
        false_or]
      split
      · next empty =>
          simp only [accept_inj, empty, and_true]
          exact eq_comm
      · next listed =>
          simp only [listed, and_false, iff_false]
          intro accepted
          obtain ⟨message, -, refused⟩ := given_eq_accept.mp accepted
          exact reject_ne_accept refused

theorem items_eq {schema : Json} (single : schema.isArray = false) :
    items (argumentWith meaning location schema) options extent value =
      chain extent (editing options extent (sameEntries ((List.range (itemCount value)).map .index)
        (partWith meaning location schema))) value := by
  simp only [items, itemParts, argumentWith_self, partWith_schema, single, Bool.false_eq_true, if_false,
    atIndices_replicate, List.map_map, editing, sameEntries, ← List.range_eq_range']
  rfl

end Structure

namespace Fields

variable {κ α : Type} [DecidableEq κ]

theorem get?_foldl_erase (names : List κ) (fields : Fields κ α) (key : κ) :
    get? (names.foldl erase fields) key = if key ∈ names then none else get? fields key := by
  induction names generalizing fields with
  | nil => simp
  | cons name rest ih =>
      rw [List.foldl_cons, ih, get?_erase]
      by_cases same : key = name
      · simp [same]
      · simp [same, Ne.symm same]

theorem sublist_erase (fields : Fields κ α) (key : κ) : (fields.erase key).Sublist fields := by
  induction fields with
  | nil => exact .slnil
  | cons entry rest ih =>
      obtain ⟨k, v⟩ := entry
      by_cases same : k = key
      · simpa [erase, same] using ih.cons (key, v)
      · simpa [erase, same] using ih.cons_cons (k, v)

theorem sublist_foldl_erase (names : List κ) (fields : Fields κ α) :
    (names.foldl erase fields).Sublist fields := by
  induction names generalizing fields with
  | nil => exact .refl fields
  | cons name rest ih => exact (ih _).trans (sublist_erase fields name)

end Fields

namespace Structure

variable {value : Json} {names : List Key}

theorem removeNames_formed (formed : value.wellFormed = true) :
    (removeNames value names).wellFormed = true := by
  cases value with
  | object fields =>
      obtain ⟨textual, distinct, values⟩ := (Json.wellFormed_object fields).mp formed
      have inside := Fields.sublist_foldl_erase names fields
      rw [removeNames, Json.wellFormed_object]
      exact ⟨fun entry member => textual entry (inside.subset member), distinct.sublist (inside.map _),
        fun entry member => values entry (inside.subset member)⟩
  | _ => exact formed

theorem removeNames_shape : Json.SameShape value (removeNames value names) := by
  cases value with
  | object fields => exact .object _ _
  | _ => exact .same _

theorem child?_removeNames (name : String) :
    (removeNames value names).child? (.member (.text name)) =
      if .text name ∈ names then none else value.child? (.member (.text name)) := by
  cases value with
  | object fields =>
      rw [removeNames, Json.child?_text, Json.child?_text, Fields.get?_foldl_erase]
  | _ => simp [removeNames, Json.child?, Json.get?]

end Structure

namespace Structure

open Evaluation Schema

variable {meaning : Meaning} {location : String} {fields : List (Key × Json)} {extent : Extent}
  {value : Json}

theorem sameEntries_plain {part : Part} (keeps : part.Keeps .plain) (steps : List Step) :
    chain extent (editing .plain extent (sameEntries steps part)) value = accept value ↔
      ∀ step ∈ steps, ∀ child, value.child? step = some child →
        part.enter .plain extent child = accept child := by
  rw [editing_plain]
  · simp [sameEntries]
  · intro entry member
    obtain ⟨step, -, rfl⟩ := List.mem_map.mp member
    exact keeps

theorem items_plain_iff (kept : meaning.Keeps) {schema : Json} (single : schema.isArray = false) :
    items (argumentWith meaning location schema) .plain extent value = accept value ↔
      ∀ i child, value.child? (.index i) = some child →
        (partWith meaning location schema).enter .plain extent child = accept child := by
  rw [items_eq single, sameEntries_plain (partWith_keeps kept schema location)]
  simp only [List.mem_map, List.mem_range, forall_exists_index, and_imp, forall_apply_eq_imp_iff₂]
  refine forall_congr' fun i => ⟨fun accepted child there => accepted ?_ child there,
    fun accepted _ child there => accepted child there⟩
  cases value <;> simp only [Json.child?, reduceCtorEq] at there
  exact (List.getElem?_eq_some_iff.mp there).1

theorem properties_plain_iff (kept : meaning.Keeps) (members : List (Key × Json)) :
    properties (argumentWith meaning location (.object members)) .plain extent value = accept value ↔
      ∀ member ∈ members, ∀ child, value.child? (.member member.1) = some child →
        (partWith meaning location member.2).enter .plain extent child = accept child := by
  cases isObject : value.isObject with
  | false =>
      have noMember : ∀ key, value.child? (.member key) = none := by
        intro key
        cases value <;> simp_all [Json.child?, Json.get?, Json.isObject]
      simp [properties, isObject, noMember]
  | true =>
      have keep : ∀ entry ∈ memberEntries meaning location members, entry.2.Keeps .plain := by
        intro entry listed
        obtain ⟨member, -, rfl⟩ := List.mem_map.mp listed
        exact partWith_keeps kept _ _
      rw [properties_eq members isObject]
      simp only [Options.plain, Bool.false_eq_true, if_false]
      rw [← Options.plain, editing_plain keep]
      simp only [memberEntries, List.mem_map, forall_exists_index, and_imp, forall_apply_eq_imp_iff₂]

theorem required_plain_iff (names : List String) :
    required (nodeWith meaning location fields) (.array (names.map .string)) .plain extent value =
        accept value ↔
      (value.isObject = true →
        ∀ name ∈ names, (value.child? (.member (.text name))).isSome = true) := by
  cases isObject : value.isObject with
  | false => simp [required, isObject]
  | true =>
      rw [required_eq_accept names isObject]
      simp [Options.plain]

theorem additionalProperties_plain_iff (kept : meaning.Keeps) (shaped : Shaped fields)
    (formed : value.wellFormed = true) {schema : Json}
    (isSchema : schema.isObject = true ∨ ∃ b, schema = .bool b) :
    additionalProperties (nodeWith meaning location fields) (partWith meaning location schema) .plain
        extent value = accept value ↔
      ∀ name, .text name ∉ declaredNames fields → ∀ child,
        value.child? (.member (.text name)) = some child →
          (partWith meaning location schema).enter .plain extent child = accept child := by
  cases isObject : value.isObject with
  | false =>
      have noMember : ∀ key, value.child? (.member key) = none := by
        intro key
        cases value <;> simp_all [Json.child?, Json.get?, Json.isObject]
      simp [additionalProperties, isObject, noMember]
  | true =>
      rcases isSchema with isSchema | ⟨_ | _, rfl⟩
      · rw [additionalProperties_object shaped isSchema formed isObject,
          sameEntries_plain (partWith_keeps kept schema location)]
        simp only [List.mem_map, forall_exists_index, and_imp, forall_apply_eq_imp_iff₂]
        constructor
        · exact fun accepted name other child there =>
            accepted _ (Json.text_mem_undeclared other there) child there
        · intro accepted key listed child there
          obtain ⟨present, other⟩ := List.mem_filter.mp listed
          obtain ⟨name, rfl⟩ := Json.namesOf_text formed present
          exact accepted name (by simpa using other) child there
      · rw [additionalProperties_false shaped (fun _ => Json.namesOf_text formed) isObject]
        simp only [Options.plain, Bool.false_eq_true, false_and, false_or, true_and]
        constructor
        · intro empty name other child there
          have listed := Json.text_mem_undeclared other there
          simp [empty] at listed
        · intro refused
          refine List.eq_nil_iff_forall_not_mem.mpr fun key listed => ?_
          obtain ⟨present, other⟩ := List.mem_filter.mp listed
          obtain ⟨name, rfl⟩ := Json.namesOf_text formed present
          obtain ⟨child, there⟩ := Option.isSome_iff_exists.mp (Json.text_mem_namesOf.mp present)
          exact absurd (refused name (by simpa using other) child there) reject_ne_accept
      · rw [additionalProperties_true shaped formed]
        simp only [true_iff]
        exact fun _ _ _ _ => rfl

end Structure

/-- The keywords that look at the shape of a value only. -/
def shapeKeywords : List String := ["type", "minItems", "maxItems"]

namespace Keyword

variable {argument before after : Json}

theorem hasType?_sameShape (shape : Json.SameShape before after) (checker : TypeChecker) (name : String) :
    after.hasType? checker name = before.hasType? checker name := by
  cases shape <;> unfold Json.hasType? <;> split <;> rfl

theorem hasOneOf_sameShape (shape : Json.SameShape before after) (checker : TypeChecker)
    (types : List Json) : after.hasOneOf checker types = before.hasOneOf checker types := by
  induction types with
  | nil => rfl
  | cons type rest ih =>
      have here : after.isOfType checker type = before.isOfType checker type := by
        unfold Json.isOfType
        simp only [hasType?_sameShape shape]
      rw [Json.hasOneOf, Json.hasOneOf, here, ih]

/-- The types that the argument of `type` names: itself, or what it lists. -/
def typesOf (argument : Json) : Option (List Json) :=
  if argument.isString then some [argument] else argument.elements?

theorem checkType_of_typesOf {argument value : Json} {types : List Json}
    (listed : typesOf argument = some types) :
    checkType argument value =
      Outcome.given (value.hasOneOf .byValue types) value fun holds =>
        if holds then .accept value
        else .reject value "type" [value] (value.literal ++ " is not of type " ++ Json.literals types) := by
  cases found : value.hasOneOf .byValue types with
  | error fault => cases argument <;> simp_all [checkType, typesOf, Json.isString, Outcome.given]
  | ok holds =>
      cases holds <;> cases argument <;> simp_all [checkType, typesOf, Json.isString, Outcome.given]

theorem checkType_eq_accept {argument value : Json} :
    checkType argument value = .accept value ↔
      ∃ types, typesOf argument = some types ∧ value.hasOneOf .byValue types = .ok true := by
  cases listed : typesOf argument with
  | none =>
      have unusable : checkType argument value = .fail value .unusable := by
        cases argument <;> simp_all [checkType, typesOf, Json.isString]
      simp [unusable, Outcome.fail_ne_accept]
  | some types =>
      rw [checkType_of_typesOf listed]
      cases found : value.hasOneOf .byValue types with
      | error fault => simp [found, Outcome.given, Outcome.fail_ne_accept]
      | ok holds => cases holds <;> simp [found, Outcome.given, Outcome.reject_ne_accept]

theorem checkType_sameShape (shape : Json.SameShape before after)
    (accepted : checkType argument before = .accept before) :
    checkType argument after = .accept after := by
  obtain ⟨types, listed, found⟩ := checkType_eq_accept.mp accepted
  exact checkType_eq_accept.mpr ⟨types, listed, (hasOneOf_sameShape shape _ _).trans found⟩

theorem checkSize_accepts {keyword specialVerdict verdict : String} {size : Nat}
    {refused : Number → Number → Bool} {special : Int}
    (accepted : checkSize keyword size refused special specialVerdict verdict argument before =
      .accept before) :
    checkSize keyword size refused special specialVerdict verdict argument after = .accept after := by
  unfold checkSize at accepted ⊢
  cases found : argument.plainNumber? with
  | none =>
      rw [found] at accepted
      exact absurd accepted Outcome.fail_ne_accept
  | some bound =>
      simp only [found] at accepted ⊢
      split at accepted
      · exact absurd accepted Outcome.reject_ne_accept
      · next inside => rw [if_neg inside]

/-- What a keyword about shapes accepts it accepts in the same shape. -/
theorem check_sameShape {keyword : String} (listed : keyword ∈ shapeKeywords)
    (shape : Json.SameShape before after) (accepted : check keyword argument before = .accept before) :
    check keyword argument after = .accept after := by
  simp only [shapeKeywords, List.mem_cons, List.not_mem_nil, or_false] at listed
  rcases listed with rfl | rfl | rfl
  · exact checkType_sameShape shape accepted
  · cases shape with
    | same => exact accepted
    | object => rfl
    | array lengths =>
        simp only [check, ← lengths] at accepted ⊢
        exact checkSize_accepts accepted
  · cases shape with
    | same => exact accepted
    | object => rfl
    | array lengths =>
        simp only [check, ← lengths] at accepted ⊢
        exact checkSize_accepts accepted

end Keyword

end SchemaAlgebra
