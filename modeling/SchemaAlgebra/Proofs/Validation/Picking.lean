import SchemaAlgebra.Proofs.Validation.Records

/-!
Closed records of which some properties are picked. What is picked has the schemas that it had, and of what was
required, that which is picked is still required. So what is made of a picked property is what was made of it, and
nothing else is there: to validate against the picked schema is to validate and then to pick.
-/

namespace SchemaAlgebra

open Outcome Evaluation Schema Validation Metaschema

theorem Fields.mem_iff_get? {κ α : Type} [DecidableEq κ] {fields : Fields κ α} (distinct : fields.keys.Nodup)
    {key : κ} {value : α} : (key, value) ∈ fields ↔ fields.get? key = some value :=
  ⟨Fields.get?_of_mem distinct, Fields.mem_of_get?⟩

theorem Fields.get?_restrict {κ α : Type} [DecidableEq κ] (fields : Fields κ α) (keys : List κ) (key : κ) :
    (fields.restrict keys).get? key = if key ∈ keys then fields.get? key else none := by
  refine Option.ext fun value => ?_
  rw [← Fields.mem_iff_get? (nodup_keys_restrict fields keys), mem_restrict]
  by_cases listed : key ∈ keys <;> simp [listed]

namespace Json

/-- A result is, as a mapping, another one with the names that are kept. -/
def Narrows (keeps : Key → Bool) (result narrowed : Json) : Prop :=
  ∃ members kept, result = .object members ∧ narrowed = .object kept ∧
    kept.Perm (members.filter fun member => keeps member.1)

/-- It matters only which of the names that are there are kept. -/
theorem Narrows.of_names {keeps keeps' : Key → Bool} {result narrowed : Json} (narrows : Narrows keeps result narrowed)
    (same : ∀ key ∈ namesOf result, keeps key = keeps' key) : Narrows keeps' result narrowed := by
  obtain ⟨members, kept, rfl, rfl, permuted⟩ := narrows
  refine ⟨members, kept, rfl, rfl, permuted.trans (.of_eq (List.filter_congr fun member listed => ?_))⟩
  exact same member.1 (List.mem_map_of_mem listed)

/-- Objects are so related if this holds of what each name leads to. -/
theorem narrows_of_children {keeps : Key → Bool} {result narrowed : Json} (isObject : result.isObject = true)
    (isObject' : narrowed.isObject = true) (keyed : result.Keyed) (keyed' : narrowed.Keyed)
    (children : ∀ name, narrowed.child? (.member (.text name)) =
      if keeps (.text name) then result.child? (.member (.text name)) else none) :
    Narrows keeps result narrowed := by
  cases result <;> try cases isObject
  next members =>
  cases narrowed <;> try cases isObject'
  next kept =>
  have distinct : (Fields.keys members).Nodup := keyed.distinct
  have distinct' : (Fields.keys kept).Nodup := keyed'.distinct
  have textual : ∀ entry ∈ members, ∃ name, entry.1 = .text name := fun entry listed =>
    keyed.textual _ (List.mem_map_of_mem listed)
  have textual' : ∀ entry ∈ kept, ∃ name, entry.1 = .text name := fun entry listed =>
    keyed'.textual _ (List.mem_map_of_mem listed)
  simp only [child?_text] at children
  refine ⟨members, kept, rfl, rfl, (List.perm_ext_iff_of_nodup (.of_map Prod.fst distinct')
    ((List.Nodup.of_map Prod.fst distinct).filter _)).mpr fun entry => ?_⟩
  obtain ⟨key, value⟩ := entry
  rw [List.mem_filter]
  constructor
  · intro listed
    obtain ⟨name, rfl⟩ := textual' _ listed
    have found := children name
    rw [Fields.get?_of_mem distinct' listed] at found
    split at found
    · next keeps => exact ⟨Fields.mem_of_get? found.symm, keeps⟩
    · cases found
  · rintro ⟨listed, keeps⟩
    obtain ⟨name, rfl⟩ := textual _ listed
    have found := children name
    rw [if_pos keeps, Fields.get?_of_mem distinct listed] at found
    exact Fields.mem_of_get? found

end Json

namespace Schema

variable {fields : List (Key × Json)} {names : List String}

/-- The schema object with other names that it requires; none leave no trace. -/
def withRequired (fields : List (Key × Json)) (names : List String) : List (Key × Json) :=
  if names.isEmpty then Fields.erase fields "required" else Fields.put fields "required" (.array (names.map .string))

/-- The schema object with some of its properties only. -/
def picked (fields : List (Key × Json)) (names : List String) : List (Key × Json) :=
  withRequired (Fields.put fields "properties" (.object (Fields.restrict (declared fields) (names.map .text))))
    ((Property.requiredNames fields).filter (· ∈ names))

theorem get?_withRequired (fields : List (Key × Json)) (names : List String) (key : Key) :
    Fields.get? (withRequired fields names) key =
      if .text "required" = key then if names.isEmpty then none else some (.array (names.map .string))
      else Fields.get? fields key := by
  unfold withRequired
  split
  · rw [Fields.get?_erase]
  · rw [Fields.get?_put]

/-- The schema object with other properties and other required names. -/
def reshaped (fields inner : List (Key × Json)) (names : List String) : List (Key × Json) :=
  withRequired (Fields.put fields "properties" (.object inner)) names

theorem picked_eq (fields : List (Key × Json)) (names : List String) :
    picked fields names = reshaped fields (Fields.restrict (declared fields) (names.map .text))
      ((Property.requiredNames fields).filter (· ∈ names)) :=
  rfl

section Reshaped

variable (fields inner : List (Key × Json)) (names : List String)

theorem get?_reshaped {key : Key} (notRequired : .text "required" ≠ key) (notProperties : .text "properties" ≠ key) :
    Fields.get? (reshaped fields inner names) key = Fields.get? fields key := by
  rw [reshaped, get?_withRequired, if_neg notRequired, Fields.get?_put, if_neg notProperties]

theorem properties_reshaped : Fields.get? (reshaped fields inner names) "properties" = some (.object inner) := by
  rw [reshaped, get?_withRequired, if_neg (by decide), Fields.get?_put_self]

theorem required_reshaped : Fields.get? (reshaped fields inner names) "required" =
    if names.isEmpty then none else some (.array (names.map .string)) := by
  rw [reshaped, get?_withRequired, if_pos rfl]

theorem declared_reshaped : declared (reshaped fields inner names) = inner := by
  rw [declared, properties_reshaped]
  rfl

theorem requiredNames_reshaped : Property.requiredNames (reshaped fields inner names) = names := by
  have found := required_reshaped fields inner names
  split at found
  · next none => rw [Property.requiredNames_of_missing found, List.isEmpty_iff.mp none]
  · exact Property.requiredNames_of_get? found

end Reshaped

theorem mem_reshaped {inner : List (Key × Json)} {entry : Key × Json} (listed : entry ∈ reshaped fields inner names) :
    entry = (.text "required", .array (names.map .string)) ∨ entry = (.text "properties", .object inner) ∨
      entry ∈ fields := by
  unfold reshaped withRequired at listed
  split at listed
  · exact .inr (Fields.mem_put (Fields.mem_erase listed))
  · exact (Fields.mem_put listed).imp_right Fields.mem_put

theorem declared_picked (fields : List (Key × Json)) (names : List String) :
    declared (picked fields names) = Fields.restrict (declared fields) (names.map .text) :=
  declared_reshaped ..

theorem requiredNames_picked (fields : List (Key × Json)) (names : List String) :
    Property.requiredNames (picked fields names) = (Property.requiredNames fields).filter (· ∈ names) :=
  requiredNames_reshaped ..

theorem mem_declared_picked {member : Key × Json} (listed : member ∈ declared (picked fields names)) :
    member.1 ∈ names.map Key.text ∧ member ∈ declared fields := by
  rw [declared_picked, Fields.mem_restrict] at listed
  exact ⟨listed.1, Fields.mem_of_get? listed.2⟩

theorem mem_declaredNames_picked {name : String} :
    .text name ∈ declaredNames (picked fields names) ↔ name ∈ names ∧ .text name ∈ declaredNames fields := by
  rw [declaredNames, declared_picked, Fields.keys_restrict, List.mem_filter, List.mem_eraseDups,
    List.mem_map_of_injective fun _ _ => Key.text.inj, Fields.has_iff_mem_keys, declaredNames]

/-- What the properties of a closed record are like: different texts for names, and valid schemas without references. -/
structure Declarable (inner : List (Key × Json)) : Prop where
  formed : (Json.object inner).wellFormed = true
  passes : ∀ member ∈ inner, Passes member.2
  unreferring : ∀ member ∈ inner, Reference.count "$ref" member.2 = 0

namespace ClosedRecord

variable (record : ClosedRecord fields)

include record

/-- No name is required twice. -/
theorem nodup_required : (Property.requiredNames fields).Nodup := by
  cases found : Fields.get? fields "required" with
  | none =>
      rw [Property.requiredNames_of_missing found]
      exact List.nodup_nil
  | some argument =>
      obtain ⟨names, rfl, differ⟩ :=
        holds_texts.mp (holds_object.mp (isSchema_iff.mp record.isSchema) "required" .texts (by decide) argument found)
      have same := Property.requiredNames_of_get? found
      rw [same]
      exact (Json.allDifferent_strings fun name listed => record.written name (same.symm ▸ listed)).mp differ

theorem declarable : Declarable (declared fields) where
  formed := record.shaped.declared_formed
  passes member listed :=
    ((passes_of_isSchema record.isSchema).properties (get?_of_declared record.shaped listed)).2 member listed
  unreferring := record.unreferring

/-- A closed record is one still with other properties, and other names of them required. -/
theorem reshaped {inner : List (Key × Json)} (declarable : Declarable inner) {names : List String}
    (distinct : names.Nodup) (written : ∀ name ∈ names, Text.Written name) :
    ClosedRecord (Schema.reshaped fields inner names) where
  formed := by
    obtain ⟨textual, keys, values⟩ := (Json.wellFormed_object fields).mp record.formed
    refine (Json.wellFormed_object _).mpr ⟨fun entry listed => ?_, ?_, fun entry listed => ?_⟩
    · rcases mem_reshaped listed with rfl | rfl | old
      · exact ⟨_, rfl⟩
      · exact ⟨_, rfl⟩
      · exact textual entry old
    · unfold Schema.reshaped withRequired
      split
      · exact Fields.nodup_keys_erase (Fields.nodup_keys_put keys) _
      · exact Fields.nodup_keys_put (Fields.nodup_keys_put keys)
    · rcases mem_reshaped listed with rfl | rfl | old
      · refine (Json.wellFormed_array _).mpr fun item among => ?_
        obtain ⟨name, -, rfl⟩ := List.mem_map.mp among
        rfl
      · exact declarable.formed
      · exact values entry old
  isSchema := by
    have holds := holds_object.mp (isSchema_iff.mp record.isSchema)
    refine isSchema_iff.mpr (holds_object.mpr fun keyword rule ruled value found => ?_)
    by_cases isRequired : keyword = "required"
    · subst isRequired
      obtain rfl : Rule.texts = rule := eq_of_ruled (by decide) ruled
      rw [required_reshaped] at found
      split at found
      · cases found
      · obtain rfl := Option.some.inj found
        exact holds_texts.mpr ⟨_, rfl, Json.allDifferent_of_nodup distinct⟩
    by_cases isProperties : keyword = "properties"
    · subst isProperties
      obtain rfl : Rule.schemaMap = rule := eq_of_ruled (by decide) ruled
      obtain rfl := Option.some.inj ((properties_reshaped fields inner names).symm.trans found)
      refine ⟨.toFirst, ?_⟩
      rw [finding, membersFinding_eq_fine]
      exact fun member listed => Holds.at (declarable.passes member listed) .toFirst
    · rw [get?_reshaped fields inner names (fun same => isRequired (Key.text.inj same).symm)
        fun same => isProperties (Key.text.inj same).symm] at found
      exact holds keyword rule ruled value found
  type := (get?_reshaped fields inner names (by decide) (by decide)).trans record.type
  closed := (get?_reshaped fields inner names (by decide) (by decide)).trans record.closed
  only keyword argument listed := by
    rcases mem_reshaped listed with same | same | old
    · obtain rfl := Key.text.inj (congrArg Prod.fst same)
      exact .inl (by decide)
    · obtain rfl := Key.text.inj (congrArg Prod.fst same)
      exact .inl (by decide)
    · exact record.only keyword argument old
  unreferring := by
    rw [declared_reshaped]
    exact declarable.unreferring
  written := by
    rw [requiredNames_reshaped]
    exact written

/-- A closed record is one still when some properties are picked. -/
theorem picked (names : List String) : ClosedRecord (Schema.picked fields names) := by
  obtain ⟨textual, -, values⟩ := (Json.wellFormed_object _).mp record.shaped.declared_formed
  have inside : ∀ member ∈ Fields.restrict (declared fields) (names.map .text), member ∈ declared fields :=
    fun member listed => Fields.mem_of_get? (Fields.mem_restrict.mp listed).2
  rw [picked_eq]
  refine record.reshaped ⟨?_, fun member listed => record.declarable.passes member (inside member listed),
    fun member listed => record.unreferring member (inside member listed)⟩ (record.nodup_required.filter _)
    fun name listed => record.written name (List.mem_of_mem_filter listed)
  exact (Json.wellFormed_object _).mpr ⟨fun entry among => textual entry (inside entry among),
    Fields.nodup_keys_restrict _ _, fun entry among => values entry (inside entry among)⟩

end ClosedRecord

variable {options : Options} {value last : Json}

/-- What is seen of a picked property is what was seen of it. -/
theorem seen_picked (options : Options) (fields : List (Key × Json)) (value : Json) {name : String}
    (listed : name ∈ names) :
    seen options (picked fields names) value (.member (.text name)) =
      seen options fields value (.member (.text name)) := by
  have same : Fields.get? (declared (picked fields names)) (.text name) = Fields.get? (declared fields) (.text name) := by
    rw [declared_picked, Fields.get?_restrict, if_pos (List.mem_map_of_mem listed)]
  simp only [seen, filling_eq, defaultAt, same]

/-- What the metaschema makes sure of: the names that a closed record requires are in its list of them. -/
theorem ClosedRecord.required_of_mem (record : ClosedRecord fields) {name : String}
    (requires : name ∈ Property.requiredNames fields) :
    ∃ all : List String, Fields.get? fields "required" = some (.array (all.map .string)) ∧ name ∈ all := by
  cases there : Fields.get? fields "required" with
  | none => rw [Property.requiredNames_of_missing there] at requires; cases requires
  | some argument =>
      obtain ⟨all, rfl⟩ := record.shaped.required argument there
      exact ⟨all, rfl, Property.requiredNames_of_get? there ▸ requires⟩

/-- What is settled was seen, and can be settled. -/
theorem Makes.settles (makes : Makes options fields value last) {member : Key × Json} (listed : member ∈ declared fields)
    {child : Json} (there : seen options fields value (.member member.1) = some child) :
    ∃ new, (alone member.2).Settles options .all child new := by
  have comes := makes.settled member listed
  rw [Comes, there] at comes
  generalize last.child? (.member member.1) = new at comes
  cases comes with
  | some settles => exact ⟨_, settles⟩

/-- What is required and declared was seen. -/
theorem Makes.seen_required (record : ClosedRecord fields) (makes : Makes options fields value last) {name : String}
    (requires : name ∈ Property.requiredNames fields) (known : .text name ∈ declaredNames fields) :
    (seen options fields value (.member (.text name))).isSome = true := by
  obtain ⟨all, found, listed⟩ := record.required_of_mem requires
  obtain ⟨member, present, named⟩ := List.mem_map.mp known
  have comes := makes.settled member present
  rw [← named, comes.isSome, named]
  exact makes.required all found name listed known

/-- Nothing stands against what was made, if only declared properties are required. -/
theorem Makes.makeable (record : ClosedRecord fields) (makes : Makes options fields value last)
    (within : ∀ name ∈ Property.requiredNames fields, .text name ∈ declaredNames fields) :
    Makeable options fields value where
  settles member listed child there := makes.settles listed there
  required wanted found name listed := by
    have requires : name ∈ Property.requiredNames fields := Property.requiredNames_of_get? found ▸ listed
    exact ⟨within name requires, makes.seen_required record requires (within name requires)⟩

/-- Nothing stands against a record of properties that were settled. -/
theorem Makes.makeable_picked (record : ClosedRecord fields) (makes : Makes options fields value last)
    (within : ∀ name ∈ names, .text name ∈ declaredNames fields) :
    Makeable options (picked fields names) value where
  settles member listed child there := by
    obtain ⟨among, present⟩ := mem_declared_picked listed
    obtain ⟨name, listed, named⟩ := List.mem_map.mp among
    rw [← named, seen_picked options fields value listed, named] at there
    exact makes.settles present there
  required wanted found name listed := by
    have same := Property.requiredNames_of_get? found
    rw [requiredNames_picked] at same
    rw [← same, List.mem_filter, decide_eq_true_eq] at listed
    obtain ⟨requires, among⟩ := listed
    have declared := within name among
    refine ⟨mem_declaredNames_picked.mpr ⟨among, declared⟩, ?_⟩
    rw [seen_picked options fields value among]
    exact makes.seen_required record requires declared

/-- What a property has become is determined by what was seen of it and by its schema. -/
theorem Comes.unique {fields' : List (Key × Json)} {member member' : Key × Json} {start start' after after' : Json}
    (comes : Comes options fields start after member) (comes' : Comes options fields' start' after' member')
    (schema : member'.2 = member.2)
    (same : Schema.seen options fields' start' (.member member'.1) = Schema.seen options fields start (.member member.1)) :
    after'.child? (.member member'.1) = after.child? (.member member.1) := by
  rw [Comes, schema, same] at comes'
  rw [Comes] at comes
  generalize Schema.seen options fields start (.member member.1) = before, after.child? (.member member.1) = first,
    after'.child? (.member member'.1) = second at comes comes'
  cases comes with
  | none => cases comes'; rfl
  | some settles =>
      cases comes' with
      | some settles' => rw [settles.unique settles']

/-- What is not declared is not made. -/
theorem Makes.child?_undeclared (makes : Makes options fields value last) {name : String}
    (other : .text name ∉ declaredNames fields) : last.child? (.member (.text name)) = none := by
  rw [← Option.not_isSome_iff_eq_none, ← Json.text_mem_namesOf]
  exact fun listed => other (makes.closed _ listed)

/-- A picked property comes out as it did, and nothing else is there. -/
theorem Makes.child?_picked {last' : Json} (makes : Makes options fields value last)
    (makes' : Makes options (picked fields names) value last') (name : String) :
    last'.child? (.member (.text name)) = if name ∈ names then last.child? (.member (.text name)) else none := by
  by_cases there : .text name ∈ declaredNames (picked fields names)
  · obtain ⟨member, present, named⟩ := List.mem_map.mp there
    obtain ⟨among, present'⟩ := mem_declared_picked present
    rw [named, List.mem_map_of_injective fun _ _ => Key.text.inj] at among
    have same := seen_picked options fields value among
    rw [if_pos among, ← named]
    exact (makes.settled member present').unique (makes'.settled member present) rfl (named ▸ same)
  · rw [makes'.child?_undeclared there]
    split
    · next among => exact (makes.child?_undeclared fun known => there (mem_declaredNames_picked.mpr ⟨among, known⟩)).symm
    · rfl

end Schema

namespace Validation

variable {options : Options} {fields : List (Key × Json)} {names : List String} {value result : Json}

/-- A closed record is evaluated on objects as they are, and refuses what is no object. -/
theorem validate_record (record : ClosedRecord fields) :
    (validate options (.object fields) value).verdict = .valid result ↔
      value.isObject = true ∧ rootOutcome options (.object fields) value = accept result := by
  rw [validate_eq_valid]
  constructor
  · rintro ⟨root, coerced, accepted⟩
    have isObject := record.isObject_of_accept accepted
    obtain rfl : root = value := by
      unfold coerceRoot at coerced
      split at coerced
      · obtain ⟨converted, found, ended⟩ := bind_eq_ok.mp coerced
        cases converted with
        | none => exact (Except.ok.inj ended).symm
        | some made =>
            -- a conversion gives a scalar, which the record refuses
            obtain rfl : made = root := Except.ok.inj ended
            have scalar := coerce_flat _ found
            cases made with
            | object members => cases scalar
            | _ => cases isObject
      · exact (Except.ok.inj coerced).symm
    exact ⟨isObject, accepted⟩
  · rintro ⟨isObject, accepted⟩
    refine ⟨value, coerceRoot_container ?_, accepted⟩
    cases value <;> first | rfl | cases isObject

theorem makes_of_validate (record : ClosedRecord fields) (formed : value.wellFormed = true)
    (validated : (validate options (.object fields) value).verdict = .valid result) : Makes options fields value result :=
  (record.makes (Json.keyed_of_formed formed) ((validate_record record).mp validated).2).1

/-- A value is made something of by a record exactly if nothing stands against it, as long as only declared properties
are required. -/
theorem exists_valid_iff (record : ClosedRecord fields) (keyed : value.Keyed)
    (within : ∀ name ∈ Property.requiredNames fields, .text name ∈ declaredNames fields) :
    (∃ result, (validate options (.object fields) value).verdict = .valid result) ↔
      value.isObject = true ∧ Makeable options fields value ∧ Admits options fields value := by
  simp only [validate_record record]
  constructor
  · rintro ⟨result, isObject, accepted⟩
    exact ⟨isObject, (record.makes keyed accepted).1.makeable record within, record.admits keyed accepted⟩
  · rintro ⟨isObject, makeable, admits⟩
    obtain ⟨result, accepted⟩ := record.accepts keyed isObject makeable admits
    exact ⟨result, isObject, accepted⟩

/-- What a closed record makes of a value, the record with some of its properties picked makes of it too, as far as
they go. -/
theorem validate_picked (record : ClosedRecord fields) (removes : options.removeAdditional = true)
    (formed : value.wellFormed = true) (within : ∀ name ∈ names, .text name ∈ declaredNames fields)
    (validated : (validate options (.object fields) value).verdict = .valid result) :
    ∃ result', (validate options (.object (picked fields names)) value).verdict = .valid result' ∧
      Json.Narrows (· ∈ names.map .text) result result' := by
  obtain ⟨isObject, accepted⟩ := (validate_record record).mp validated
  have keyed := Json.keyed_of_formed formed
  have makes := makes_of_validate record formed validated
  have record' := record.picked names
  obtain ⟨result', accepted'⟩ := record'.accepts keyed isObject (makes.makeable_picked record within) (.inl removes)
  have makes' := (record'.makes keyed accepted').1
  refine ⟨result', (validate_record record').mpr ⟨isObject, accepted'⟩,
    Json.narrows_of_children makes.isObject makes'.isObject makes.keyed makes'.keyed fun name => ?_⟩
  rw [makes.child?_picked makes' name]
  simp only [List.mem_map_of_injective fun _ _ => Key.text.inj, decide_eq_true_eq]

end Validation

end SchemaAlgebra
