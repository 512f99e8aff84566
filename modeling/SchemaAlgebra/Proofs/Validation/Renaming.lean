import SchemaAlgebra.Proofs.Validation.Picking

/-!
Closed records of which a property is renamed. A value in which the name is replaced in its place is validated as the
value was: each property is seen under its new name, with the schema that it had, the same defaults are added at the
same places, and the same names are required, declared and removed. So what comes out is what came out, with the name
replaced in its place. This holds whatever the options are.
-/

namespace SchemaAlgebra

open Outcome Evaluation Schema Validation

/-- A key, or another name in the place of the one that is replaced. -/
def Key.replace (old new : String) (key : Key) : Key :=
  if key = .text old then .text new else key

theorem Key.replace_text (old new name : String) :
    (Key.text name).replace old new = .text (if name = old then new else name) := by
  simp only [replace, Key.text.injEq]
  split <;> rfl

/-- Keys other than the new name are told apart when a name is replaced. -/
theorem Key.replace_inj {old new : String} {first second : Key} (other : first ≠ .text new)
    (other' : second ≠ .text new) : first.replace old new = second.replace old new ↔ first = second := by
  refine ⟨fun same => ?_, congrArg _⟩
  unfold replace at same
  split at same <;> split at same
  · next here there => exact here.trans there.symm
  · exact absurd same.symm other'
  · exact absurd same other
  · exact same

namespace Fields

variable {α : Type} {fields : Fields Key α} {old new : String}

theorem keys_replace (fields : Fields Key α) (old new : String) :
    (fields.relabel (.text old) (.text new)).keys = fields.keys.map (Key.replace old new) :=
  keys_relabel ..

/-- Under its new name is what was under a key, if the new name was not there. -/
theorem get?_replace (free : .text new ∉ fields.keys) {key : Key} (other : key ≠ .text new) :
    (fields.relabel (.text old) (.text new)).get? (key.replace old new) = fields.get? key := by
  induction fields with
  | nil => rfl
  | cons entry rest ih =>
      obtain ⟨key', value⟩ := entry
      obtain ⟨here, later⟩ : key' ≠ .text new ∧ .text new ∉ Fields.keys rest := by
        simpa [Fields.keys, eq_comm] using free
      have same : key'.replace old new = key.replace old new ↔ key' = key := Key.replace_inj here other
      rw [Fields.get?_cons, ← ih later]
      change get? ((key'.replace old new, value) :: relabel rest (.text old) (.text new)) (key.replace old new) = _
      rw [Fields.get?_cons]
      simp only [same]

end Fields

/-- The names of an object with one of them replaced in its place. -/
def Json.relabel (old new : String) : Json → Json
  | .object members => .object (Fields.relabel members (.text old) (.text new))
  | value => value

namespace Json

variable {old new : String} {value : Json}

theorem namesOf_relabel (old new : String) (value : Json) :
    namesOf (value.relabel old new) = (namesOf value).map (Key.replace old new) := by
  cases value with
  | object members => exact Fields.keys_replace ..
  | _ => rfl

theorem isObject_relabel (old new : String) (value : Json) : (value.relabel old new).isObject = value.isObject := by
  cases value <;> rfl

theorem child?_relabel (free : .text new ∉ namesOf value) {name : String} (other : name ≠ new) :
    (value.relabel old new).child? (.member ((Key.text name).replace old new)) = value.child? (.member (.text name)) := by
  cases value with
  | object members =>
      rw [Key.replace_text, relabel, child?_text, child?_text, ← Key.replace_text]
      exact Fields.get?_replace free fun same => other (Key.text.inj same)
  | _ => rfl

theorem Keyed.relabel (keyed : value.Keyed) (free : .text new ∉ namesOf value) : (value.relabel old new).Keyed := by
  refine ⟨fun key listed => ?_, ?_⟩ <;> rw [namesOf_relabel] at *
  · obtain ⟨original, among, rfl⟩ := List.mem_map.mp listed
    obtain ⟨name, rfl⟩ := keyed.textual original among
    exact ⟨_, Key.replace_text old new name⟩
  · refine (List.nodup_map_iff_inj_on keyed.distinct).mpr fun first among second among' same => ?_
    exact (Key.replace_inj (fun absent => free (absent ▸ among)) fun absent => free (absent ▸ among')).mp same

end Json

namespace Schema

variable {options : Options} {fields : List (Key × Json)} {old new : String} {value last : Json}

/-- The schema object with a property under a new name, which is required if the old one was. -/
def renamed (fields : List (Key × Json)) (old new : String) : List (Key × Json) :=
  reshaped fields (Fields.relabel (declared fields) (.text old) (.text new))
    ((Property.requiredNames fields).filter (· ≠ old) ++
      if old ∈ Property.requiredNames fields then [new] else [])

theorem declared_renamed (fields : List (Key × Json)) (old new : String) :
    declared (renamed fields old new) = Fields.relabel (declared fields) (.text old) (.text new) :=
  declared_reshaped ..

theorem declaredNames_renamed (fields : List (Key × Json)) (old new : String) :
    declaredNames (renamed fields old new) = (declaredNames fields).map (Key.replace old new) := by
  rw [declaredNames, declared_renamed, Fields.keys_replace, declaredNames]

/-- The names that are required are those that were, each as it is called now. -/
theorem mem_required_renamed {name : String} : name ∈ Property.requiredNames (renamed fields old new) ↔
    ∃ original ∈ Property.requiredNames fields, Key.text name = (Key.text original).replace old new := by
  rw [renamed, requiredNames_reshaped, List.mem_append, List.mem_filter, decide_eq_true_eq]
  simp only [Key.replace_text, Key.text.injEq]
  constructor
  · rintro (⟨listed, other⟩ | listed)
    · exact ⟨name, listed, (if_neg other).symm⟩
    · split at listed
      · next among => exact ⟨old, among, (List.mem_singleton.mp listed).trans (if_pos rfl).symm⟩
      · cases listed
  · rintro ⟨original, listed, rfl⟩
    by_cases same : original = old
    · subst same
      rw [if_pos rfl, if_pos listed]
      exact .inr (List.mem_singleton_self _)
    · rw [if_neg same]
      exact .inl ⟨listed, same⟩

/-- A property of a record that is closed can be renamed: it is declared, the new name is not, and only declared
properties are required. -/
structure Renames (fields : List (Key × Json)) (old new : String) : Prop where
  record : ClosedRecord fields
  free : .text new ∉ declaredNames fields
  written : Text.Written new
  within : ∀ name ∈ Property.requiredNames fields, .text name ∈ declaredNames fields

namespace Renames

variable (renames : Renames fields old new)

include renames

theorem not_required : new ∉ Property.requiredNames fields :=
  fun listed => renames.free (renames.within new listed)

theorem key_ne {key : Key} (known : key ∈ declaredNames fields) : key ≠ .text new :=
  fun same => renames.free (same ▸ known)

theorem mem_declaredNames {key : Key} (other : key ≠ .text new) :
    key.replace old new ∈ declaredNames (renamed fields old new) ↔ key ∈ declaredNames fields := by
  rw [declaredNames_renamed]
  refine ⟨fun listed => ?_, List.mem_map_of_mem⟩
  obtain ⟨original, among, same⟩ := List.mem_map.mp listed
  exact (Key.replace_inj (renames.key_ne among) other).mp same ▸ among

/-- A closed record is one still when a property is renamed. -/
theorem renamed : ClosedRecord (renamed fields old new) := by
  obtain ⟨textual, distinct, values⟩ := (Json.wellFormed_object _).mp renames.record.shaped.declared_formed
  have free : Fields.has (declared fields) (.text new) = false := by
    rw [Fields.has_eq_decide, decide_eq_false_iff_not]
    exact renames.free
  have original {member : Key × Json} (listed : member ∈ Fields.relabel (declared fields) (.text old) (.text new)) :
      ∃ before ∈ declared fields, (if before.1 = .text old then .text new else before.1, before.2) = member :=
    List.mem_map.mp listed
  refine renames.record.reshaped ⟨?_, fun member listed => ?_, fun member listed => ?_⟩ ?_ fun name listed => ?_
  · refine (Json.wellFormed_object _).mpr ⟨fun entry listed => ?_, Fields.nodup_keys_relabel distinct free,
      fun entry listed => ?_⟩ <;> obtain ⟨before, among, rfl⟩ := original listed
    · dsimp only
      split
      · exact ⟨new, rfl⟩
      · exact textual before among
    · exact values before among
  · obtain ⟨before, among, rfl⟩ := original listed
    exact renames.record.declarable.passes before among
  · obtain ⟨before, among, rfl⟩ := original listed
    exact renames.record.unreferring before among
  · refine List.nodup_append'.mpr ⟨renames.record.nodup_required.filter _, ?_, fun name listed among => ?_⟩
    · split
      · exact List.nodup_singleton new
      · exact List.nodup_nil
    · split at among
      · exact renames.not_required (List.mem_singleton.mp among ▸ List.mem_of_mem_filter listed)
      · cases among
  · rcases List.mem_append.mp listed with kept | added
    · exact renames.record.written name (List.mem_of_mem_filter kept)
    · split at added
      · exact List.mem_singleton.mp added ▸ renames.written
      · cases added

variable (free : .text new ∉ namesOf value)

include free

/-- Under its new name is seen what was seen of a property. -/
theorem seen_renamed (options : Options) {name : String} (other : name ≠ new) :
    seen options (Schema.renamed fields old new) (value.relabel old new) (.member ((Key.text name).replace old new)) =
      seen options fields value (.member (.text name)) := by
  have same : Fields.get? (declared (Schema.renamed fields old new)) ((Key.text name).replace old new) =
      Fields.get? (declared fields) (.text name) := by
    rw [declared_renamed]
    exact Fields.get?_replace renames.free fun same => other (Key.text.inj same)
  simp only [seen, filling_eq, defaultAt, same, Json.isObject_relabel, Json.child?_relabel free other]

/-- The properties that can be settled and are required are the same, each as it is called now. -/
theorem makeable_iff : Makeable options (Schema.renamed fields old new) (value.relabel old new) ↔
    Makeable options fields value := by
  have known {member : Key × Json} (listed : member ∈ declared fields) :
      ∃ name, member.1 = .text name ∧ name ≠ new := by
    obtain ⟨name, named⟩ := renames.record.textual listed
    refine ⟨name, named, ?_⟩
    rintro rfl
    exact renames.key_ne (List.mem_map_of_mem listed) named
  constructor
  · intro makeable
    refine ⟨fun member listed child there => ?_, fun wanted found name listed => ?_⟩
    · obtain ⟨name, named, other⟩ := known listed
      have listed' : ((Key.text name).replace old new, member.2) ∈ declared (Schema.renamed fields old new) := by
        rw [declared_renamed, ← named]
        exact List.mem_map_of_mem listed
      refine makeable.settles _ listed' child ?_
      rw [renames.seen_renamed free options other, ← named]
      exact there
    · have requires : name ∈ Property.requiredNames fields := Property.requiredNames_of_get? found ▸ listed
      have other : name ≠ new := fun same => renames.not_required (same ▸ requires)
      refine ⟨renames.within name requires, ?_⟩
      obtain ⟨all, found', listed'⟩ := renames.renamed.required_of_mem
        (mem_required_renamed.mpr ⟨name, requires, (Key.replace_text old new name).symm⟩)
      have there := (makeable.required all found' _ listed').2
      rwa [← Key.replace_text, renames.seen_renamed free options other] at there
  · intro makeable
    refine ⟨fun member listed child there => ?_, fun wanted found name listed => ?_⟩
    · rw [declared_renamed] at listed
      obtain ⟨original, among, rfl⟩ := List.mem_map.mp listed
      obtain ⟨name, named, other⟩ := known among
      have called : (if original.1 = Key.text old then Key.text new else original.1) = (Key.text name).replace old new := by
        rw [named]
        rfl
      dsimp only at there ⊢
      rw [called, renames.seen_renamed free options other, ← named] at there
      exact makeable.settles original among child there
    · have requires : name ∈ Property.requiredNames (Schema.renamed fields old new) :=
        Property.requiredNames_of_get? found ▸ listed
      obtain ⟨original, before, called⟩ := mem_required_renamed.mp requires
      have other : original ≠ new := fun same => renames.not_required (same ▸ before)
      obtain ⟨all, found', listed'⟩ := renames.record.required_of_mem before
      obtain ⟨known, there⟩ := makeable.required all found' original listed'
      rw [called, renames.seen_renamed free options other,
        renames.mem_declaredNames fun same => other (Key.text.inj same)]
      exact ⟨known, there⟩

theorem admits_iff : Admits options (Schema.renamed fields old new) (value.relabel old new) ↔
    Admits options fields value := by
  refine or_congr_right ?_
  rw [Json.namesOf_relabel, List.forall_mem_map]
  exact forall₂_congr fun key listed => renames.mem_declaredNames fun same => free (same ▸ listed)

/-- The names come out in the same order, each as it is called now. -/
theorem resultNames_renamed (options : Options) :
    resultNames options (Schema.renamed fields old new) ((namesOf value).map (Key.replace old new)) =
      (resultNames options fields (namesOf value)).map (Key.replace old new) := by
  have defaults : defaultNames options (Schema.renamed fields old new) =
      (defaultNames options fields).map (Key.replace old new) := by
    unfold defaultNames
    split
    · rw [declared_renamed, defaultedNames, defaultedNames, Fields.relabel, List.filter_map, List.map_map, List.map_map]
      rfl
    · rfl
  have other : ∀ key ∈ namesOf value, key ≠ .text new := fun key listed same => free (same ▸ listed)
  have other' : ∀ key ∈ defaultNames options fields, key ≠ .text new :=
    fun key listed => renames.key_ne (mem_declaredNames_of_default listed)
  have injective : ∀ first second : Key, first ≠ .text new → second ≠ .text new →
      first.replace old new = second.replace old new → first = second :=
    fun first second apart apart' same => (Key.replace_inj apart apart').mp same
  have added := map_supplement injective other other'
  rw [resultNames, resultNames, defaults, ← added]
  split
  · rw [List.filter_map]
    refine congrArg _ (List.filter_congr fun key listed => ?_)
    rw [Function.comp_apply, decide_eq_decide]
    exact renames.mem_declaredNames ((mem_supplement.mp listed).elim (other key) (other' key))
  · rfl

omit free in
/-- No name that comes out is the new one. -/
theorem not_made (makes : Makes options fields value last) : .text new ∉ namesOf last :=
  fun listed => renames.free (makes.closed _ listed)

/-- What is made is what was made, with the name replaced in its place. -/
theorem eq_relabel {last' : Json} (makes : Makes options fields value last)
    (names : namesOf last = resultNames options fields (namesOf value))
    (makes' : Makes options (Schema.renamed fields old new) (value.relabel old new) last')
    (names' : namesOf last' = resultNames options (Schema.renamed fields old new) (namesOf (value.relabel old new))) :
    last' = last.relabel old new := by
  have notMade := renames.not_made makes
  have same : namesOf last' = namesOf (last.relabel old new) := by
    rw [names', Json.namesOf_relabel, Json.namesOf_relabel, renames.resultNames_renamed free, names]
  refine Json.eq_of_children ((Json.isObject_relabel ..).trans makes.isObject) makes'.isObject
    (makes.keyed.relabel notMade) same fun name listed => ?_
  rw [Json.namesOf_relabel] at listed
  obtain ⟨key, among, called⟩ := List.mem_map.mp listed
  obtain ⟨original, rfl⟩ := makes.keyed.textual key among
  have other : original ≠ new := fun same => notMade (same ▸ among)
  obtain ⟨member, present, named⟩ := List.mem_map.mp (makes.closed _ among)
  have present' : ((Key.text original).replace old new, member.2) ∈ declared (Schema.renamed fields old new) := by
    rw [declared_renamed, ← named]
    exact List.mem_map_of_mem present
  have same := renames.seen_renamed free options other
  rw [← named] at same
  rw [← called, Json.child?_relabel notMade other, ← named]
  have settled' := makes'.settled (member.1.replace old new, member.2) (named ▸ present')
  exact (makes.settled member present).unique settled' rfl same

end Renames

end Schema

namespace Validation

variable {options : Options} {fields : List (Key × Json)} {old new : String} {value result : Json}

/-- To validate a value in which a name is replaced against the schema in which it is renamed is to validate the value
and then to replace the name in what comes out. -/
theorem validate_renamed (renames : Renames fields old new) (keyed : value.Keyed) (free : .text new ∉ namesOf value) :
    (validate options (.object (renamed fields old new)) (value.relabel old new)).verdict = .valid result ↔
      ∃ before, (validate options (.object fields) value).verdict = .valid before ∧
        result = before.relabel old new := by
  have record := renames.record
  have keyed' : (value.relabel old new).Keyed := keyed.relabel free
  have within' : ∀ name ∈ Property.requiredNames (renamed fields old new),
      .text name ∈ declaredNames (renamed fields old new) := by
    intro name listed
    obtain ⟨original, requires, called⟩ := mem_required_renamed.mp listed
    rw [called, declaredNames_renamed]
    exact List.mem_map_of_mem (renames.within original requires)
  have both : (∃ result, (validate options (.object (renamed fields old new)) (value.relabel old new)).verdict =
      .valid result) ↔ ∃ before, (validate options (.object fields) value).verdict = .valid before := by
    rw [exists_valid_iff renames.renamed keyed' within', exists_valid_iff record keyed renames.within,
      Json.isObject_relabel, renames.makeable_iff free, renames.admits_iff free]
  have same {before after : Json} (valid : (validate options (.object fields) value).verdict = .valid before)
      (valid' : (validate options (.object (renamed fields old new)) (value.relabel old new)).verdict = .valid after) :
      after = before.relabel old new := by
    obtain ⟨makes, names⟩ := record.makes keyed ((validate_record record).mp valid).2
    obtain ⟨makes', names'⟩ := renames.renamed.makes keyed' ((validate_record renames.renamed).mp valid').2
    exact renames.eq_relabel free makes names makes' names'
  constructor
  · intro valid'
    obtain ⟨before, valid⟩ := both.mp ⟨result, valid'⟩
    exact ⟨before, valid, same valid valid'⟩
  · rintro ⟨before, valid, rfl⟩
    obtain ⟨after, valid'⟩ := both.mpr ⟨before, valid⟩
    rw [valid', same valid valid']

end Validation

end SchemaAlgebra
