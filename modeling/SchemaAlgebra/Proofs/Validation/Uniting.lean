import SchemaAlgebra.Proofs.Validation.Picking

/-!
Closed records put together. Of two records that have no property in common, the one with the properties of both
requires what either requires. Each property is seen as it is seen by the record that it comes from, and settled by
the same schema. So a value is valid against both together exactly if it is valid against each, and what comes out has
what comes out of either.
-/

namespace SchemaAlgebra

open Outcome Evaluation Schema Validation Metaschema

namespace Fields

theorem get?_append {κ α : Type} [DecidableEq κ] (fields others : Fields κ α) (key : κ) :
    get? (fields ++ others) key = (fields.get? key).or (others.get? key) := by
  induction fields with
  | nil => rfl
  | cons entry rest ih =>
      obtain ⟨key', value⟩ := entry
      rw [List.cons_append, get?_cons, get?_cons]
      split
      · rfl
      · exact ih

end Fields

/-- A result has, as a mapping, what two others have, and they have nothing in common. -/
def Json.Joins (left right result : Json) : Prop :=
  ∃ members members' joined, left = .object members ∧ right = .object members' ∧ result = .object joined ∧
    (Fields.keys joined).Nodup ∧ joined.Perm (members ++ members')

/-- Objects are so related if this holds of what each name leads to. -/
theorem Json.joins_of_children {left right result : Json} (isObject : left.isObject = true)
    (isObject' : right.isObject = true) (isObject'' : result.isObject = true) (keyed : left.Keyed) (keyed' : right.Keyed)
    (keyed'' : result.Keyed) (disjoint : ∀ key ∈ namesOf left, key ∉ namesOf right)
    (children : ∀ name, result.child? (.member (.text name)) =
      (left.child? (.member (.text name))).or (right.child? (.member (.text name)))) : Joins left right result := by
  cases left <;> try cases isObject
  next members =>
  cases right <;> try cases isObject'
  next members' =>
  cases result <;> try cases isObject''
  next joined =>
  simp only [child?_text] at children
  have distinct : (Fields.keys (members ++ members')).Nodup := by
    rw [Fields.keys, List.map_append]
    exact List.nodup_append'.mpr ⟨keyed.distinct, keyed'.distinct, fun key listed => disjoint key listed⟩
  have textual : ∀ entry ∈ members ++ members', ∃ name, entry.1 = .text name := by
    refine List.forall_mem_append.mpr ⟨fun entry listed => ?_, fun entry listed => ?_⟩
    · exact keyed.textual _ (List.mem_map_of_mem listed)
    · exact keyed'.textual _ (List.mem_map_of_mem listed)
  refine ⟨members, members', joined, rfl, rfl, rfl, keyed''.distinct, (List.perm_ext_iff_of_nodup
    (.of_map Prod.fst keyed''.distinct) (.of_map Prod.fst distinct)).mpr fun entry => ?_⟩
  obtain ⟨key, value⟩ := entry
  constructor
  · intro listed
    obtain ⟨name, rfl⟩ := keyed''.textual _ (List.mem_map_of_mem listed)
    refine Fields.mem_of_get? ?_
    rw [Fields.get?_append, ← children, Fields.get?_of_mem keyed''.distinct listed]
  · intro listed
    obtain ⟨name, rfl⟩ := textual _ listed
    refine Fields.mem_of_get? ?_
    rw [children, ← Fields.get?_append, Fields.get?_of_mem distinct listed]

namespace Schema

variable {options : Options} {fields others : List (Key × Json)} {names : List String} {value left right last : Json}

/-- The schema object with the properties of another one too, that requires some names. -/
def united (fields others : List (Key × Json)) (names : List String) : List (Key × Json) :=
  reshaped fields (declared fields ++ declared others) names

/-- Two closed records without a common property can be put together if the names are those that either requires, each
of which is declared there. -/
structure Unites (fields others : List (Key × Json)) (names : List String) : Prop where
  record : ClosedRecord fields
  record' : ClosedRecord others
  disjoint : ∀ key ∈ declaredNames fields, key ∉ declaredNames others
  within : ∀ name ∈ Property.requiredNames fields, .text name ∈ declaredNames fields
  within' : ∀ name ∈ Property.requiredNames others, .text name ∈ declaredNames others
  distinct : names.Nodup
  either : ∀ name, name ∈ names ↔ name ∈ Property.requiredNames fields ∨ name ∈ Property.requiredNames others

theorem declared_united (fields others : List (Key × Json)) (names : List String) :
    declared (united fields others names) = declared fields ++ declared others :=
  declared_reshaped ..

theorem mem_declaredNames_united {key : Key} : key ∈ declaredNames (united fields others names) ↔
    key ∈ declaredNames fields ∨ key ∈ declaredNames others := by
  rw [declaredNames, declared_united, Fields.keys, List.map_append, List.mem_append]
  rfl

/-- What is seen of a property of the first record is what this one sees. -/
theorem seen_united (fields others : List (Key × Json)) (names : List String) (options : Options) (value : Json) {key : Key}
    (known : key ∈ declaredNames fields) :
    seen options (Schema.united fields others names) value (.member key) = seen options fields value (.member key) := by
  obtain ⟨schema, found⟩ := Option.isSome_iff_exists.mp ((Fields.has_iff_mem_keys _ _).mpr known)
  have same : Fields.get? (declared (Schema.united fields others names)) key = Fields.get? (declared fields) key := by
    rw [declared_united, Fields.get?_append, found]
    rfl
  simp only [seen, filling_eq, defaultAt, same]

namespace Unites

variable (unites : Unites fields others names)

include unites

/-- Closed records that are put together are one. -/
theorem united : ClosedRecord (united fields others names) := by
  have first := unites.record.declarable
  have second := unites.record'.declarable
  obtain ⟨textual, distinct, values⟩ := (Json.wellFormed_object _).mp first.formed
  obtain ⟨textual', distinct', values'⟩ := (Json.wellFormed_object _).mp second.formed
  refine unites.record.reshaped ⟨?_, List.forall_mem_append.mpr ⟨first.passes, second.passes⟩,
    List.forall_mem_append.mpr ⟨first.unreferring, second.unreferring⟩⟩ unites.distinct fun name listed => ?_
  · refine (Json.wellFormed_object _).mpr ⟨List.forall_mem_append.mpr ⟨textual, textual'⟩, ?_,
      List.forall_mem_append.mpr ⟨values, values'⟩⟩
    rw [Fields.keys, List.map_append]
    exact List.nodup_append'.mpr ⟨distinct, distinct', fun key listed => unites.disjoint key listed⟩
  · exact ((unites.either name).mp listed).elim (unites.record.written name) (unites.record'.written name)

/-- What is seen of a property of the second record is what this one sees. -/
theorem seen_right (options : Options) (value : Json) {key : Key} (known : key ∈ declaredNames others) :
    seen options (Schema.united fields others names) value (.member key) = seen options others value (.member key) := by
  have other : Fields.get? (declared fields) key = none :=
    (Fields.get?_eq_none_iff _ _).mpr fun listed => unites.disjoint key listed known
  have same : Fields.get? (declared (Schema.united fields others names)) key = Fields.get? (declared others) key := by
    rw [declared_united, Fields.get?_append, other]
    rfl
  simp only [seen, filling_eq, defaultAt, same]

/-- Nothing stands against both together if nothing stands against either. -/
theorem makeable_iff : Makeable options (Schema.united fields others names) value ↔
    Makeable options fields value ∧ Makeable options others value := by
  have declares := declared_united fields others names
  constructor
  · intro makeable
    have required {name : String} (requires : name ∈ names) :
        (seen options (Schema.united fields others names) value (.member (.text name))).isSome = true := by
      have listed : name ∈ Property.requiredNames (Schema.united fields others names) :=
        (requiredNames_reshaped ..).symm ▸ requires
      obtain ⟨all, found, among⟩ := unites.united.required_of_mem listed
      exact (makeable.required all found name among).2
    refine ⟨⟨fun member listed child there => ?_, fun wanted found name listed => ?_⟩,
      fun member listed child there => ?_, fun wanted found name listed => ?_⟩
    · exact makeable.settles member (declares ▸ List.mem_append_left _ listed) child
        ((seen_united fields others names options value (List.mem_map_of_mem listed)).trans there)
    · have requires : name ∈ Property.requiredNames fields := Property.requiredNames_of_get? found ▸ listed
      have known := unites.within name requires
      refine ⟨known, ?_⟩
      rw [← seen_united fields others names options value known]
      exact required ((unites.either name).mpr (.inl requires))
    · exact makeable.settles member (declares ▸ List.mem_append_right _ listed) child
        ((unites.seen_right options value (List.mem_map_of_mem listed)).trans there)
    · have requires : name ∈ Property.requiredNames others := Property.requiredNames_of_get? found ▸ listed
      have known := unites.within' name requires
      exact ⟨known, unites.seen_right options value known ▸ required ((unites.either name).mpr (.inr requires))⟩
  · rintro ⟨first, second⟩
    refine ⟨fun member listed child there => ?_, fun wanted found name listed => ?_⟩
    · rw [declares] at listed
      rcases List.mem_append.mp listed with mine | theirs
      · have seen := seen_united fields others names options value (List.mem_map_of_mem mine)
        exact first.settles member mine child (seen.symm.trans there)
      · exact second.settles member theirs child
          ((unites.seen_right options value (List.mem_map_of_mem theirs)).symm.trans there)
    · have same := Property.requiredNames_of_get? found
      rw [Schema.united, requiredNames_reshaped] at same
      rcases (unites.either name).mp (same ▸ listed) with mine | theirs
      · obtain ⟨all, found', among⟩ := unites.record.required_of_mem mine
        obtain ⟨known, there⟩ := first.required all found' name among
        exact ⟨mem_declaredNames_united.mpr (.inl known), (seen_united fields others names options value known).symm ▸ there⟩
      · obtain ⟨all, found', among⟩ := unites.record'.required_of_mem theirs
        obtain ⟨known, there⟩ := second.required all found' name among
        exact ⟨mem_declaredNames_united.mpr (.inr known), (unites.seen_right options value known).symm ▸ there⟩

end Unites

/-- What both together make of a value has what either makes of it. -/
theorem Unites.joins (unites : Unites fields others names) (makes : Makes options fields value left)
    (makes' : Makes options others value right) (makes'' : Makes options (Schema.united fields others names) value last) :
    Json.Joins left right last := by
  have declares := declared_united fields others names
  refine Json.joins_of_children makes.isObject makes'.isObject makes''.isObject makes.keyed makes'.keyed makes''.keyed
    (fun key listed listed' => unites.disjoint key (makes.closed key listed) (makes'.closed key listed')) fun name => ?_
  by_cases mine : .text name ∈ declaredNames fields
  · rw [makes'.child?_undeclared (unites.disjoint _ mine), Option.or_none]
    obtain ⟨member, present, named⟩ := List.mem_map.mp mine
    have comes := makes''.settled member (declares ▸ List.mem_append_left _ present)
    have same := seen_united fields others names options value mine
    exact named ▸ (makes.settled member present).unique comes rfl (named ▸ same)
  rw [makes.child?_undeclared mine, Option.none_or]
  by_cases theirs : .text name ∈ declaredNames others
  · obtain ⟨member, present, named⟩ := List.mem_map.mp theirs
    have comes := makes''.settled member (declares ▸ List.mem_append_right _ present)
    have same := unites.seen_right options value theirs
    exact named ▸ (makes'.settled member present).unique comes rfl (named ▸ same)
  · rw [makes'.child?_undeclared theirs, makes''.child?_undeclared]
    exact fun known => (mem_declaredNames_united.mp known).elim mine theirs

end Schema

namespace Validation

variable {options : Options} {fields others : List (Key × Json)} {names : List String} {value : Json}

/-- A value is valid against two records put together exactly if it is valid against each of them, and then what comes
out has what comes out of either. -/
theorem validate_united (unites : Unites fields others names) (removes : options.removeAdditional = true)
    (keyed : value.Keyed) :
    ((∃ result, (validate options (.object (united fields others names)) value).verdict = .valid result) ↔
      (∃ left, (validate options (.object fields) value).verdict = .valid left) ∧
        ∃ right, (validate options (.object others) value).verdict = .valid right) ∧
      ∀ left right result, (validate options (.object fields) value).verdict = .valid left →
        (validate options (.object others) value).verdict = .valid right →
        (validate options (.object (united fields others names)) value).verdict = .valid result →
          Json.Joins left right result := by
  have record := unites.record
  have record' := unites.record'
  have admits {schema : List (Key × Json)} : Admits options schema value := .inl removes
  constructor
  · have within : ∀ name ∈ Property.requiredNames (united fields others names),
        .text name ∈ declaredNames (united fields others names) := by
      intro name listed
      rw [united, requiredNames_reshaped] at listed
      exact mem_declaredNames_united.mpr
        (((unites.either name).mp listed).imp (unites.within name) (unites.within' name))
    rw [exists_valid_iff unites.united keyed within, exists_valid_iff record keyed unites.within,
      exists_valid_iff record' keyed unites.within', unites.makeable_iff]
    simp only [admits, and_true]
    tauto
  · intro left right result valid valid' valid''
    exact unites.joins (record.makes keyed ((validate_record record).mp valid).2).1
      (record'.makes keyed ((validate_record record').mp valid').2).1
      (unites.united.makes keyed ((validate_record unites.united).mp valid'').2).1

end Validation

end SchemaAlgebra
