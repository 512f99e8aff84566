import SchemaAlgebra.Proofs.Running
import SchemaAlgebra.Proofs.Validation.Subschema

/-!
What conversion can yield. Each conversion makes values of its own kind only, so nothing but scalars is made,
whatever the schema is: types only name conversions to scalars, and the branches of a schema without type convert no
further than their own types.
-/

namespace SchemaAlgebra

namespace Coercion

variable {value converted : Json}

theorem eq_string_of_integerText {n : Int} (made : integerText n = .ok converted) :
    ∃ text, converted = .string text := by
  unfold integerText at made
  split at made
  · exact ⟨_, (Except.ok.inj made).symm⟩
  · simp at made

theorem eq_string_of_toText? (made : toText? value = .ok (some converted)) : ∃ text, converted = .string text := by
  have written : ∀ n, some <$> integerText n = .ok (some converted) → ∃ text, converted = .string text := by
    intro n made
    cases found : integerText n with
    | error fault => simp [found, Functor.map, Except.map] at made
    | ok text =>
        simp only [found, Functor.map, Except.map, Except.ok.injEq, Option.some.injEq] at made
        exact eq_string_of_integerText (made ▸ found)
  unfold toText? at made
  split at made
  · exact ⟨_, (Option.some.inj (Except.ok.inj made)).symm⟩
  · exact ⟨_, (Option.some.inj (Except.ok.inj made)).symm⟩
  · exact written _ made
  · split at made
    · exact written _ made
    · exact ⟨_, (Option.some.inj (Except.ok.inj made)).symm⟩
  · simp at made

/-- Only texts that are no whole numerals become doubles, and only finite ones. -/
theorem eq_number_of_toNumber? (made : toNumber? value = some converted) :
    (∃ n, converted = .int n) ∨ ∃ d : Double, converted = .double d ∧ d.isFinite = true := by
  unfold toNumber? at made
  split at made
  · exact .inl ⟨_, (Option.some.inj made).symm⟩
  · exact .inl ⟨_, (Option.some.inj made).symm⟩
  · simp only at made
    split at made
    · exact .inl ⟨_, (Option.some.inj made).symm⟩
    · split at made
      · next d _ =>
          split at made
          · next finite => exact .inr ⟨d, (Option.some.inj made).symm, finite⟩
          · simp at made
      · simp at made
  · simp at made

/-- What becomes a whole number is a double or becomes one first, if it does not become a number that is no double. -/
theorem toInteger?_cases (made : toInteger? value = some converted) :
    (∃ d n, (value = .double d ∨ toNumber? value = some (.double d)) ∧ d.toInt? = some n ∧ converted = .int n) ∨
      toNumber? value = some converted ∧ ∀ d, converted ≠ .double d := by
  unfold toInteger? at made
  split at made
  · next d =>
      obtain ⟨n, whole, rfl⟩ := Option.map_eq_some_iff.mp made
      exact .inl ⟨d, n, .inl rfl, whole, rfl⟩
  · simp only at made
    split at made
    · next d found =>
        obtain ⟨n, whole, rfl⟩ := Option.map_eq_some_iff.mp made
        exact .inl ⟨d, n, .inr found, whole, rfl⟩
    · next noDouble => exact .inr ⟨made, fun d same => noDouble d (same ▸ made)⟩

theorem eq_int_of_toInteger? (made : toInteger? value = some converted) : ∃ n, converted = .int n := by
  obtain ⟨d, n, -, -, rfl⟩ | ⟨number, noDouble⟩ := toInteger?_cases made
  · exact ⟨n, rfl⟩
  · obtain isInt | ⟨d, rfl, -⟩ := eq_number_of_toNumber? number
    · exact isInt
    · exact absurd rfl (noDouble d)

theorem eq_bool_of_toBoolean? (made : toBoolean? value = some converted) : ∃ b, converted = .bool b := by
  unfold toBoolean? at made
  split at made
  iterate 3 exact ⟨_, (Option.some.inj made).symm⟩
  split at made
  · split at made
    · exact ⟨_, (Option.some.inj made).symm⟩
    · split at made
      · exact ⟨_, (Option.some.inj made).symm⟩
      · simp at made
  · simp at made

theorem eq_null_of_toNull? (made : toNull? value = some converted) : converted = .null := by
  unfold toNull? at made
  split at made
  iterate 2 exact (Option.some.inj made).symm
  split at made
  · split at made
    · exact (Option.some.inj made).symm
    · simp at made
  · simp at made

theorem convert?_flat {type : Json} (made : convert? value type = .ok (some converted)) :
    converted.isContainer = false := by
  unfold convert? at made
  split at made
  · obtain ⟨text, rfl⟩ := eq_string_of_toText? made
    rfl
  · obtain ⟨n, rfl⟩ | ⟨d, rfl, -⟩ := eq_number_of_toNumber? (Except.ok.inj made)
    all_goals rfl
  · obtain ⟨n, rfl⟩ := eq_int_of_toInteger? (Except.ok.inj made)
    rfl
  · obtain ⟨b, rfl⟩ := eq_bool_of_toBoolean? (Except.ok.inj made)
    rfl
  · obtain rfl := eq_null_of_toNull? (Except.ok.inj made)
    rfl
  · simp at made

theorem convertFirst?_flat {types : List Json}
    (made : convertFirst? value types = .ok (some converted)) : converted.isContainer = false := by
  induction types with
  | nil => simp [convertFirst?] at made
  | cons type rest ih =>
      rw [convertFirst?] at made
      split at made
      · exact ih made
      · exact convert?_flat made

theorem conversion?_flat {checker : TypeChecker} {types : List Json}
    (made : conversion? checker types value = .ok (some converted)) :
    converted.isContainer = false := by
  unfold conversion? at made
  split at made
  · simp [pure, Except.pure] at made
  · obtain ⟨found, -, made⟩ := bind_eq_ok.mp made
    split at made
    · simp [pure, Except.pure] at made
    · exact convertFirst?_flat made

end Coercion

namespace Evaluation

variable {meaning : Meaning} {location : String}

/-- The branches that coercion tries are items of the arguments of the schema's keywords. -/
theorem mem_coercionBranches {fields : List (Key × Json)} {branches : List Part}
    (found : coercionBranches (nodeWith meaning location fields) = .ok branches) {branch : Part}
    (member : branch ∈ branches) :
    ∃ entry ∈ fields, ∃ schema ∈ entry.2.items, branch = partWith meaning location schema := by
  unfold coercionBranches at found
  obtain ⟨lists, listed, found⟩ := bind_eq_ok.mp found
  obtain rfl := Except.ok.inj found
  obtain ⟨inside, isObject⟩ := List.mem_filter.mp member
  obtain ⟨parts, among, member⟩ := List.mem_flatten.mp inside
  obtain ⟨keyword, -, taken⟩ := mem_of_mapM_ok listed among
  rw [argument?_nodeWith] at taken
  cases held : Fields.get? fields (.text keyword) with
  | none =>
      simp only [held, Option.map_none, Except.ok.injEq] at taken
      simp [← taken] at member
  | some argument =>
      simp only [held, Option.map_some] at taken
      split at taken
      · refine ⟨_, Fields.mem_of_get? held, ?_⟩
        unfold Parts.branches at taken
        split at taken
        · obtain rfl := Except.ok.inj taken
          exact mem_argumentWith_items meaning location member
        · -- what is listed otherwise is no schema object
          split at taken
          · next elements listed =>
              obtain rfl := Except.ok.inj taken
              obtain ⟨element, present, rfl⟩ := List.mem_map.mp member
              simp only [argumentWith_self, partWith_schema] at listed
              cases argument <;> simp only [Json.elements?, reduceCtorEq, Option.some.injEq] at listed <;>
                subst listed
              · obtain ⟨character, -, rfl⟩ := List.mem_map.mp present
                simp [Part.flat, Json.isObject] at isObject
              · simp_all
              · obtain ⟨key, -, rfl⟩ := List.mem_map.mp present
                cases key <;> simp [Part.flat, Key.toJson, Json.isObject] at isObject
          · simp at taken
      · obtain rfl := Except.ok.inj taken
        simp at member

theorem firstAccepted_mem {run : Options → Extent → Json → Outcome} {options : Options}
    {value converted : Json} {branches : List Part}
    (found : firstAccepted run options value branches = .ok (some converted)) :
    ∃ branch ∈ branches, branch.coerce options value = .ok (some converted) := by
  induction branches with
  | nil => simp [firstAccepted] at found
  | cons branch rest ih =>
      rw [firstAccepted] at found
      obtain ⟨candidate, coerced, found⟩ := bind_eq_ok.mp found
      have later : firstAccepted run options value rest = .ok (some converted) →
          ∃ branch' ∈ branch :: rest, branch'.coerce options value = .ok (some converted) := by
        intro found
        obtain ⟨other, member, coerced⟩ := ih found
        exact ⟨other, by simp [member], coerced⟩
      cases candidate with
      | none => exact later found
      | some candidate =>
          obtain ⟨accepted, -, found⟩ := bind_eq_ok.mp found
          split at found
          · obtain rfl := Option.some.inj (Except.ok.inj found)
            exact ⟨branch, by simp, coerced⟩
          · exact later found

/-- Conversion makes nothing but scalars. -/
theorem coerce_flat (schema : Json) : ∀ {options : Options} {value converted : Json},
    (partWith meaning location schema).coerce options value = .ok (some converted) →
      converted.isContainer = false := by
  induction schema using Json.schemaInduction with
  | flat schema notObject =>
      intro options value converted made
      rw [partWith_flat meaning location notObject] at made
      simp [Part.flat] at made
  | object fields ih =>
      intro options value converted made
      simp only [partWith, coerceNode] at made
      split at made
      · simp at made
      · split at made
        · obtain ⟨branches, found, made⟩ := bind_eq_ok.mp made
          split at made
          · simp [pure, Except.pure] at made
          · obtain ⟨accepted, -, made⟩ := bind_eq_ok.mp made
            split at made
            · simp [pure, Except.pure] at made
            · obtain ⟨branch, member, coerced⟩ := firstAccepted_mem made
              obtain ⟨entry, present, schema, listed, rfl⟩ := mem_coercionBranches found member
              exact (ih entry present).2.1 schema listed coerced
        · exact Coercion.conversion?_flat made

end Evaluation

end SchemaAlgebra
