import SchemaAlgebra.Proofs.Session.Moves
import SchemaAlgebra.Proofs.Session.Picking
import SchemaAlgebra.Proofs.Validation.Renaming

/-!
Renaming and validation. A builder of a closed record is copied and a property of the copy is renamed: on a value in
which the name is replaced in its place, the copy gives what the builder gives on the value, with the name replaced in
its place. This too takes that the builder validates with the schema that it has.
-/

namespace SchemaAlgebra

open Schema

variable {fields : List (Key × Json)} {old new : String}

/-- In a store a property of a closed record can be renamed, and the record in which it is renamed is read back. -/
theorem Schema.Renames.outcome_rename (renames : Renames fields old new) (known : .text old ∈ declaredNames fields)
    {store : Store} {root : Nat} (closed : store.Closed) (inside : root < store.size)
    (denotes : store.Denotes (.node root) (.object fields)) : ∃ edited,
      outcome ((Edit.rename (decide (old ∈ Property.requiredNames fields)) (.string old) (.string new)).run root) store =
        (.ok (), edited) ∧ edited.tree? (.node root) = some (.object (Schema.renamed fields old new)) := by
  obtain ⟨members, presents⟩ := renames.record.presents closed inside denotes
  have there (name : String) : Fields.has members name = true ↔ .text name ∈ declaredNames fields := by
    rw [declaredNames, ← (presents.declares denotes).keys, Cell.keys_named,
      List.mem_map_of_injective fun _ _ => Key.text.inj, Fields.has_iff_mem_keys]
  have free : Fields.has members new = false := Bool.eq_false_iff.mpr fun held => renames.free ((there new).mp held)
  have related := (presents.supplied denotes).relabel (.text old) (.text new)
  rw [Cell.relabel_named] at related
  refine ⟨_, Builder.outcome_rename presents.describes (renames.record.isSimple denotes) ((there old).mpr known) free, ?_⟩
  rw [Schema.renamed, ← presents.tree?_reshaped denotes (Fields.nodup_keys_relabel presents.describes.distinct free)
    (presents.supplies.relabel old new) related]
  simp only [decide_eq_true_eq]

namespace Session

variable {session : Session} {name copy : String} {target : Target} {value : Json}

/-- Renaming is an isomorphism of validation: a copy of the builder of a closed record of which a property is renamed,
and as much required as it was, validates a value in which the name is replaced exactly if the builder validates the
value; and what comes out is what comes out of the builder, with the name replaced in its place. -/
theorem HoldsRecord.renaming_commutes (holds : session.HoldsRecord name target fields) (played : session.Played)
    (current : ValidatesWith target (.object fields)) (renames : Renames fields old new)
    (known : .text old ∈ declaredNames fields) (formed : value.wellFormed = true)
    (free : .text new ∉ namesOf value) (copy : String) :
    ∃ answer after answer' last, outcome (Session.validate name value) session = (.ok answer, after) ∧
      outcome (tryEdit name copy
        (.rename (decide (old ∈ Property.requiredNames fields)) (.string old) (.string new)) (value.relabel old new))
          after = (.ok answer', last) ∧
      ∀ result, answer'.verdict = .valid result ↔
        ∃ before, answer.verdict = .valid before ∧ result = before.relabel old new := by
  obtain ⟨store, root, closed, inside, denotes, tries⟩ :=
    holds.tryEdit_after played.whole current copy value (value.relabel old new)
  obtain ⟨edited, edits, read⟩ := renames.outcome_rename known closed inside denotes
  obtain ⟨last, tried⟩ := tries _ edited _ edits read renames.renamed.isSchema
  exact ⟨_, _, _, last, Prod.ext (holds.answers current value) rfl, tried, fun result =>
    Validation.validate_renamed renames (Json.keyed_of_formed formed) free⟩

/-- A count that is required and a text is converted under its new name too, and what is not declared is removed. -/
theorem counted_renamed : ∃ (session after last : Session) (answer answer' : Validation.Result),
    outcome (Session.validate "b" (.object [("other", .null), ("count", .string "2")])) session = (.ok answer, after) ∧
      answer.verdict = .valid (.object [("count", .int 2), ("label", .string "none")]) ∧
      outcome (tryEdit "b" "c" (.rename true (.string "count") (.string "total"))
        (.object [("other", .null), ("total", .string "2")])) after = (.ok answer', last) ∧
      answer'.verdict = .valid (.object [("total", .int 2), ("label", .string "none")]) := by
  obtain ⟨session, played, target, holds, unused, all⟩ : ∃ session : Session, session.Played ∧
      ∃ target, session.HoldsRecord "b" target countedFields ∧ target.single = none ∧ target.options = .all := by
    exact ⟨_, .move (.call (.wrap "b" (.object countedFields) .null)) (has_of_nil rfl) (.start [] .empty), _,
      ⟨rfl, rfl, rfl, closedRecord_counted⟩, rfl, rfl⟩
  have current : ValidatesWith target (.object countedFields) := .of_unused unused
  have renames : Renames countedFields "count" "total" :=
    ⟨closedRecord_counted, by decide, by decide, by decide⟩
  obtain ⟨answer, after, answer', last, ran, tried, same⟩ := holds.renaming_commutes played current renames (by decide)
    (by decide : Json.wellFormed (.object [("other", .null), ("count", .string "2")]) = true) (by decide) "c"
  have valid : answer.verdict = .valid (.object [("count", .int 2), ("label", .string "none")]) := by
    rw [holds.answered current ran, all]
    exact Validation.validate_eq_valid.mpr ⟨_, Validation.coerceRoot_container rfl, rfl⟩
  exact ⟨session, after, last, answer, answer', ran, valid, tried, (same _).mpr ⟨_, valid, rfl⟩⟩

/-- A builder that was used before it got a property that is required still validates as it did, but a copy in which
the property is renamed requires it under its new name. -/
theorem renaming_needs_current : ∃ (session last : Session) (target : Target) (answer answer' : Validation.Result),
    session = (start [] .empty).after usedThenExtended ∧ session.HoldsRecord "b" target demandingFields ∧
      Renames demandingFields "x" "y" ∧ .text "x" ∈ declaredNames demandingFields ∧
      "x" ∈ Property.requiredNames demandingFields ∧
      outcome (Session.validate "b" (.object [])) session = (.ok answer, session) ∧
      answer.verdict = .valid (.object []) ∧
      outcome (tryEdit "b" "c" (.rename true (.string "x") (.string "y")) ((Json.object []).relabel "x" "y")) session =
        (.ok answer', last) ∧
      ∀ result, answer'.verdict ≠ .valid result := by
  obtain ⟨target, holds, all, kept⟩ : ∃ target,
      ((start [] .empty).after usedThenExtended).HoldsRecord "b" target demandingFields ∧ target.options = .all ∧
        target.single = some (.object [("type", .string "object"), ("additionalProperties", .bool false)]) :=
    ⟨_, ⟨rfl, rfl, rfl, closedRecord_demanding⟩, rfl, rfl⟩
  have renames : Renames demandingFields "x" "y" := ⟨closedRecord_demanding, by decide, by decide, by decide⟩
  have ran := outcome_validate_kept holds.bound kept (.object [])
  rw [all] at ran
  obtain ⟨last, tried⟩ : ∃ last, outcome (tryEdit "b" "c" (.rename true (.string "x") (.string "y")) (.object []))
      ((start [] .empty).after usedThenExtended) = (.ok (Validation.validate .all
        (.object (renamed demandingFields "x" "y")) (.object [])), last) := ⟨_, rfl⟩
  refine ⟨_, last, target, _, _, rfl, holds, renames, by decide, by decide, ran, ?_, tried, fun result valid => ?_⟩
  · exact Validation.validate_eq_valid.mpr ⟨_, Validation.coerceRoot_container rfl, rfl⟩
  · obtain ⟨-, accepted⟩ := (Validation.validate_record renames.renamed).mp valid
    have complains :
        (Validation.rootOutcome .all (.object (renamed demandingFields "x" "y")) (.object [])).problems ≠ [] := by
      decide
    exact complains (congrArg Outcome.problems accepted)

end Session

end SchemaAlgebra
