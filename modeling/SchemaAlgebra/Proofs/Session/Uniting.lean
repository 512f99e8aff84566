import SchemaAlgebra.Proofs.Builder.Surrounding
import SchemaAlgebra.Proofs.Session.Moves
import SchemaAlgebra.Proofs.Session.Picking
import SchemaAlgebra.Proofs.Validation.Uniting

/-!
Merging and validation. The builders of two closed records that have no property in common are merged, in a copy of
the first: the copy validates a value exactly if both do, and what comes out has what comes out of either. This takes
that each builder validates with the schema that it has.
-/

namespace SchemaAlgebra

open Schema

variable {clean : Prop} {standings : Nat → Standing} {fields others : List (Key × Json)}

namespace Schema

/-- The properties that a closed record declares are all that its object of properties holds. -/
theorem ClosedRecord.entries_declared (record : ClosedRecord fields) :
    Property.entries (Property.declared fields) = declared fields := by
  cases found : Fields.get? fields "properties" with
  | none => simp [Property.entries_flagged, Property.declared, Property.schemas_of_missing found, declared, found]
  | some argument =>
      rw [record.shaped.declared_of_get? found] at found
      exact Property.entries_declared found ((Json.wellFormed_object _).mp record.shaped.declared_formed).1

theorem ClosedRecord.declaredNames_eq (record : ClosedRecord fields) :
    declaredNames fields = ((Property.declared fields).map Property.name).map Key.text := by
  rw [declaredNames, ← record.entries_declared, Fields.keys, Property.entries, List.map_map, List.map_map]
  rfl

theorem ClosedRecord.mem_declaredNames (record : ClosedRecord fields) {name : String} :
    .text name ∈ declaredNames fields ↔ name ∈ (Property.declared fields).map Property.name := by
  rw [record.declaredNames_eq, List.mem_map_of_injective fun _ _ => Key.text.inj]

theorem ClosedRecord.requires (record : ClosedRecord fields)
    (within : ∀ name ∈ Property.requiredNames fields, .text name ∈ declaredNames fields) :
    Property.Requires (Property.schemas fields) (Property.requiredNames fields) := by
  refine ⟨record.nodup_required, fun name listed => ?_⟩
  have known := record.mem_declaredNames.mp (within name listed)
  rwa [Property.declared, Property.names_flagged] at known

/-- Records without a common property can be put together in an arranged store. -/
theorem outcome_merge_disjoint {store : Store} {root address : Nat} (record : ClosedRecord fields)
    (record' : ClosedRecord others) (disjoint : ∀ key ∈ declaredNames fields, key ∉ declaredNames others)
    (within : ∀ name ∈ Property.requiredNames fields, .text name ∈ declaredNames fields)
    (within' : ∀ name ∈ Property.requiredNames others, .text name ∈ declaredNames others)
    (arranged : store.Arranged clean standings) (schema : standings root = .schema)
    (denotes : store.Denotes (.node root) (.object fields)) (inside : address < store.size)
    (denotes' : store.Denotes (.node address) (.object others)) :
    ∃ edited names, outcome ((Edit.merge (.builder address)).run root) store = (.ok (), edited) ∧
      edited.tree? (.node root) = some (.object (united fields others names)) ∧ Unites fields others names := by
  obtain ⟨members, presents⟩ := record.presents arranged.closed (arranged.inside (by simp [schema])) denotes
  obtain ⟨members', presents'⟩ := record'.presents arranged.closed inside denotes'
  have requires := record.requires within
  obtain ⟨edited, names, values, merged, read, requires', flags⟩ := Builder.outcome_merge arranged schema presents
    requires presents' (record.isSimple denotes) denotes ((Json.wellFormed_object _).mp record.formed).2.1
  have both : Property.flagged values names = Property.declared fields ++ Property.declared others := by
    refine flags.trans (Property.foldl_take_of_disjoint _ ?_ fun other listed known => ?_)
    · rw [Property.names_flagged, ← presents'.values.keys]
      exact presents'.describes.distinct
    · exact disjoint _ (record.mem_declaredNames.mpr known) (record'.mem_declaredNames.mpr (List.mem_map_of_mem listed))
  refine ⟨edited, names, merged, ?_, record, record', disjoint, within, within', requires'.distinct, fun name => ?_⟩
  · rw [read, both, Property.entries, List.map_append, united, ← record.entries_declared, ← record'.entries_declared]
    rfl
  · rw [requires'.mem_names, requires.mem_names, (record'.requires within').mem_names, both]
    simp only [List.mem_append, or_and_right, exists_or]
    rfl

end Schema

namespace Session

variable {session : Session} {name other : String} {target target' : Target} {value : Json}

theorem HoldsRecord.exists_root (holds : session.HoldsRecord name target fields) :
    ∃ address, target.root = .node address := by
  have denotes : session.store.Denotes target.root (.object fields) := ⟨_, holds.read⟩
  obtain ⟨address, same, -⟩ := denotes.eq_node
  exact ⟨address, same⟩

/-- In an arranged store a copy of a closed record denotes it beside all that was there, and can be edited. -/
theorem HoldsRecord.tryEdit_arranged (holds : session.HoldsRecord name target fields)
    (arranged : session.store.Arranged clean standings) {address : Nat} (same : target.root = .node address)
    (schema : standings address = .schema) (copy : String) (value : Json) :
    ∃ (store : Store) (root : Nat) (standings' : Nat → Standing), session.store.Extends store ∧
      store.Arranged clean standings' ∧ standings' root = .schema ∧ store.Denotes (.node root) (.object fields) ∧
      ∀ (edit : Edit) (edited : Store) (schema : Json), outcome (edit.run root) store = (.ok (), edited) →
        edited.tree? (.node root) = some schema → Metaschema.isSchema schema = true →
          ∃ last, outcome (tryEdit name copy edit value) session =
            (.ok (Validation.validate target.options schema value), last) := by
  have inside : address < session.store.size := arranged.inside (by simp [schema])
  have read := holds.read
  rw [same] at read
  have denotes := (arranged.closed.tree?_eq_some_iff (Slot.within_node.mpr inside)).mp read
  obtain ⟨root, store, -, -, denotes', cloned⟩ := holds.record.outcome_clone arranged.closed inside denotes
  obtain ⟨standings', arranged', schema'⟩ := Builder.arranged_clone arranged schema cloned
  exact ⟨store, root, standings', (Builder.clone_apart arranged schema cloned).1, arranged', schema', denotes',
    fun edit edited schema edits read isSchema => holds.tryEdit_of_clone same cloned edits read isSchema copy value⟩

/-- Merging records without a common property validates as their conjunction: a copy of the builder of a closed record
into which another one is merged validates a value exactly if both builders do, and then what comes out has, as a
mapping, what comes out of either. -/
theorem HoldsRecord.merging_conjoins (holds : session.HoldsRecord name target fields)
    (holds' : session.HoldsRecord other target' others) (played : session.Played)
    (removes : target.options.removeAdditional = true) (alike : target'.options = target.options)
    (current : ValidatesWith target (.object fields)) (current' : ValidatesWith target' (.object others))
    (disjoint : ∀ key ∈ declaredNames fields, key ∉ declaredNames others)
    (within : ∀ name ∈ Property.requiredNames fields, .text name ∈ declaredNames fields)
    (within' : ∀ name ∈ Property.requiredNames others, .text name ∈ declaredNames others)
    (formed : value.wellFormed = true) (copy : String) :
    ∃ answer middle answer' after root answer'' last, outcome (Session.validate name value) session = (.ok answer, middle) ∧
      outcome (Session.validate other value) middle = (.ok answer', after) ∧
      after.operand? other = some (.builder root) ∧
      outcome (tryEdit name copy (.merge (.builder root)) value) after = (.ok answer'', last) ∧
      ((∃ result, answer''.verdict = .valid result) ↔
        (∃ left, answer.verdict = .valid left) ∧ ∃ right, answer'.verdict = .valid right) ∧
      ∀ left right result, answer.verdict = .valid left → answer'.verdict = .valid right →
        answer''.verdict = .valid result → Json.Joins left right result := by
  obtain ⟨standings, arranged⟩ := played.arranged
  set middle := (outcome (Session.validate name value) session).2
  set after := (outcome (Session.validate other value) middle).2
  have stored : after.store = session.store :=
    (store_validate .single other value middle).trans (store_validate .single name value session)
  -- each of the two still validates with its record after both have been used
  obtain ⟨mine, holdsMiddle, currentMiddle, rootMiddle, optionsMiddle⟩ := holds.survives current name value
  obtain ⟨mine', holdsAfter, -, rootAfter, optionsAfter⟩ := holdsMiddle.survives currentMiddle other value
  obtain ⟨theirs, holdsMiddle', currentMiddle', rootMiddle', optionsMiddle'⟩ := holds'.survives current' name value
  obtain ⟨theirs', holdsAfter', -, rootAfter', -⟩ := holdsMiddle'.survives currentMiddle' other value
  obtain ⟨address, same⟩ := holds.exists_root
  obtain ⟨root, same'⟩ := holds'.exists_root
  have schema := arranged.roots (operand?_eq_builder.mpr ⟨target, holds.bound, holds.kind, same⟩)
  have schema' := arranged.roots (operand?_eq_builder.mpr ⟨target', holds'.bound, holds'.kind, same'⟩)
  have inside : root < session.store.size := arranged.store.inside (by simp [schema'])
  have denotes' : session.store.Denotes (.node root) (.object others) := ⟨_, same' ▸ holds'.read⟩
  -- the first is copied and the second merged into the copy
  obtain ⟨store, copied, standings', grown, arranged', schema'', denotes, tries⟩ :=
    holdsAfter.tryEdit_arranged (stored ▸ arranged.store) (rootAfter.trans (rootMiddle.trans same)) schema copy value
  rw [stored] at grown
  obtain ⟨edited, names, merged, read, unites⟩ := outcome_merge_disjoint holds.record holds'.record disjoint within within'
    arranged' schema'' denotes (Nat.lt_of_lt_of_le inside grown.size)
    (denotes'.extend arranged.store.closed (Slot.within_node.mpr inside) grown)
  obtain ⟨last, tried⟩ := tries _ edited _ merged read unites.united.isSchema
  rw [optionsAfter, optionsMiddle] at tried
  have answered := holdsMiddle'.answers currentMiddle' value
  rw [optionsMiddle', alike] at answered
  exact ⟨_, middle, _, after, root, _, last, Prod.ext (holds.answers current value) rfl, Prod.ext answered rfl,
    operand?_eq_builder.mpr ⟨theirs', holdsAfter'.bound, holdsAfter'.kind, rootAfter'.trans (rootMiddle'.trans same')⟩,
    tried, Validation.validate_united unites removes (Json.keyed_of_formed formed)⟩

/-- A record with a switch that is required. -/
def switchedFields : List (Key × Json) :=
  [("type", .string "object"), ("additionalProperties", .bool false),
    ("properties", .object [("on", .object [("type", .string "boolean")])]), ("required", .array [.string "on"])]

theorem closedRecord_switched : ClosedRecord switchedFields where
  formed := by decide
  isSchema := by decide
  type := rfl
  closed := rfl
  only := only_of_keys (by decide)
  unreferring := by decide
  written := by decide

/-- Each record removes what the other one declares, and the copy into which they are merged keeps both. -/
theorem counted_merged : ∃ (session middle after last : Session) (answer answer' answer'' : Validation.Result)
    (root : Nat) (joined : List (Key × Json)),
    outcome (Session.validate "a" (.object [("count", .string "2"), ("on", .string "true"), ("other", .null)])) session =
      (.ok answer, middle) ∧ answer.verdict = .valid (.object [("count", .int 2), ("label", .string "none")]) ∧
    outcome (Session.validate "b" (.object [("count", .string "2"), ("on", .string "true"), ("other", .null)])) middle =
      (.ok answer', after) ∧ answer'.verdict = .valid (.object [("on", .bool true)]) ∧
    after.operand? "b" = some (.builder root) ∧
    outcome (tryEdit "a" "c" (.merge (.builder root))
      (.object [("count", .string "2"), ("on", .string "true"), ("other", .null)])) after = (.ok answer'', last) ∧
    answer''.verdict = .valid (.object joined) ∧
    joined.Perm [("count", .int 2), ("label", .string "none"), ("on", .bool true)] := by
  obtain ⟨session, played, target, target', ⟨holds, unused, all⟩, holds', unused', all'⟩ :
      ∃ session : Session, session.Played ∧ ∃ target target',
        (session.HoldsRecord "a" target countedFields ∧ target.single = none ∧ target.options = .all) ∧
        session.HoldsRecord "b" target' switchedFields ∧ target'.single = none ∧ target'.options = .all := by
    have first : Played _ := .move (.call (.wrap "a" (.object countedFields) .null)) (has_of_nil rfl) (.start [] .empty)
    exact ⟨_, first.move (.call (.wrap "b" (.object switchedFields) .null)) (has_of_nil rfl), _, _,
      ⟨⟨rfl, rfl, rfl, closedRecord_counted⟩, rfl, rfl⟩, ⟨rfl, rfl, rfl, closedRecord_switched⟩, rfl, rfl⟩
  have current : ValidatesWith target (.object countedFields) := .of_unused unused
  have current' : ValidatesWith target' (.object switchedFields) := .of_unused unused'
  obtain ⟨answer, middle, answer', after, root, answer'', last, ran, ran', bound, tried, valid_iff, joins⟩ :=
    holds.merging_conjoins holds' played (by rw [all]; rfl) (all'.trans all.symm) current current' (by decide) (by decide)
      (by decide) (by decide : Json.wellFormed
        (.object [("count", .string "2"), ("on", .string "true"), ("other", .null)]) = true) "c"
  have valid : answer.verdict = .valid (.object [("count", .int 2), ("label", .string "none")]) := by
    rw [holds.answered current ran, all]
    exact Validation.validate_eq_valid.mpr ⟨_, Validation.coerceRoot_container rfl, rfl⟩
  have valid' : answer'.verdict = .valid (.object [("on", .bool true)]) := by
    obtain ⟨theirs, holds'', current'', -, same⟩ := holds'.survives current' "a"
      (.object [("count", .string "2"), ("on", .string "true"), ("other", .null)])
    rw [ran] at holds''
    rw [holds''.answered current'' ran', same, all']
    exact Validation.validate_eq_valid.mpr ⟨_, Validation.coerceRoot_container rfl, rfl⟩
  obtain ⟨result, valid''⟩ := valid_iff.mpr ⟨⟨_, valid⟩, _, valid'⟩
  obtain ⟨_, _, joined, ⟨⟩, ⟨⟩, rfl, -, same⟩ := joins _ _ _ valid valid' valid''
  exact ⟨session, middle, after, last, answer, answer', answer'', root, joined, ran, valid, ran', valid', bound, tried,
    valid'', same⟩

/-- A record without properties. -/
def bareFields : List (Key × Json) :=
  [("type", .string "object"), ("additionalProperties", .bool false)]

theorem closedRecord_bare : ClosedRecord bareFields where
  formed := by decide
  isSchema := by decide
  type := rfl
  closed := rfl
  only := only_of_keys (by decide)
  unreferring := by decide
  written := by decide

/-- The objects of a builder that got a required property, and after them that of a bare one. -/
def extendedStore : Store where
  cells := #[[("type", .string "object"), ("additionalProperties", .bool false), ("properties", .node 2),
      ("required", .array [.string "x"])], [("type", .string "string")], [("x", .node 1)],
    [("type", .string "object"), ("additionalProperties", .bool false)]]

theorem extendedStore_merged : ∃ copied edited,
    outcome (Builder.clone 3 (.value .null)) extendedStore = (.ok 4, copied) ∧
      outcome ((Edit.merge (.builder 0)).run 4) copied = (.ok (), edited) ∧
      edited.tree? (.node 4) = some (.object (united bareFields demandingFields ["x"])) :=
  ⟨extendedStore.push [("type", .string "object"), ("additionalProperties", .bool false)], _, rfl, rfl, rfl⟩

/-- A builder that was used before it got a property that is required still validates as it did, but a copy of another
builder into which it is merged requires the property. -/
theorem merging_needs_current : ∃ (session after last : Session) (target target' : Target)
    (answer answer' answer'' : Validation.Result) (root : Nat),
    session = (start [] .empty).after (usedThenExtended ++ [.call (.make "a" (.object (.value .null)))]) ∧
      session.HoldsRecord "a" target bareFields ∧ session.HoldsRecord "b" target' demandingFields ∧
      target.options = .all ∧ target'.options = .all ∧
      (∀ key ∈ declaredNames bareFields, key ∉ declaredNames demandingFields) ∧
      (∀ name ∈ Property.requiredNames demandingFields, .text name ∈ declaredNames demandingFields) ∧
      outcome (Session.validate "a" (.object [])) session = (.ok answer, after) ∧ answer.verdict = .valid (.object []) ∧
      outcome (Session.validate "b" (.object [])) after = (.ok answer', after) ∧ answer'.verdict = .valid (.object []) ∧
      after.operand? "b" = some (.builder root) ∧
      outcome (tryEdit "a" "c" (.merge (.builder root)) (.object [])) after = (.ok answer'', last) ∧
      ∀ result, answer''.verdict ≠ .valid result := by
  set session := (start [] .empty).after (usedThenExtended ++ [.call (.make "a" (.object (.value .null)))])
  have unites : Unites bareFields demandingFields ["x"] :=
    ⟨closedRecord_bare, closedRecord_demanding, by decide, by decide, by decide, by decide, fun name => by
      rw [List.mem_singleton, show Property.requiredNames bareFields = [] from rfl,
        show Property.requiredNames demandingFields = ["x"] from rfl, List.mem_singleton]
      simp⟩
  obtain ⟨target, holds, all, unused, place⟩ : ∃ target, session.HoldsRecord "a" target bareFields ∧ target.options = .all ∧
      target.single = none ∧ target.root = .node 3 := ⟨_, ⟨rfl, rfl, rfl, closedRecord_bare⟩, rfl, rfl, rfl⟩
  obtain ⟨target', holds', all', kept, place'⟩ : ∃ target, session.HoldsRecord "b" target demandingFields ∧
      target.options = .all ∧ target.single = some (.object bareFields) ∧ target.root = .node 0 :=
    ⟨_, ⟨rfl, rfl, rfl, closedRecord_demanding⟩, rfl, rfl, rfl⟩
  have ran := outcome_validate_first holds.bound unused holds.read holds.record.isSchema (.object [])
  set after : Session := { session with
    targets := session.targets.put "a" { target with single := some (.object bareFields) } }
  have stored : after.store = extendedStore := rfl
  have holdsAfter : after.HoldsRecord "a" { target with single := some (.object bareFields) } bareFields :=
    ⟨Fields.get?_put_self .., holds.kind, holds.read, holds.record⟩
  obtain ⟨copied, edited, cloned, merged, read⟩ := extendedStore_merged
  obtain ⟨last, tried⟩ :=
    holdsAfter.tryEdit_of_clone place (stored ▸ cloned) merged read unites.united.isSchema "c" (.object [])
  have bound' : after.targets.get? "b" = some target' := by
    rw [Fields.get?_put, if_neg (by decide)]
    exact holds'.bound
  have ran' := outcome_validate_kept bound' kept (.object [])
  rw [all] at ran tried
  rw [all'] at ran'
  have valid : (Validation.validate .all (.object bareFields) (.object [])).verdict = .valid (.object []) :=
    Validation.validate_eq_valid.mpr ⟨_, Validation.coerceRoot_container rfl, rfl⟩
  refine ⟨session, after, last, target, target', _, _, _, 0, rfl, holds, holds', all, all', by decide, by decide, ran, valid,
    ran', valid, operand?_eq_builder.mpr ⟨target', bound', holds'.kind, place'⟩, tried, fun result valid' => ?_⟩
  obtain ⟨-, accepted⟩ := (Validation.validate_record unites.united).mp valid'
  have complains :
      (Validation.rootOutcome .all (.object (united bareFields demandingFields ["x"])) (.object [])).problems ≠ [] := by
    decide
  exact complains (congrArg Outcome.problems accepted)

end Session

end SchemaAlgebra
