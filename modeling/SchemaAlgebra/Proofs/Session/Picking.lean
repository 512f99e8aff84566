import SchemaAlgebra.Proofs.Builder.Picking
import SchemaAlgebra.Proofs.Session.Copies
import SchemaAlgebra.Proofs.Session.Snapshots

/-!
Picking and validation. A builder of a closed record is copied, some properties of the copy are picked or others
omitted, and a value is validated with it: what comes out is what comes out of the builder itself, with the
properties that are left. This takes that the builder validates with the schema that it has, and not with one that
it had when it was first used.
-/

namespace SchemaAlgebra

open Schema

namespace Session

variable {session after : Session} {name copy : String} {target : Target} {fields : List (Key × Json)} {value : Json}
  {answer : Validation.Result}

/-- Copy a builder, edit the copy, and validate a value with it. -/
def tryEdit (name copy : String) (edit : Edit) (value : Json) : Act Validation.Result := do
  clone name copy (.value .null)
  Session.edit copy edit
  Session.validate copy value

/-- A name is bound to a builder of a closed record that removes what is undeclared. -/
structure BuildsRecord (session : Session) (name : String) (target : Target) (fields : List (Key × Json)) : Prop where
  bound : session.targets.get? name = some target
  kind : target.kind = .builder
  removes : target.options.removeAdditional = true
  read : session.store.tree? target.root = some (.object fields)
  record : ClosedRecord fields

/-- Single values are validated with a schema: no other one is kept for them. -/
def ValidatesWith (target : Target) (schema : Json) : Prop :=
  ∀ kept, target.single = some kept → kept = schema

theorem ValidatesWith.of_unused {schema : Json} (unused : target.single = none) : ValidatesWith target schema :=
  fun kept found => by cases unused.symm.trans found

/-- A name is bound to a builder of a closed record. -/
structure HoldsRecord (session : Session) (name : String) (target : Target) (fields : List (Key × Json)) : Prop where
  bound : session.targets.get? name = some target
  kind : target.kind = .builder
  read : session.store.tree? target.root = some (.object fields)
  record : ClosedRecord fields

theorem BuildsRecord.holds (builds : session.BuildsRecord name target fields) :
    session.HoldsRecord name target fields :=
  ⟨builds.bound, builds.kind, builds.read, builds.record⟩

theorem outcome_builder_ok {address : Nat} (bound : session.targets.get? name = some target)
    (kind : target.kind = .builder) (root : target.root = .node address) :
    outcome (builder name) session = (.ok (target, address), session) := by
  rw [outcome_builder, bound]
  simp only [kind, root]

theorem outcome_edit_ok {address : Nat} {edit : Edit} {store : Store} (bound : session.targets.get? name = some target)
    (kind : target.kind = .builder) (root : target.root = .node address)
    (ran : outcome (edit.run address) session.store = (.ok (), store)) :
    outcome (Session.edit name edit) session = (.ok (), { session with store := store }) := by
  rw [Session.edit, outcome_bind_ok (outcome_builder_ok bound kind root)]
  dsimp only
  rw [outcome_change, ran]

theorem outcome_validate_kept {schema : Json} (bound : session.targets.get? name = some target)
    (kept : target.single = some schema) (value : Json) :
    outcome (Session.validate name value) session =
      (.ok (Validation.validate target.options schema value), session) := by
  have ran := outcome_validate .single name value session
  simp only [bound, Use.kept, kept] at ran
  exact ran

theorem outcome_validate_first {schema : Json} (bound : session.targets.get? name = some target)
    (unused : target.single = none) (read : session.store.tree? target.root = some schema)
    (isSchema : Metaschema.isSchema schema = true) (value : Json) :
    outcome (Session.validate name value) session = (.ok (Validation.validate target.options schema value),
      { session with targets := session.targets.put name { target with single := some schema } }) := by
  have ran := outcome_validate .single name value session
  simp only [bound, Use.kept, unused, outcome_snapshot, read, checked_eq_ok_iff.mpr ⟨rfl, isSchema⟩] at ran
  exact ran

namespace HoldsRecord

/-- A builder of a record that validates with it stays one, whatever is validated. -/
theorem survives (holds : session.HoldsRecord name target fields) (current : ValidatesWith target (.object fields))
    (other : String) (value : Json) : ∃ later,
      (outcome (Session.validate other value) session).2.HoldsRecord name later fields ∧
        ValidatesWith later (.object fields) ∧ later.root = target.root ∧ later.options = target.options := by
  have stored : (outcome (Session.validate other value) session).2.store = session.store :=
    store_validate .single other value session
  by_cases mine : other = name
  · subst mine
    cases kept : target.single with
    | some schema =>
        rw [outcome_validate_kept holds.bound kept]
        exact ⟨target, holds, current, rfl, rfl⟩
    | none =>
        rw [outcome_validate_first holds.bound kept holds.read holds.record.isSchema]
        exact ⟨{ target with single := some (.object fields) },
          ⟨Fields.get?_put_self .., holds.kind, holds.read, holds.record⟩, fun kept found => (Option.some.inj found).symm,
          rfl, rfl⟩
  · refine ⟨target, ⟨?_, holds.kind, stored ▸ holds.read, holds.record⟩, current, rfl, rfl⟩
    have ran : Session.validate other value = Use.single.validate other value := rfl
    rw [ran, outcome_validate]
    split
    · exact holds.bound
    split
    · exact holds.bound
    split
    · rw [Fields.get?_put, if_neg mine]
      exact holds.bound
    · exact holds.bound

/-- It answers as its record does. -/
theorem answers (holds : session.HoldsRecord name target fields) (current : ValidatesWith target (.object fields))
    (value : Json) : (outcome (Session.validate name value) session).1 =
      .ok (Validation.validate target.options (.object fields) value) := by
  cases kept : target.single with
  | some schema =>
      obtain rfl := current schema kept
      rw [outcome_validate_kept holds.bound kept]
  | none => rw [outcome_validate_first holds.bound kept holds.read holds.record.isSchema]

theorem answered (holds : session.HoldsRecord name target fields) (current : ValidatesWith target (.object fields))
    (ran : outcome (Session.validate name value) session = (.ok answer, after)) :
    answer = Validation.validate target.options (.object fields) value :=
  Except.ok.inj ((congrArg Prod.fst ran).symm.trans (holds.answers current value))

/-- After an edit of a copy values are validated with the schema that is there. -/
theorem tryEdit_of_clone (holds : session.HoldsRecord name target fields) {address root : Nat}
    (same : target.root = .node address) {store edited : Store} {edit : Edit} {schema : Json}
    (cloned : outcome (Builder.clone address (.value .null)) session.store = (.ok root, store))
    (edits : outcome (edit.run root) store = (.ok (), edited)) (read : edited.tree? (.node root) = some schema)
    (isSchema : Metaschema.isSchema schema = true) (copy : String) (value : Json) :
    ∃ last, outcome (tryEdit name copy edit value) session =
      (.ok (Validation.validate target.options schema value), last) := by
  obtain ⟨copied, clones, stored, bound⟩ : ∃ copied : Session,
      outcome (clone name copy (.value .null)) session = (.ok (), copied) ∧ copied.store = store ∧
        copied.targets.get? copy = some ⟨.builder, .node root, target.options, none, none⟩ := by
    refine ⟨{ session with
      store := store, targets := session.targets.put copy ⟨.builder, .node root, target.options, none, none⟩ }, ?_, rfl,
      Fields.get?_put_self ..⟩
    rw [clone, outcome_bind_ok (outcome_builder_ok holds.bound holds.kind same)]
    dsimp only
    rw [outcome_bind, outcome_change, cloned]
    rfl
  have editing : outcome (Session.edit copy edit) copied = (.ok (), { copied with store := edited }) :=
    outcome_edit_ok bound rfl rfl (stored ▸ edits)
  have bound' : ({ copied with store := edited } : Session).targets.get? copy = _ := bound
  have ran : outcome (tryEdit name copy edit value) session =
      outcome (Session.validate copy value) { copied with store := edited } := by
    rw [tryEdit, outcome_bind_ok clones, outcome_bind_ok editing]
  exact ⟨_, ran.trans (outcome_validate_first bound' rfl read isSchema value)⟩

/-- A copy of a closed record denotes it, and can be edited. -/
theorem tryEdit_ok (holds : session.HoldsRecord name target fields) (closed : session.store.Closed)
    (within : target.root.Within session.store.size) (copy : String) (value : Json) :
    ∃ (store : Store) (root : Nat), store.Closed ∧ root < store.size ∧ store.Denotes (.node root) (.object fields) ∧
      ∀ (edit : Edit) (edited : Store) (schema : Json), outcome (edit.run root) store = (.ok (), edited) →
        edited.tree? (.node root) = some schema → Metaschema.isSchema schema = true →
          ∃ last, outcome (tryEdit name copy edit value) session =
            (.ok (Validation.validate target.options schema value), last) := by
  have denotes := (closed.tree?_eq_some_iff within).mp holds.read
  obtain ⟨address, same, -⟩ := denotes.eq_node
  rw [same] at denotes within
  obtain ⟨root, store, closed', inside, denotes', cloned⟩ :=
    holds.record.outcome_clone closed (Slot.within_node.mp within) denotes
  exact ⟨store, root, closed', inside, denotes', fun edit edited schema edits read isSchema =>
    holds.tryEdit_of_clone same cloned edits read isSchema copy value⟩

/-- After it has validated something the same is so. -/
theorem tryEdit_after (holds : session.HoldsRecord name target fields) (whole : session.Whole)
    (current : ValidatesWith target (.object fields)) (copy : String) (value value' : Json) :
    ∃ (store : Store) (root : Nat), store.Closed ∧ root < store.size ∧ store.Denotes (.node root) (.object fields) ∧
      ∀ (edit : Edit) (edited : Store) (schema : Json), outcome (edit.run root) store = (.ok (), edited) →
        edited.tree? (.node root) = some schema → Metaschema.isSchema schema = true →
          ∃ last, outcome (tryEdit name copy edit value') (outcome (Session.validate name value) session).2 =
            (.ok (Validation.validate target.options schema value'), last) := by
  have stored : (outcome (Session.validate name value) session).2.store = session.store :=
    store_validate .single name value session
  obtain ⟨later, holds', -, root, options⟩ := holds.survives current name value
  rw [← options]
  exact holds'.tryEdit_ok (stored ▸ whole.closed) (root ▸ stored ▸ whole.roots holds.bound) copy value'

end HoldsRecord

namespace BuildsRecord

variable {result : Json}

/-- Of a closed record in a store any properties can be picked or omitted, and what is left is read back. -/
theorem edits_record (record : ClosedRecord fields) {store : Store} {root : Nat} (closed : store.Closed)
    (inside : root < store.size) (denotes : store.Denotes (.node root) (.object fields)) (names : List String) :
    ((∀ given ∈ names, .text given ∈ declaredNames fields) → ∃ edited,
      outcome ((Edit.pick (.value (.array (names.map .string)))).run root) store = (.ok (), edited) ∧
        edited.tree? (.node root) = some (.object (picked fields names))) ∧
      ∃ left : List String, (∀ given, given ∈ left ↔ .text given ∈ declaredNames fields ∧ given ∉ names) ∧
        ∃ edited, outcome ((Edit.omit (.value (.array (names.map .string)))).run root) store = (.ok (), edited) ∧
          edited.tree? (.node root) = some (.object (picked fields left)) := by
  obtain ⟨members, presents⟩ := record.presents closed inside denotes
  have simple := record.isSimple denotes
  have known : ∀ given, given ∈ Fields.keys members ↔ .text given ∈ declaredNames fields := by
    intro given
    rw [declaredNames, ← (presents.declares denotes).keys, Cell.keys_named,
      List.mem_map_of_injective fun _ _ => Key.text.inj]
  have listed : (Operand.value (.array (names.map .string))).Lists names := rfl
  refine ⟨fun declared => ⟨_, Builder.outcome_pickListed presents.describes simple listed fun given among => ?_,
    presents.tree?_picked denotes names⟩, (Fields.keys members).filter (· ∉ names), fun given => ?_, _,
    Builder.outcome_omitNames presents.describes simple listed, presents.tree?_picked denotes _⟩
  · exact (Fields.has_iff_mem_keys members given).mpr ((known given).mpr (declared given among))
  · rw [List.mem_filter, known, decide_eq_true_eq]

/-- Picking commutes with validation: what a builder of a closed record makes of a value, its copy with some of the
properties picked makes of it too, as far as they go, and its copy with them omitted as far as the others go. -/
theorem picking_commutes (builds : session.BuildsRecord name target fields) (whole : session.Whole)
    (current : ValidatesWith target (.object fields)) (formed : value.wellFormed = true)
    (ran : outcome (Session.validate name value) session = (.ok answer, after)) (valid : answer.verdict = .valid result)
    (copy : String) {names : List String} (declared : ∀ given ∈ names, .text given ∈ declaredNames fields) :
    (∃ answer' last narrowed,
      outcome (tryEdit name copy (.pick (.value (.array (names.map .string)))) value) after = (.ok answer', last) ∧
        answer'.verdict = .valid narrowed ∧ Json.Narrows (· ∈ names.map .text) result narrowed) ∧
      ∃ answer' last narrowed,
        outcome (tryEdit name copy (.omit (.value (.array (names.map .string)))) value) after = (.ok answer', last) ∧
          answer'.verdict = .valid narrowed ∧ Json.Narrows (· ∉ names.map .text) result narrowed := by
  obtain rfl : answer = Validation.validate target.options (.object fields) value :=
    Except.ok.inj ((congrArg Prod.fst ran).symm.trans (builds.holds.answers current value))
  obtain ⟨store, address, closed, inside, denotes, tries⟩ := builds.holds.tryEdit_after whole current copy value value
  rw [ran] at tries
  have record := builds.record
  obtain ⟨picks, left, kept, edited, omits, read⟩ := edits_record record closed inside denotes names
  constructor
  · obtain ⟨edited, picks, read⟩ := picks declared
    obtain ⟨last, tried⟩ := tries _ edited _ picks read (record.picked names).isSchema
    obtain ⟨narrowed, valid', narrows⟩ := Validation.validate_picked record builds.removes formed declared valid
    exact ⟨_, last, narrowed, tried, valid', narrows⟩
  · obtain ⟨last, tried⟩ := tries _ edited _ omits read (record.picked left).isSchema
    obtain ⟨narrowed, valid', narrows⟩ := Validation.validate_picked record builds.removes formed
      (fun given among => ((kept given).mp among).1) valid
    have makes := Validation.makes_of_validate record formed valid
    refine ⟨_, last, narrowed, tried, valid', narrows.of_names fun key listed => ?_⟩
    -- the names that are left are the others, of those that can be there
    obtain ⟨given, rfl⟩ := makes.keyed.textual key listed
    simp only [List.mem_map_of_injective fun _ _ => Key.text.inj, kept, makes.closed _ listed, true_and]

end BuildsRecord

/-- A record with a whole number that is required and a label with a default. -/
def countedFields : List (Key × Json) :=
  [("type", .string "object"),
    ("properties", .object [("count", .object [("type", .string "integer")]),
      ("label", .object [("type", .string "string"), ("default", .string "none")])]),
    ("required", .array [.string "count"]), ("additionalProperties", .bool false)]

theorem closedRecord_counted : ClosedRecord countedFields where
  formed := by decide
  isSchema := by decide
  type := rfl
  closed := rfl
  only := only_of_keys (by decide)
  unreferring := by decide
  written := by decide

/-- A count that is a text is converted, a label is filled in, and what is not declared is removed; without the label
only the count is left. -/
theorem counted_picked : ∃ (session after : Session) (answer : Validation.Result),
    outcome (Session.validate "b" (.object [("count", .string "2"), ("other", .null)])) session = (.ok answer, after) ∧
      answer.verdict = .valid (.object [("count", .int 2), ("label", .string "none")]) ∧
      (∃ picked last, outcome (tryEdit "b" "c" (.pick (.value (.array [.string "count"])))
        (.object [("count", .string "2"), ("other", .null)])) after = (.ok picked, last) ∧
          picked.verdict = .valid (.object [("count", .int 2)])) ∧
      ∃ omitted last, outcome (tryEdit "b" "c" (.omit (.value (.array [.string "count"])))
        (.object [("count", .string "2"), ("other", .null)])) after = (.ok omitted, last) ∧
          omitted.verdict = .valid (.object [("label", .string "none")]) := by
  obtain ⟨session, whole, target, builds, unused, all⟩ : ∃ session : Session, session.Whole ∧
      ∃ target, session.BuildsRecord "b" target countedFields ∧ target.single = none ∧ target.options = .all := by
    refine ⟨(outcome (Session.wrap "b" (.object countedFields) .null) (start [] .empty)).2,
      (whole_start [] .empty).wrap .., _, ⟨rfl, rfl, rfl, rfl, closedRecord_counted⟩, rfl, rfl⟩
  have current : ValidatesWith target (.object countedFields) := fun kept found => by cases unused.symm.trans found
  have ran := outcome_validate_first builds.bound unused builds.read builds.record.isSchema
    (.object [("count", .string "2"), ("other", .null)])
  rw [all] at ran
  have valid : (Validation.validate .all (.object countedFields)
      (.object [("count", .string "2"), ("other", .null)])).verdict =
        .valid (.object [("count", .int 2), ("label", .string "none")]) :=
    Validation.validate_eq_valid.mpr ⟨_, Validation.coerceRoot_container rfl, rfl⟩
  have declared : ∀ given ∈ ["count"], Key.text given ∈ declaredNames countedFields := by decide
  obtain ⟨⟨picked, last, _, tried, valid', narrows⟩, omitted, last', _, tried', valid'', narrows'⟩ :=
    builds.picking_commutes whole current (by decide) ran valid "c" declared
  obtain ⟨_, kept, ⟨⟩, rfl, same⟩ := narrows
  obtain ⟨_, kept', ⟨⟩, rfl, same'⟩ := narrows'
  obtain rfl : kept = [(.text "count", .int 2)] := List.perm_singleton.mp same
  obtain rfl : kept' = [(.text "label", .string "none")] := List.perm_singleton.mp same'
  exact ⟨session, _, _, ran, valid, ⟨picked, last, tried, valid'⟩, omitted, last', tried', valid''⟩

/-- A record with a property that is required. -/
def demandingFields : List (Key × Json) :=
  [("type", .string "object"), ("additionalProperties", .bool false),
    ("properties", .object [("x", .object [("type", .string "string")])]), ("required", .array [.string "x"])]

theorem closedRecord_demanding : ClosedRecord demandingFields where
  formed := by decide
  isSchema := by decide
  type := rfl
  closed := rfl
  only := only_of_keys (by decide)
  unreferring := by decide
  written := by decide

/-- An object schema is used on a value and then gets a property that is required. -/
def usedThenExtended : List Move :=
  [.call (.make "b" (.object (.value .null))), .validate .single "b" (.object []),
    .call (.make "s" (.scalar .string (.value .null))), .call (.edit "b" (.add true (.string "x") (.builder 1)))]

/-- The builder still validates as it did before the edit, but a copy with just this property picked requires it. -/
theorem picking_needs_current : ∃ (session last : Session) (target : Target) (answer picked : Validation.Result),
    session = (start [] .empty).after usedThenExtended ∧ session.BuildsRecord "b" target demandingFields ∧
      target.options = .all ∧ outcome (Session.validate "b" (.object [])) session = (.ok answer, session) ∧
      answer.verdict = .valid (.object []) ∧
      outcome (tryEdit "b" "c" (.pick (.value (.array [.string "x"]))) (.object [])) session = (.ok picked, last) ∧
      ∀ narrowed, picked.verdict ≠ .valid narrowed := by
  obtain ⟨target, builds, all, kept⟩ : ∃ target,
      ((start [] .empty).after usedThenExtended).BuildsRecord "b" target demandingFields ∧ target.options = .all ∧
        target.single = some (.object [("type", .string "object"), ("additionalProperties", .bool false)]) :=
    ⟨_, ⟨rfl, rfl, rfl, rfl, closedRecord_demanding⟩, rfl, rfl⟩
  have ran := outcome_validate_kept builds.bound kept (.object [])
  rw [all] at ran
  obtain ⟨last, tried⟩ : ∃ last, outcome (tryEdit "b" "c" (.pick (.value (.array [.string "x"]))) (.object []))
      ((start [] .empty).after usedThenExtended) = (.ok (Validation.validate .all
        (.object (picked demandingFields ["x"])) (.object [])), last) := ⟨_, rfl⟩
  refine ⟨_, last, target, _, _, rfl, builds, all, ran, ?_, tried, fun narrowed valid => ?_⟩
  · exact Validation.validate_eq_valid.mpr ⟨_, Validation.coerceRoot_container rfl, rfl⟩
  · obtain ⟨-, accepted⟩ := (Validation.validate_record (closedRecord_demanding.picked ["x"])).mp valid
    have complains : (Validation.rootOutcome .all (.object (picked demandingFields ["x"])) (.object [])).problems ≠ [] := by
      decide
    exact complains (congrArg Outcome.problems accepted)

end Session

end SchemaAlgebra
