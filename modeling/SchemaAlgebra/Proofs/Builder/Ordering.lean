import SchemaAlgebra.Proofs.Builder.Additional
import SchemaAlgebra.Proofs.Builder.Closing
import SchemaAlgebra.Proofs.Builder.Combining

/-!
All calls keep a store in order. Factories and copies make orderly schemas, and an edit with texts for names leaves the
order as it is, whether it succeeds or is refused.
-/

namespace SchemaAlgebra

/-- The metadata that a factory takes has no structure. -/
theorem Metadata.not_structural (kind : Kind) :
    "required" ∉ keywords kind ∧ ∀ entry ∈ Walk.keywords, entry.1 ∉ keywords kind := by
  cases kind <;> decide

/-- Metadata that is taken has only keywords that it may have. -/
theorem Metadata.display_of_check {kind : Kind} {value : Json} {fields : List (Key × Json)}
    (checked : check kind value = .ok fields) : ∀ key ∈ Fields.keys fields, key.display ∈ keywords kind := by
  unfold check at checked
  split at checked
  · obtain rfl := Except.ok.inj checked
    exact fun key listed => absurd listed List.not_mem_nil
  · split at checked
    · next found =>
        obtain rfl := (Except.ok.inj checked).symm
        intro key listed
        by_contra refused
        have unknown : key.display ∈ ((Fields.keys fields).map Key.display).filter fun name => name ∉ keywords kind :=
          List.mem_filter.mpr ⟨List.mem_map_of_mem listed, decide_eq_true refused⟩
        rw [found] at unknown
        exact absurd unknown List.not_mem_nil
    · cases checked
  · cases checked

theorem Metadata.plain_of_check {kind : Kind} {value : Json} {fields : List (Key × Json)}
    (checked : check kind value = .ok fields) :
    ∀ key ∈ Fields.keys fields, key ≠ "required" ∧
      ∀ keyword role, (keyword, role) ∈ Walk.keywords → key ≠ .text keyword := by
  obtain ⟨required, structural⟩ := not_structural kind
  refine fun key listed => ⟨?_, fun keyword role walked => ?_⟩
  · rintro rfl
    exact required (display_of_check checked _ listed)
  · rintro rfl
    exact structural _ walked (display_of_check checked _ listed)

theorem Metadata.noReference_of_check {kind : Kind} {value : Json} {fields : List (Key × Json)}
    (checked : check kind value = .ok fields) : ∀ key ∈ Fields.keys fields, key ≠ "$ref" := by
  have unknown : "$ref" ∉ keywords kind := by cases kind <;> decide
  rintro _ listed rfl
  exact unknown (display_of_check checked _ listed)

theorem Json.keys_placeFields (fields : List (Key × Json)) (store : Store) :
    Fields.keys (placeFields fields store).1 = Fields.keys fields := by
  induction fields generalizing store with
  | nil => rfl
  | cons entry rest ih =>
      obtain ⟨key, value⟩ := entry
      exact congrArg (key :: ·) (ih (value.place store).2)

namespace Builder

variable {store later : Store} {duties : Nat → Duty} {address root : Nat} {operand : Operand} {cell : Cell}

/-- A call that keeps all objects and ends in a closed store keeps the order. -/
theorem progress_of_adds {α : Type} {change : Change α} {fits : Nat → α → Prop} {result : Except Failure α}
    (orderly : store.Orderly duties) (adds : Change.Adds change) (stays : Change.Stays store.size change fits)
    (ran : outcome change store = (result, later)) : store.Progress duties later duties := by
  have extends' := adds store
  have closed := (stays store orderly.closed (Nat.le_refl _)).1
  rw [ran] at extends' closed
  exact orderly.extendData extends' closed

theorem metadata_ok {kind : Metadata.Kind} {factory : String} (orderly : store.Orderly duties)
    (ran : outcome (Change.metadata kind factory operand) store = (.ok cell, later)) :
    store.Progress duties later duties ∧ cell.Within later.size ∧ cell.Plain := by
  have stays : Change.Stays store.size (Change.metadata kind factory operand) Cell.Within :=
    Change.stays_metadata kind factory operand
  have fit := (stays store orderly.closed (Nat.le_refl _)).2.2
  rw [ran] at fit
  refine ⟨progress_of_adds orderly (adds_metadata kind factory operand) stays ran, fit cell rfl, ?_⟩
  unfold Change.metadata at ran
  split at ran
  · split at ran
    · next checked =>
        rw [Change.outcome_placeFields] at ran
        obtain rfl := Except.ok.inj (congrArg Prod.fst ran)
        rw [Cell.Plain, Json.keys_placeFields]
        exact Metadata.plain_of_check checked
    · simp at ran
  · simp at ran

/-- What is made of an orderly schema is one. -/
theorem make_progress (orderly : store.Orderly duties) (within : cell.Within store.size) (isSchema : cell.IsSchema store duties)
    (ran : outcome (make cell) store = (.ok root, later)) :
    ∃ duties', store.Progress duties later duties' ∧ duties' root = .schema := by
  rw [make, outcome_bind_ok (Change.outcome_push cell store)] at ran
  obtain ⟨rfl, rfl⟩ := adopt_ok ran
  have serves : cell.Serves store duties .schema := isSchema
  exact ⟨_, orderly.push within serves, Function.update_self ..⟩

/-- A keyword without schemas is set. -/
theorem isSchema_put_plain {key : Key} {slot : Slot} (isSchema : cell.IsSchema store duties)
    (notProperties : key ≠ "properties") (notRequired : key ≠ "required") (none : slot.addresses = []) :
    Cell.IsSchema store duties (Fields.put cell key slot) :=
  isSchema.put notProperties notRequired fun _ _ _ _ => Slot.schematic_of_addresses none

theorem makeScalar_progress {type : ScalarType} (orderly : store.Orderly duties)
    (ran : outcome (makeScalar type operand) store = (.ok root, later)) :
    ∃ duties', store.Progress duties later duties' ∧ duties' root = .schema := by
  obtain ⟨cell, middle, took, ran⟩ := outcome_bind_eq_ok.mp ran
  obtain ⟨progress, within, plain⟩ := metadata_ok orderly took
  obtain ⟨duties', made, schema⟩ := make_progress progress.orderly (within.put (Slot.within_of_addresses rfl))
    (isSchema_put_plain plain.isSchema (by simp) (by simp) rfl) ran
  exact ⟨duties', progress.trans made, schema⟩

theorem makeArray_progress {items : Operand} (orderly : store.Orderly duties) (given : items.Schematic duties)
    (ran : outcome (makeArray items operand) store = (.ok root, later)) :
    ∃ duties', store.Progress duties later duties' ∧ duties' root = .schema := by
  obtain ⟨cell, middle, took, ran⟩ := outcome_bind_eq_ok.mp ran
  obtain ⟨progress, within, plain⟩ := metadata_ok orderly took
  obtain ⟨node, found, ran⟩ := (Change.still_nodeOf _ items).bind_eq_ok.mp ran
  have schematic := progress.schematic orderly (Slot.schematic_node.mpr (given node (nodeOf_ok found)))
  obtain ⟨duties', made, schema⟩ := make_progress progress.orderly
    ((within.put (Slot.within_of_addresses rfl)).put (progress.orderly.within schematic))
    ((isSchema_put_plain plain.isSchema (by simp) (by simp) rfl).put (by simp) (by simp) fun _ _ _ _ => schematic) ran
  exact ⟨duties', progress.trans made, schema⟩

theorem enumeration_progress {value : Json} {middle : Store} (progress : store.Progress duties middle duties)
    (within : cell.Within middle.size) (plain : cell.Plain) (ran : outcome (do
      let typed := Fields.put cell "type" (.string "string")
      make (Fields.put typed "enum" (← Change.place value))) middle = (.ok root, later)) :
    ∃ duties', store.Progress duties later duties' ∧ duties' root = .schema := by
  obtain ⟨slot, last, placed, ran⟩ := outcome_bind_eq_ok.mp ran
  have fit := (Change.stays_place value middle progress.orderly.closed (Nat.zero_le _)).2.2
  rw [placed] at fit
  have stays : Change.Stays middle.size (Change.place value) fun size slot => slot.Within size := Change.stays_place value
  have more := progress_of_adds progress.orderly (Change.adds_place value) stays placed
  have typed : Cell.IsSchema last duties (Fields.put cell "type" (.string "string")) :=
    isSchema_put_plain plain.isSchema (by simp) (by simp) rfl
  obtain ⟨duties', made, schema⟩ := make_progress more.orderly
    (((within.mono more.size).put (Slot.within_of_addresses rfl)).put (fit slot rfl))
    (typed.put (by simp) (by simp) (by rintro keyword role listed ⟨⟩; simp [Walk.keywords] at listed)) ran
  exact ⟨duties', (progress.trans more).trans made, schema⟩

theorem factory_progress {factory : Factory} (orderly : store.Orderly duties)
    (given : ∀ operand ∈ factory.schemas, operand.Schematic duties)
    (ran : outcome factory.run store = (.ok root, later)) :
    ∃ duties', store.Progress duties later duties' ∧ duties' root = .schema := by
  cases factory with
  | object metadata =>
      obtain ⟨cell, middle, took, ran⟩ := outcome_bind_eq_ok.mp ran
      obtain ⟨progress, within, plain⟩ := metadata_ok orderly took
      obtain ⟨duties', made, schema⟩ := make_progress progress.orderly
        ((within.put (Slot.within_of_addresses rfl)).put (Slot.within_of_addresses rfl))
        (isSchema_put_plain (isSchema_put_plain plain.isSchema (by simp) (by simp) rfl) (by simp) (by simp) rfl) ran
      exact ⟨duties', progress.trans made, schema⟩
  | scalar type metadata => exact makeScalar_progress orderly ran
  | enumeration values metadata =>
      cases values with
      | value json =>
          cases json with
          | array values =>
              obtain ⟨cell, middle, took, ran⟩ := outcome_bind_eq_ok.mp ran
              obtain ⟨progress, within, plain⟩ := metadata_ok orderly took
              exact enumeration_progress progress within plain ran
          | _ => simp [Factory.run] at ran
      | _ => simp [Factory.run] at ran
  | array items metadata => exact makeArray_progress orderly (given items (by simp [Factory.schemas])) ran
  | stringArray metadata =>
      obtain ⟨items, middle, made, ran⟩ := outcome_bind_eq_ok.mp ran
      obtain ⟨duties', progress, schema⟩ := makeScalar_progress orderly made
      obtain ⟨duties'', more, schema'⟩ := makeArray_progress progress.orderly (by rintro _ ⟨⟩; exact schema) ran
      exact ⟨duties'', progress.trans more, schema'⟩
  | combine combinator first second =>
      obtain ⟨left, found, ran⟩ := (Change.still_nodeOf _ first).bind_eq_ok.mp ran
      obtain ⟨right, found', ran⟩ := (Change.still_nodeOf _ second).bind_eq_ok.mp ran
      have left' := given first (by simp [Factory.schemas]) left (nodeOf_ok found)
      have right' := given second (by simp [Factory.schemas]) right (nodeOf_ok found')
      have schematic : (Slot.array [.node left, .node right]).Schematic duties := by simp [left', right']
      refine make_progress orderly (Cell.within_nil.put (orderly.within schematic)) ?_ ran
      refine plain_nil.isSchema.put ?_ ?_ fun _ _ _ _ => schematic
      · cases combinator <;> simp [Combinator.keyword]
      · cases combinator <;> simp [Combinator.keyword]
  | negation schema =>
      obtain ⟨node, found, ran⟩ := (Change.still_nodeOf _ schema).bind_eq_ok.mp ran
      have schematic := Slot.schematic_node.mpr (given schema (by simp [Factory.schemas]) node (nodeOf_ok found))
      refine make_progress orderly (Cell.within_nil.put (orderly.within schematic)) ?_ ran
      exact plain_nil.isSchema.put (by simp) (by simp) fun _ _ _ _ => schematic

theorem dropEach_progress (nodes : List Nat) : ∀ {store : Store}, store.Orderly duties →
    (∀ node ∈ nodes, duties node = .schema) →
      ∃ last, outcome (nodes.forM fun node => Change.drop node "required") store = (.ok ⟨⟩, last) ∧
        store.Progress duties last duties := by
  induction nodes with
  | nil => exact fun orderly _ => ⟨_, rfl, .refl orderly⟩
  | cons node rest ih =>
      intro store orderly schemas
      obtain ⟨here, others⟩ := List.forall_mem_cons.mp schemas
      have dropped := orderly.dropRequired here
      obtain ⟨last, ran, progress⟩ := ih dropped others
      refine ⟨last, ?_, Store.Progress.trans ⟨dropped, by simp, fun _ _ => rfl⟩ progress⟩
      exact (outcome_bind_ok (Change.outcome_drop node "required" store)).trans ran

theorem deepOptionals_progress (orderly : store.Orderly duties) (duty : duties address = .schema)
    (ran : outcome (deepOptionals address) store = (.ok (), later)) : ∃ duties', store.Progress duties later duties' := by
  have schemas : ∀ node ∈ (store.trail (.node address)).seen, duties node = .schema := fun node seen =>
    orderly.visits ((Slot.schematic_node.mpr duty).fills (by simp)) (Store.visits_of_mem_trail seen)
  obtain ⟨last, dropped, progress⟩ := dropEach_progress _ orderly schemas
  rw [deepOptionals, outcome_bind_ok (outcome_get store)] at ran
  dsimp only at ran
  rw [outcome_bind_ok dropped] at ran
  split at ran
  · obtain rfl : last = later := congrArg Prod.snd ran
    exact ⟨duties, progress⟩
  · simp at ran

end Builder

/-- The names that an edit is given are texts. -/
def Edit.Named : Edit → Prop
  | .setOptional names | .setRequired names | .pick names | .omit names | .transform _ names =>
      ∃ texts, names.Lists texts
  | .pickAdditional names additional =>
      (∃ texts, names.Lists texts) ∧ (additional.isNull = true ∨ ∃ texts, additional.Lists texts)
  | .transformToArray names => names.isNull = true ∨ ∃ texts, names.Lists texts
  | .add _ name _ | .addMade _ name _ => ∃ text, name = .string text
  | .rename _ name newName => (∃ text, name = .string text) ∧ ∃ text, newName = .string text
  | .toOptionals | .toDeepOptionals | .addAdditional _ | .merge _ | .overwrite _ => True

namespace Edit

variable {store later : Store} {duties : Nat → Duty} {address : Nat} {edit : Edit}

/-- A successful edit with texts for names keeps the order. -/
theorem progress_of_ok (orderly : store.Orderly duties) (duty : duties address = .schema) (named : edit.Named)
    (given : ∀ operand ∈ edit.schemas, operand.Schematic duties)
    (ran : outcome (edit.run address) store = (.ok (), later)) : ∃ duties', store.Progress duties later duties' := by
  cases edit with
  | setOptional names =>
      obtain ⟨texts, listed⟩ := named
      exact Builder.setOptionalNames_progress orderly duty listed ran
  | setRequired names =>
      obtain ⟨texts, listed⟩ := named
      exact Builder.setRequiredNames_progress orderly duty listed ran
  | toOptionals =>
      obtain rfl : store.replace address (Fields.erase (store.cell address) "required") = later := congrArg Prod.snd ran
      exact Builder.progress_of_orderly (orderly.dropRequired duty) (by simp)
  | toDeepOptionals => exact Builder.deepOptionals_progress orderly duty ran
  | add isRequired name schema =>
      obtain ⟨text, rfl⟩ := named
      exact Builder.addProperty_progress orderly duty (given schema (by simp [schemas])) ran
  | addMade isRequired name factory =>
      obtain ⟨text, rfl⟩ := named
      obtain ⟨root, middle, made, ran⟩ := outcome_bind_eq_ok.mp ran
      obtain ⟨duties', progress, schema⟩ := Builder.factory_progress orderly given made
      obtain ⟨duties'', more⟩ := Builder.addProperty_progress progress.orderly (progress.duty orderly (by simp) duty)
        (by rintro _ ⟨⟩; exact schema) ran
      exact ⟨duties'', progress.trans more⟩
  | addAdditional schema => exact Builder.addAdditional_progress orderly duty (given schema (by simp [schemas])) ran
  | rename isRequired name newName =>
      obtain ⟨⟨text, rfl⟩, new, rfl⟩ := named
      exact Builder.rename_progress orderly duty ran
  | pick names =>
      obtain ⟨texts, listed⟩ := named
      exact Builder.pickListed_progress orderly duty listed ran
  | pickAdditional names additional =>
      obtain ⟨⟨texts, listed⟩, more⟩ := named
      exact Builder.pickAdditional_progress orderly duty listed more ran
  | «omit» names =>
      obtain ⟨texts, listed⟩ := named
      exact Builder.omitNames_progress orderly duty listed ran
  | transform schema names =>
      obtain ⟨texts, listed⟩ := named
      exact Builder.transform_progress orderly duty (given schema (by simp [schemas])) listed ran
  | transformToArray names => exact Builder.transformToArray_progress orderly duty named ran
  | merge other => exact Builder.merge_progress orderly duty (given other (by simp [schemas])) ran
  | overwrite other => exact Builder.overwrite_progress orderly duty (given other (by simp [schemas])) ran

/-- A refused edit with texts for names keeps the order: all that it leaves is new objects, or what picking does. -/
theorem progress_of_refused {refusal : Refusal} (orderly : store.Orderly duties) (duty : duties address = .schema)
    (named : edit.Named) (given : ∀ operand ∈ edit.schemas, operand.Schematic duties)
    (ran : outcome (edit.run address) store = (.error (.refused refusal), later)) :
    ∃ duties', store.Progress duties later duties' := by
  have known : ∀ operand ∈ edit.schemas, Builder.Known store.size operand := fun operand listed root same =>
    orderly.inside (by simp [given operand listed root same])
  have closed : later.Closed := by
    obtain ⟨closed, -⟩ := Builder.stays_edit address known store orderly.closed (Nat.le_refl _)
    rwa [ran] at closed
  by_cases plain : ∀ names additional, edit ≠ .pickAdditional names additional
  · exact ⟨duties, orderly.extendData (Edit.atomic_run address plain _ _ _ ran) closed⟩
  · simp only [not_forall, not_not] at plain
    obtain ⟨names, additional, rfl⟩ := plain
    obtain ⟨⟨texts, listed⟩, -⟩ := named
    rcases Builder.pickAdditional_refused orderly.closed (orderly.inside (by simp [duty])) ran with extends' | leaves
    · exact ⟨duties, orderly.extendData extends' closed⟩
    · obtain ⟨picked, picks, extends'⟩ := leaves.picked
      obtain ⟨duties', progress⟩ := Builder.pickListed_progress orderly duty listed picks
      exact ⟨duties', progress.trans (progress.orderly.extendData extends' closed)⟩

end Edit

end SchemaAlgebra
