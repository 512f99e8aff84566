import SchemaAlgebra.Proofs.Builder.Moving
import SchemaAlgebra.Proofs.Store.Visiting

/-!
Edits, factories and clones as moves. A clone is about the copy that it makes, every other call about the schema
that it edits.
-/

namespace SchemaAlgebra

open Change

/-- The arguments that an edit takes into the schema. -/
def Edit.shared : Edit → List Operand
  | .add _ _ schema | .addAdditional schema => [schema]
  | .addMade _ _ factory => factory.schemas
  | _ => []

/-- The arguments that an edit takes copies of. -/
def Edit.copied : Edit → List Operand
  | .transform schema _ | .merge schema | .overwrite schema => [schema]
  | _ => []

theorem Edit.mem_schemas {edit : Edit} {operand : Operand} :
    operand ∈ edit.schemas ↔ operand ∈ edit.shared ∨ operand ∈ edit.copied := by
  cases edit <;> simp [schemas, shared, copied]

namespace Builder

variable {address : Nat} {lent hand more : Hand}

theorem quiet_requireExisting (root : Nat) (operation : String) (names : List Json) :
    Quiet (requireExisting root operation names) := by
  induction names with
  | nil => exact (looks_pure ()).quiet
  | cons name rest ih =>
      rw [requireExisting]
      refine (looks_properties root).quiet.bind fun declared => (looks_holds declared name).quiet.bind fun found =>
        ?_
      refine quiet_ite ih ?_
      exact (looks_shown name).quiet.bind fun _ => (looks_owner root).quiet.bind fun _ =>
        quiet_refuse fun _ _ => by simp

/-- A choice of what is at hand. -/
theorem goes_choice {first second : Slot} (held : (Standing.schema, first) ∈ hand)
    (held' : (Standing.schema, second) ∈ hand) :
    Goes lent address hand (push [("oneOf", .array [first, second])])
      fun later choice => (Standing.schema, .node choice) ∈ later := by
  refine goes_push (by simp) fun store more enough entry listed => ?_
  obtain rfl := List.mem_singleton.mp listed
  refine .list fun slot among => ?_
  rcases List.mem_cons.mp among with rfl | among
  · exact .held (enough held)
  · obtain rfl := List.mem_singleton.mp among
    exact .held (enough held')

theorem goes_offer {alternative : Nat} (names : List Json) (own : (Standing.schema, .node address) ∈ hand)
    (held : (Standing.schema, .node alternative) ∈ lent) :
    Goes lent address hand (offer address alternative names) nothing := by
  induction names generalizing hand with
  | nil => exact goes_pure fun _ _ => trivial
  | cons name rest ih =>
      rw [offer]
      refine (goes_properties own).bind fun declared _ less declaredHeld => ?_
      refine (goes_member name fun slot same => ⟨address, declaredHeld slot same⟩).bind fun current _ less'
        currentHeld => ?_
      refine (goes_copied (List.mem_append_left _ held)).bind fun other _ less'' otherHeld => ?_
      obtain ⟨place, otherHeld⟩ := otherHeld
      refine (goes_choice (less'' currentHeld) otherHeld).bind fun choice _ further choiceHeld => ?_
      have more : hand ⊆ _ := fun _ held => further (less'' (less' (less held)))
      refine (goes_assign name (more own) choiceHeld).bind fun _ _ last _ => ?_
      exact ih (last (more own))

theorem goes_transform {schema : Operand} (names : Operand) (own : (Standing.schema, .node address) ∈ hand)
    (given : Given lent schema) : Goes lent address hand (transform address schema names) nothing := by
  refine (quiet_requireSimple address _).bind_goes fun _ => ?_
  refine (looks_names names).bind_goes fun chosen => ?_
  refine (quiet_requireExisting address _ chosen).bind_goes fun _ => ?_
  exact (goes_nodeOf _ given).bind fun alternative _ less held => goes_offer chosen (less own) held

theorem goes_offerArrays (names : List Json) (own : (Standing.schema, .node address) ∈ hand) :
    Goes lent address hand (offerArrays address names) nothing := by
  induction names generalizing hand with
  | nil => exact goes_pure fun _ _ => trivial
  | cons name rest ih =>
      rw [offerArrays]
      refine (goes_properties own).bind fun declared _ less declaredHeld => ?_
      refine (goes_member name fun slot same => ⟨address, declaredHeld slot same⟩).bind fun current _ less'
        currentHeld => ?_
      refine (goes_copied (List.mem_append_right _ currentHeld)).bind fun inner now less'' innerHeld => ?_
      obtain ⟨place, innerHeld⟩ := innerHeld
      have lists : Goes lent address now (push [("type", .string "array"), ("items", inner)])
          fun later list => (Standing.schema, .node list) ∈ later := by
        refine goes_push (by simp) fun store more enough entry listed => ?_
        rcases List.mem_cons.mp listed with rfl | listed
        · exact .plain rfl
        · obtain rfl := List.mem_singleton.mp listed
          exact .held (enough innerHeld)
      refine lists.bind fun list _ further listHeld => ?_
      refine (goes_choice (further (less'' currentHeld)) listHeld).bind fun choice _ last choiceHeld => ?_
      have more : hand ⊆ _ := fun _ held => last (further (less'' (less' (less held))))
      exact (goes_assign name (more own) choiceHeld).bind fun _ _ less _ => ih (less (more own))

theorem goes_offerExisting (chosen : List Json) (own : (Standing.schema, .node address) ∈ hand) :
    Goes lent address hand (offerExisting address chosen) nothing :=
  (quiet_requireExisting address _ chosen).bind_goes fun _ => goes_offerArrays chosen own

theorem goes_transformToArray (names : Operand) (own : (Standing.schema, .node address) ∈ hand) :
    Goes lent address hand (transformToArray address names) nothing := by
  refine (quiet_requireSimple address _).bind_goes fun _ => ?_
  split
  · refine (looks_properties address).bind_goes fun declared => ?_
    refine (looks_items declared).bind_goes fun slots => ?_
    exact (looks_values slots).bind_goes fun chosen => goes_offerExisting chosen own
  · exact (looks_names names).bind_goes fun chosen => goes_offerExisting chosen own

/-- What is offered is a copy, and at hand as members. -/
theorem goes_offered {other : Operand} (given : Given lent other) :
    Goes lent address hand (offered other) fun later found =>
      ∀ slot ∈ found.1, ∃ owner, (Standing.members owner, slot) ∈ later := by
  have names (theirs : Option Slot) (node : Nat) (more : Hand)
      (held : ∀ slot ∈ theirs, ∃ owner, (Standing.members owner, slot) ∈ more) :
      Goes lent address more (do return (theirs, ← required node)) fun later found =>
        ∀ slot ∈ found.1, ∃ owner, (Standing.members owner, slot) ∈ later := by
    refine (looks_required node).bind_goes fun _ => goes_pure fun later less slot same => ?_
    obtain ⟨owner, held⟩ := held slot same
    exact ⟨owner, less held⟩
  refine (goes_nodeOf _ given).bind fun node _ _ held => ?_
  intro more store _
  refine (looks_properties node).quiet.bind_goesFrom fun theirs ran => ?_
  split
  · next slot =>
      have theirs : Seen store (lent ++ more) (.members node) slot :=
        (Seen.held (List.mem_append_left _ held)).entry (mem_of_present? ran rfl)
      have copies : GoesFrom lent address ⟨more, store⟩ (some <$> copied slot) fun later copy? =>
          ∀ copy ∈ copy?, ∃ owner, (Standing.members owner, copy) ∈ later := by
        refine goesFrom_move rfl (List.subset_cons_self _ _) (.copy theirs) ?_
        rintro _ ⟨⟩
        exact ⟨_, List.mem_cons_self⟩
      exact copies.bind fun copy? more _ held => names copy? node more held
  · exact names none node more (fun _ same => by cases same) more store fun _ held => held

theorem goes_offeredMembers {theirs : Option Slot}
    (held : ∀ slot ∈ theirs, ∃ owner, (Standing.members owner, slot) ∈ hand) :
    Goes lent address hand (offeredMembers theirs) AllSchemas := by
  refine (goes_membersAt held).bind fun place? _ _ held => ?_
  split
  · next place =>
      obtain ⟨owner, held⟩ := held place rfl
      exact goes_membersCell held
  · exact goes_pure fun _ _ _ listed => absurd listed List.not_mem_nil

/-- A key can always be taken to hand as data. -/
theorem goes_toSlot {slots : List Slot} (key : Key) (held : AllData hand slots) :
    Goes lent address hand (pure (slots ++ [key.toSlot]) : Change (List Slot)) AllData := by
  refine (looks_pure _).quiet.goes fun more store enough names ran => ?_
  obtain rfl : slots ++ [key.toSlot] = names := by simpa using ran
  refine allData_look fun slot listed => ?_
  rcases List.mem_append.mp listed with listed | listed
  · exact .held (enough (held slot listed))
  · obtain rfl := List.mem_singleton.mp listed
    exact .plain (by cases key <;> rfl)

theorem goes_listed (key : Key) {slots : List Slot} (held : AllData hand slots) :
    Goes lent address hand (listed key slots) AllData :=
  (looks_lists slots key.toJson).bind_goes fun _ => goes_ite (goes_pure fun _ less => held.mono less)
    (goes_toSlot key held)

theorem goes_mergeMembers (theirs : List Slot) {names : List Slot} {members : Cell}
    (own : (Standing.schema, .node address) ∈ hand) (held : AllData hand names)
    (membersHeld : AllSchemas hand members) :
    Goes lent address hand (mergeMembers address theirs names members) AllData := by
  induction members generalizing hand names with
  | nil => exact goes_pure fun _ less => held.mono less
  | cons entry rest ih =>
      obtain ⟨key, slot⟩ := entry
      obtain ⟨slotHeld, restHeld⟩ := List.forall_mem_cons.mp membersHeld
      rw [mergeMembers]
      refine (goes_ownProperties own).bind fun mine _ less mineHeld => ?_
      refine (looks_holds (some mine) key.toJson).bind_goes fun found => ?_
      have slotHeld := less slotHeld
      split
      · have declared : ∀ slot ∈ some mine, ∃ owner, (Standing.members owner, slot) ∈ _ :=
          fun _ same => ⟨address, Option.some.inj same ▸ mineHeld⟩
        refine (goes_member key.toJson declared).bind fun current _ less' currentHeld => ?_
        refine (goes_choice currentHeld (less' slotHeld)).bind fun choice _ less'' choiceHeld => ?_
        have more : hand ⊆ _ := fun _ held => less'' (less' (less held))
        refine (goes_assign _ (more own) choiceHeld).bind fun _ _ further _ => ?_
        refine (goes_listed key ((held.mono more).mono further)).bind fun _ _ last names => ?_
        exact ih (last (further (more own))) names (((AllSchemas.mono restHeld more).mono further).mono last)
      · refine (goes_assign _ (less own) slotHeld).bind fun _ now less' _ => ?_
        have more : hand ⊆ now := fun _ held => less' (less held)
        refine (looks_lists theirs key.toJson).bind_goes fun isRequired => ?_
        have names : Goes lent address now (pure (if isRequired then names ++ [key.toSlot] else names) : Change
          (List Slot))
            AllData := by
          split
          · exact goes_toSlot key (held.mono more)
          · exact goes_pure fun _ less => (held.mono more).mono less
        exact names.bind fun _ _ last names => ih (last (more own)) names ((AllSchemas.mono restHeld more).mono last)

theorem goes_eraseFirst (name : Json) {slots : List Slot} (held : AllData hand slots) :
    Goes lent address hand (eraseFirst name slots) AllData := by
  induction slots generalizing hand with
  | nil => exact goes_pure fun _ less => held.mono less
  | cons slot rest ih =>
      obtain ⟨slotHeld, restHeld⟩ := List.forall_mem_cons.mp held
      rw [eraseFirst]
      refine (looks_agrees slot name).bind_goes fun found => ?_
      split
      · exact goes_pure fun _ less => AllData.mono restHeld less
      · refine (ih restHeld).bind fun kept _ less keptHeld => goes_pure fun _ less' => ?_
        exact List.forall_mem_cons.mpr ⟨less' (less slotHeld), AllData.mono keptHeld less'⟩

theorem goes_overwriteMembers (theirs : List Slot) {names : List Slot} {members : Cell}
    (own : (Standing.schema, .node address) ∈ hand) (held : AllData hand names)
    (membersHeld : AllSchemas hand members) :
    Goes lent address hand (overwriteMembers address theirs names members) AllData := by
  induction members generalizing hand names with
  | nil => exact goes_pure fun _ less => held.mono less
  | cons entry rest ih =>
      obtain ⟨key, slot⟩ := entry
      obtain ⟨slotHeld, restHeld⟩ := List.forall_mem_cons.mp membersHeld
      rw [overwriteMembers]
      refine (goes_assign _ own slotHeld).bind fun _ _ less _ => ?_
      refine (looks_lists theirs key.toJson).bind_goes fun isRequired => ?_
      have names := held.mono less
      split
      · exact (goes_listed key names).bind fun _ _ less' names =>
          ih (less' (less own)) names ((AllSchemas.mono restHeld less).mono less')
      · exact (goes_eraseFirst key.toJson names).bind fun _ _ less' names =>
          ih (less' (less own)) names ((AllSchemas.mono restHeld less).mono less')

/-- What `merge` and `overwrite` have in common. -/
theorem goes_takeIn {operation : String} {other : Operand} {combine : List Slot → List Slot → Cell → Change
    (List Slot)}
    (own : (Standing.schema, .node address) ∈ hand) (given : Given lent other)
    (takes : ∀ (more : Hand) theirs names members, (Standing.schema, .node address) ∈ more → AllData more names →
      AllSchemas more members → Goes lent address more (combine theirs names members) AllData) : Goes lent address
        hand (do
      requireSimple address operation
      let (theirs, theirRequired) ← offered other
      let _ ← ownProperties address
      let before ← required address
      setRequired address (← combine theirRequired before (← offeredMembers theirs))) nothing := by
  refine (quiet_requireSimple address operation).bind_goes fun _ => ?_
  refine (goes_offered given).bind fun theirs _ less theirsHeld => ?_
  refine (goes_ownProperties (less own)).bind fun _ _ less' _ => ?_
  have own := less' (less own)
  refine (goes_required own).bind fun before _ less'' held => ?_
  have theirsHeld : ∀ slot ∈ theirs.1, ∃ owner, (Standing.members owner, slot) ∈ _ := fun slot same => by
    obtain ⟨owner, held⟩ := theirsHeld slot same
    exact ⟨owner, less'' (less' held)⟩
  refine (goes_offeredMembers theirsHeld).bind fun members _ further membersHeld => ?_
  have own := further (less'' own)
  refine (takes _ _ before members own (held.mono further) membersHeld).bind fun names _ last namesHeld => ?_
  exact goes_setRequired (last own) namesHeld

theorem goes_merge {other : Operand} (own : (Standing.schema, .node address) ∈ hand) (given : Given lent other) :
    Goes lent address hand (merge address other) nothing :=
  goes_takeIn own given fun _ theirs _ _ own held membersHeld => goes_mergeMembers theirs own held membersHeld

theorem goes_overwrite {other : Operand} (own : (Standing.schema, .node address) ∈ hand) (given : Given lent other) :
    Goes lent address hand (overwrite address other) nothing :=
  goes_takeIn own given fun _ theirs _ _ own held membersHeld => goes_overwriteMembers theirs own held membersHeld

theorem goes_setOptionalNames (names : Operand) (own : (Standing.schema, .node address) ∈ hand) :
    Goes lent address hand (setOptionalNames address names) nothing := by
  refine (quiet_requireSimple address _).bind_goes fun _ => ?_
  refine (looks_names names).bind_goes fun listed => ?_
  refine (looks_mapM looks_keyOf listed).bind_goes fun optional => ?_
  refine (looks_properties address).bind_goes fun declared => ?_
  refine (looks_items declared).bind_goes fun slots => ?_
  refine (looks_keysOf slots).bind_goes fun keys => ?_
  unfold setRequired
  split
  · exact goes_drop own
  · refine goes_put own (by simp) fun store more enough => .list fun slot listed => ?_
    obtain ⟨key, -, rfl⟩ := List.mem_map.mp listed
    exact .plain (by cases key <;> rfl)

theorem goes_addNames (names : List Json) {slots : List Slot} (held : AllData hand slots) :
    Goes lent address hand (addNames names slots) AllData := by
  induction names generalizing hand slots with
  | nil => exact goes_pure fun _ less => held.mono less
  | cons name rest ih =>
      rw [addNames]
      refine (looks_lists slots name).bind_goes fun found => ?_
      split
      · exact ih held
      · exact (goes_place name).bind fun slot _ less slotHeld => ih ((held.mono less).append (.singleton slotHeld))

theorem goes_setRequiredNames (names : Operand) (own : (Standing.schema, .node address) ∈ hand) :
    Goes lent address hand (setRequiredNames address names) nothing := by
  refine (quiet_requireSimple address _).bind_goes fun _ => ?_
  refine (looks_names names).bind_goes fun chosen => ?_
  refine (quiet_requireExisting address _ chosen).bind_goes fun _ => ?_
  refine (goes_required own).bind fun before _ less held => ?_
  exact (goes_addNames chosen held).bind fun _ _ less' listed => goes_setRequired (less' (less own)) listed

theorem goes_deepOptionals (own : (Standing.schema, .node address) ∈ hand) :
    Goes lent address hand (deepOptionals address) nothing := by
  have reads : Goes lent address hand (get : Change Store) fun later store =>
      ∀ node ∈ (store.trail (.node address)).seen, (Standing.schema, .node node) ∈ later := by
    refine looks_get.quiet.goes fun more store enough found ran => ?_
    obtain rfl : store = found := by simpa using ran
    let visited := (store.trail (.node address)).seen.map fun node => (Standing.schema, Slot.node node)
    refine ⟨visited ++ more, List.subset_append_right _ _, fun held listed => ?_, fun node listed => ?_⟩
    · rcases List.mem_append.mp listed with listed | listed
      · obtain ⟨node, among, rfl⟩ := List.mem_map.mp listed
        exact (Store.visits_of_mem_trail among).seen Standing.serves_schema (.held (enough own))
      · exact .held listed
    · exact List.mem_append_left _ (List.mem_map_of_mem listed)
  refine reads.bind fun store _ _ held => ?_
  refine (goes_forM fun node listed => goes_drop (held node listed)).bind fun _ _ _ _ => ?_
  exact goes_ite (goes_pure fun _ _ => trivial) (goes_throw fun _ => by simp)

theorem goes_placeFields (fields : List (Key × Json)) :
    Goes lent address hand (placeFields fields) fun later cell => AllData later (Fields.values cell) := by
  intro more store enough
  clear enough
  induction fields generalizing more store with
  | nil => exact ⟨more, fun _ held => held, .refl, fun _ listed => absurd listed List.not_mem_nil⟩
  | cons entry rest ih =>
      obtain ⟨key, value⟩ := entry
      obtain ⟨later, less, moves, held⟩ := ih ((.data, (value.place store).1) :: more) (value.place store).2
      refine ⟨later, fun _ held => less (List.mem_cons_of_mem _ held), .head (.place value) moves, ?_⟩
      exact List.forall_mem_cons.mpr ⟨less List.mem_cons_self, held⟩

theorem goes_metadata (kind : Metadata.Kind) (factory : String) (operand : Operand) :
    Goes lent address hand (Change.metadata kind factory operand) Makes := by
  intro more store enough
  unfold Change.metadata
  split
  · next json =>
      split
      · next fields checked =>
          obtain ⟨later, less, moves, held⟩ := (goes_placeFields fields : Goes lent address hand _ _) more store
            enough
          refine ⟨later, less, moves, fun entry listed => ?_⟩
          have known : entry.1 ∈ Fields.keys fields := by
            rw [← Json.keys_placeFields fields store]
            exact List.mem_map_of_mem listed
          refine ⟨Metadata.noReference_of_check checked _ known, fun self store more enough => ?_⟩
          rw [Standing.under_of_unwalked self (Metadata.plain_of_check checked _ known).2]
          exact .held (enough (held _ (List.mem_map_of_mem listed)))
      · exact (goes_refuse (fun _ _ => by simp) : Goes lent address hand _ _) more store enough
  · exact (goes_refuse (fun _ _ => by simp) : Goes lent address hand _ _) more store enough

theorem goes_make {cell : Cell} (makes : Makes hand cell) :
    Goes lent address hand (make cell) fun later root => (Standing.schema, .node root) ∈ later := by
  refine (goes_push (fun entry listed => (makes entry listed).1) fun store more enough entry listed =>
    (makes entry listed).2 store.size store more enough).bind fun _ _ _ held => goes_adopt held

theorem Makes.typed {cell : Cell} (makes : Makes hand cell) (word : String) :
    Makes hand (Fields.put cell "type" (.string word)) :=
  makes.put (by simp) fun _ _ _ _ => .plain rfl

theorem goes_makeScalar (type : ScalarType) (metadata : Operand) :
    Goes lent address hand (makeScalar type metadata) fun later root => (Standing.schema, .node root) ∈ later :=
  (goes_metadata _ _ metadata).bind fun _ _ _ makes => goes_make (makes.typed _)

theorem goes_makeArray {items : Operand} (given : Given hand items) (metadata : Operand) :
    Goes lent address hand (makeArray items metadata) fun later root => (Standing.schema, .node root) ∈ later := by
  refine (goes_metadata _ _ metadata).bind fun cell _ less makes => ?_
  refine (goes_nodeOf _ (given.mono less)).bind fun node _ less' held => goes_make ?_
  exact ((makes.mono less').typed _).put (by simp) fun _ _ _ enough => .held (enough (less' held))

theorem goes_factory {factory : Factory} (given : ∀ operand ∈ factory.schemas, Given hand operand) :
    Goes lent address hand factory.run fun later root => (Standing.schema, .node root) ∈ later := by
  cases factory with
  | object metadata =>
      refine (goes_metadata _ _ metadata).bind fun cell _ _ makes => goes_make ?_
      exact (makes.typed _).put (by simp) fun _ _ _ _ => .plain rfl
  | scalar type metadata => exact goes_makeScalar type metadata
  | enumeration values metadata =>
      cases values with
      | value json =>
          cases json with
          | array values =>
              refine (goes_metadata _ _ metadata).bind fun cell _ _ makes => ?_
              refine (goes_place (.array values)).bind fun slot _ less held => goes_make ?_
              exact ((makes.mono less).typed _).put (by simp) fun _ _ _ enough => .held (enough held)
          | _ => exact goes_refuse fun _ _ => by simp
      | _ => exact goes_refuse fun _ _ => by simp
  | array items metadata => exact goes_makeArray (given items (by simp [Factory.schemas])) metadata
  | stringArray metadata =>
      exact (goes_makeScalar .string _).bind fun items _ _ held => goes_makeArray (given_builder held) metadata
  | combine combinator first second =>
      refine (goes_nodeOf _ (given first (by simp [Factory.schemas]))).bind fun left _ less held => ?_
      refine (goes_nodeOf _ (given second (by simp [Factory.schemas]))).bind
        fun right _ less' held' => goes_make fun entry listed => ?_
      obtain rfl := List.mem_singleton.mp listed
      refine ⟨by cases combinator <;> simp [Combinator.keyword], fun self store more enough => ?_⟩
      have schemas : Standing.schema.under self combinator.keyword = .schema := by cases combinator <;> rfl
      rw [schemas]
      refine .list fun slot among => ?_
      rcases List.mem_cons.mp among with rfl | among
      · exact .held (enough (less' (less held)))
      · obtain rfl := List.mem_singleton.mp among
        exact .held (enough (less' (less held')))
  | negation schema =>
      refine (goes_nodeOf _ (given schema (by simp [Factory.schemas]))).bind fun node _ less held => goes_make ?_
      exact makes_nil.put (show ("not" : Key) ≠ "$ref" by simp) fun _ _ _ enough => .held (enough (less held))

/-- Every edit goes by moves. -/
theorem goes_edit {edit : Edit} (own : (Standing.schema, .node address) ∈ hand)
    (given : ∀ operand ∈ edit.shared, Given hand operand) (given' : ∀ operand ∈ edit.copied, Given lent operand) :
    Goes lent address hand (edit.run address) nothing := by
  cases edit with
  | setOptional names => exact goes_setOptionalNames names own
  | setRequired names => exact goes_setRequiredNames names own
  | toOptionals => exact goes_drop own
  | toDeepOptionals => exact goes_deepOptionals own
  | add required name schema => exact goes_addProperty required name own (given schema List.mem_cons_self)
  | addMade required name factory =>
      exact (goes_factory given).bind fun root _ less held => goes_addProperty required name (less own)
        (given_builder held)
  | addAdditional schema => exact goes_addAdditional own (given schema List.mem_cons_self)
  | rename required name newName => exact goes_rename required name newName own
  | pick names => exact goes_pickListed names own
  | pickAdditional names additional => exact goes_pickAdditional names additional own
  | «omit» names => exact goes_omitNames names own
  | transform schema names => exact goes_transform names own (given' schema List.mem_cons_self)
  | transformToArray names => exact goes_transformToArray names own
  | merge other => exact goes_merge own (given' other List.mem_cons_self)
  | overwrite other => exact goes_overwrite own (given' other List.mem_cons_self)

/-- A schema at hand gets some keywords. -/
theorem goes_overlay {root : Nat} {overlay : Cell} (own : (Standing.schema, .node root) ∈ hand)
    (makes : Makes hand overlay) :
    Goes lent root hand (do
      overlay.forM fun entry => Change.put root entry.1 entry.2
      adopt root) fun later given => (Standing.schema, .node given) ∈ later := by
  have each : ∀ entry ∈ overlay, Goes lent root hand (Change.put root entry.1 entry.2) nothing := fun entry listed =>
    goes_put own (makes entry listed).1 ((makes entry listed).2 root)
  exact (goes_forM each).bind fun _ _ less _ => goes_adopt (less own)

/-- A copy of a schema that is lent, with some keywords set, goes by moves that are about the copy. -/
theorem goesFrom_cloneWith {root : Nat} {overlay : Cell} (store : Store)
    (held : (Standing.schema, .node root) ∈ lent)
    (makes : Makes hand overlay) :
    GoesFrom lent (store.copyPlace (store.reach (.node root)) root) ⟨hand, store⟩ (cloneWith root overlay)
      fun later given => (Standing.schema, .node given) ∈ later := by
  let place := store.copyPlace (store.reach (.node root))
  have copies : outcome (copied (.node root)) store = (.ok (.node (place root)), (store.copy (.node root)).2) := rfl
  have move : Move lent (place root) ⟨hand, store⟩ ⟨(.schema, .node (place root)) :: hand,
    (store.copy (.node root)).2⟩ :=
    .copy (.held (List.mem_append_left hand held))
  obtain ⟨later, less, moves, ends⟩ := goes_overlay List.mem_cons_self
    (makes.mono (List.subset_cons_self (Standing.schema, Slot.node (place root)) hand)) _ (store.copy (.node root)).2
    fun _ held => held
  rw [GoesFrom, cloneWith, outcome_bind_ok copies]
  exact ⟨later, fun _ held => less (List.mem_cons_of_mem _ held), .head move moves, ends⟩

/-- A clone of a schema that is lent goes by moves that are about an object that it makes. -/
theorem goesFrom_clone {root : Nat} (store : Store) (held : (Standing.schema, .node root) ∈ lent)
    (metadata : Operand) :
    ∃ fresh, store.size ≤ fresh ∧ GoesFrom lent fresh ⟨[], store⟩ (clone root metadata)
      fun later given => (Standing.schema, .node given) ∈ later := by
  have adds := adds_metadata .object "clone" metadata store
  rcases ran : outcome (Change.metadata .object "clone" metadata) store with ⟨failure | overlay, middle⟩
  · obtain ⟨later, less, moves, ends⟩ :=
      (goes_metadata .object "clone" metadata : Goes lent store.size [] _ _) [] store fun _ held => held
    refine ⟨store.size, Nat.le_refl _, ?_⟩
    rw [ran] at moves ends
    rw [GoesFrom, clone, outcome_bind_error ran]
    exact ⟨later, less, moves, ends⟩
  · rw [ran] at adds
    let fresh := middle.copyPlace (middle.reach (.node root)) root
    obtain ⟨later, less, moves, ends⟩ :=
      (goes_metadata .object "clone" metadata : Goes lent fresh [] _ _) [] store fun _ held => held
    rw [ran] at moves ends
    obtain ⟨last, less', moves', ends'⟩ := goesFrom_cloneWith middle held ends
    refine ⟨fresh, Nat.le_trans adds.size (Nat.le_add_right _ _), ?_⟩
    have cloned : outcome (clone root metadata) store = outcome (cloneWith root overlay) middle :=
      outcome_bind_ok ran
    rw [GoesFrom, cloned]
    exact ⟨last, fun _ held => less' (less held), moves.trans moves', ends'⟩

end Builder

end SchemaAlgebra
