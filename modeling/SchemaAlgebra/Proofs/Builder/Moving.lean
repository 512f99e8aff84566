import SchemaAlgebra.Proofs.Builder.Closing
import SchemaAlgebra.Proofs.Builder.Moves
import SchemaAlgebra.Proofs.Builder.Ordering

/-!
Every call goes by moves. Each operation takes to hand what it reads and then moves with that; a reference that it
refuses is one in a schema at hand. So the moves say all that calls can do to the store.
-/

namespace SchemaAlgebra

open Change

/-- What serves a walk in a role. -/
def Standing.Serves (standing : Standing) : Walk.Role → Prop
  | .members => ∃ owner, standing = .members owner
  | _ => standing = .schema

theorem Standing.serves_schema : Standing.schema.Serves .schema := rfl

theorem Standing.serves_under (self : Nat) {keyword : String} {role : Walk.Role}
    (listed : (keyword, role) ∈ Walk.keywords) :
    (Standing.schema.under self keyword).Serves role := by
  simp only [Walk.keywords, List.mem_cons, Prod.mk.injEq, List.not_mem_nil, or_false] at listed
  rcases listed with ⟨rfl, rfl⟩ | ⟨rfl, rfl⟩ | ⟨rfl, rfl⟩ | ⟨rfl, rfl⟩ | ⟨rfl, rfl⟩ | ⟨rfl, rfl⟩ | ⟨rfl, rfl⟩
  all_goals first | rfl | exact ⟨self, rfl⟩

theorem Standing.Serves.eq_schema {standing : Standing} {role : Walk.Role} (serves : standing.Serves role)
    (other : role ≠ .members) : standing = .schema := by
  cases role <;> first | exact absurd rfl other | exact serves

theorem Standing.under_of_unwalked (self : Nat) {key : Key}
    (unwalked : ∀ keyword role, (keyword, role) ∈ Walk.keywords → key ≠ .text keyword) :
    Standing.schema.under self key = .data := by
  cases key with
  | text keyword =>
      have none : Walk.keywords.lookup keyword = none := by
        rw [List.lookup_eq_none_iff]
        rintro ⟨other, role⟩ listed
        have different := unwalked other role listed
        simp only [ne_eq, Key.text.injEq] at different
        simp [different]
      simp [under, Key.text?, none]
  | _ => rfl

/-- Whatever a walk visits can be seen as a schema. -/
theorem Store.Visits.seen {store : Store} {hand : Hand} {role : Walk.Role} {slot : Slot} {node : Nat}
    (visits : store.Visits role slot node) : ∀ {standing : Standing}, standing.Serves role →
      Seen store hand standing slot → Seen store hand .schema (.node node) := by
  induction visits with
  | @here role address own =>
      intro standing serves seen
      obtain rfl := serves.eq_schema (by rintro rfl; simp [Walk.Role.isNode] at own)
      exact seen
  | @keyword role under address node keyword slot own listed found _ ih =>
      intro standing serves seen
      obtain rfl := serves.eq_schema (by rintro rfl; simp [Walk.Role.isNode] at own)
      exact ih (Standing.serves_under address listed) (seen.entry (Fields.mem_of_get? found))
  | member listed _ ih =>
      intro standing serves seen
      obtain ⟨owner, rfl⟩ := serves
      exact ih rfl (seen.entry listed)
  | @item role items item node own listed _ ih =>
      intro standing serves seen
      obtain rfl := serves.eq_schema (by rintro rfl; simp [Walk.Role.entersList] at own)
      exact ih rfl (seen.item listed)

namespace Builder

variable {address : Nat} {lent hand more : Hand}

/-- All slots of a list are at hand as data. -/
def AllData (hand : Hand) (slots : List Slot) : Prop :=
  ∀ slot ∈ slots, (Standing.data, slot) ∈ hand

/-- All entries of an object are at hand as schemas. -/
def AllSchemas (hand : Hand) (cell : Cell) : Prop :=
  ∀ entry ∈ cell, (Standing.schema, entry.2) ∈ hand

/-- A schema can be made of an object with what is at hand. -/
def Makes (hand : Hand) (cell : Cell) : Prop :=
  ∀ entry ∈ cell, entry.1 ≠ "$ref" ∧ ∀ (self : Nat) (store : Store) (more : Hand), hand ⊆ more →
    Seen store more (Standing.schema.under self entry.1) entry.2

/-- An argument that is a builder is at hand as a schema. -/
def Given (hand : Hand) (operand : Operand) : Prop :=
  ∀ root, operand = .builder root → (Standing.schema, Slot.node root) ∈ hand

theorem AllData.mono {slots : List Slot} (held : AllData hand slots) (less : hand ⊆ more) : AllData more slots :=
  fun slot listed => less (held slot listed)

theorem AllSchemas.mono {cell : Cell} (held : AllSchemas hand cell) (less : hand ⊆ more) : AllSchemas more cell :=
  fun entry listed => less (held entry listed)

theorem Given.mono {operand : Operand} (given : Given hand operand) (less : hand ⊆ more) : Given more operand :=
  fun root same => less (given root same)

theorem given_builder {root : Nat} (held : (Standing.schema, Slot.node root) ∈ hand) :
    Given hand (.builder root) := by
  rintro other ⟨⟩
  exact held

theorem AllData.append {first second : List Slot} (held : AllData hand first) (held' : AllData hand second) :
    AllData hand (first ++ second) :=
  List.forall_mem_append.mpr ⟨held, held'⟩

theorem AllData.singleton {slot : Slot} (held : (Standing.data, slot) ∈ hand) : AllData hand [slot] :=
  List.forall_mem_singleton.mpr held

theorem AllData.filter {slots : List Slot} (held : AllData hand slots) (test : Slot → Bool) :
    AllData hand (slots.filter test) :=
  fun slot listed => held slot (List.mem_of_mem_filter listed)

theorem AllSchemas.put {cell : Cell} {slot : Slot} (held : AllSchemas hand cell) (key : Key)
    (held' : (Standing.schema, slot) ∈ hand) : AllSchemas hand (Fields.put cell key slot) := by
  intro entry listed
  rcases Fields.mem_put listed with rfl | listed
  · exact held'
  · exact held entry listed

theorem AllSchemas.relabel {cell : Cell} (held : AllSchemas hand cell) (old new : Key) :
    AllSchemas hand (Fields.relabel cell old new) := by
  intro entry listed
  obtain ⟨original, among, rfl⟩ := List.mem_map.mp listed
  exact held original among

theorem makes_nil : Makes hand [] :=
  fun _ listed => absurd listed List.not_mem_nil

theorem Makes.mono {cell : Cell} (makes : Makes hand cell) (less : hand ⊆ more) : Makes more cell :=
  fun entry listed => ⟨(makes entry listed).1, fun self store further enough =>
    (makes entry listed).2 self store further fun _ held => enough (less held)⟩

theorem Makes.put {cell : Cell} {key : Key} {slot : Slot} (makes : Makes hand cell) (named : key ≠ "$ref")
    (seen : ∀ (self : Nat) (store : Store) (more : Hand), hand ⊆ more →
      Seen store more (Standing.schema.under self key) slot) : Makes hand (Fields.put cell key slot) := by
  intro entry listed
  rcases Fields.mem_put listed with rfl | listed
  · exact ⟨named, seen⟩
  · exact makes entry listed

/-- What is seen can be taken to hand. -/
theorem allData_look {slots : List Slot} {store : Store} (seen : ∀ slot ∈ slots, Seen store hand .data slot) :
    ∃ later : Hand, hand ⊆ later ∧ (∀ held ∈ later, Seen store hand held.1 held.2) ∧ AllData later slots := by
  refine ⟨slots.map (Standing.data, ·) ++ hand, List.subset_append_right _ _, fun held listed => ?_,
    fun slot listed => ?_⟩
  · rcases List.mem_append.mp listed with listed | listed
    · obtain ⟨slot, among, rfl⟩ := List.mem_map.mp listed
      exact seen slot among
    · exact .held listed
  · exact List.mem_append_left _ (List.mem_map_of_mem listed)

theorem allSchemas_look {cell : Cell} {store : Store} (seen : ∀ entry ∈ cell, Seen store hand .schema entry.2) :
    ∃ later : Hand, hand ⊆ later ∧ (∀ held ∈ later, Seen store hand held.1 held.2) ∧ AllSchemas later cell := by
  refine ⟨cell.map (fun entry => (Standing.schema, entry.2)) ++ hand, List.subset_append_right _ _,
    fun held listed => ?_, fun entry listed => ?_⟩
  · rcases List.mem_append.mp listed with listed | listed
    · obtain ⟨entry, among, rfl⟩ := List.mem_map.mp listed
      exact seen entry among
    · exact .held listed
  · exact List.mem_append_left _ (List.mem_map_of_mem
      (f := fun entry : Key × Slot => (Standing.schema, entry.2)) listed)

theorem held_look {standing : Standing} {slot : Slot} {store : Store} (seen : Seen store hand standing slot) :
    ∃ later : Hand, hand ⊆ later ∧ (∀ held ∈ later, Seen store hand held.1 held.2) ∧ (standing, slot) ∈ later :=
  ⟨(standing, slot) :: hand, List.subset_cons_self _ _,
    List.forall_mem_cons.mpr ⟨seen, fun _ held => .held held⟩, List.mem_cons_self⟩

theorem mem_of_present? {root : Nat} {key : Key} {store : Store} {slot? : Option Slot} {slot : Slot}
    (ran : outcome (present? root key) store = (.ok slot?, store)) (same : slot ∈ slot?) :
    (key, slot) ∈ store.cell root := by
  rw [outcome_present?] at ran
  obtain rfl := Except.ok.inj (congrArg Prod.fst ran)
  exact Fields.mem_of_get? (Option.mem_filter_iff.mp same).1

theorem goes_properties {root : Nat} (held : (Standing.schema, .node root) ∈ hand) :
    Goes lent address hand (properties root) fun later slot? => ∀ slot ∈ slot?,
      (Standing.members root, slot) ∈ later := by
  refine (looks_properties root).quiet.goes fun more store enough slot? ran => ?_
  cases slot? with
  | none => exact ⟨more, fun _ held => held, fun _ held => .held held, fun _ same => by cases same⟩
  | some slot =>
      have seen : Seen store more (.members root) slot := (Seen.held (enough held)).entry (mem_of_present? ran rfl)
      obtain ⟨later, less, looked, held⟩ := held_look seen
      exact ⟨later, less, looked, fun _ same => Option.some.inj same ▸ held⟩

theorem goes_items {slot? : Option Slot} (held : ∀ slot ∈ slot?, (Standing.data, slot) ∈ hand) :
    Goes lent address hand (items slot?) AllData := by
  refine (looks_items slot?).quiet.goes fun more store enough slots ran => allData_look fun slot listed => ?_
  unfold items at ran
  split at ran
  · obtain rfl : [] = slots := by simpa using ran
    exact absurd listed List.not_mem_nil
  · next listed' =>
      obtain rfl : listed' = slots := by simpa using ran
      exact (Seen.held (enough (held _ rfl))).item listed
  · next text =>
      obtain rfl : (Text.singles text).map .string = slots := by simpa using ran
      obtain ⟨part, -, rfl⟩ := List.mem_map.mp listed
      exact .plain rfl
  · next place =>
      rw [outcome_bind_ok (outcome_cell place store)] at ran
      obtain rfl : (Fields.keys (store.cell place)).map Key.toSlot = slots := by simpa using ran
      obtain ⟨key, -, rfl⟩ := List.mem_map.mp listed
      exact .plain (by cases key <;> rfl)
  · simp at ran

theorem goes_required {root : Nat} (held : (Standing.schema, .node root) ∈ hand) :
    Goes lent address hand (required root) AllData := by
  have read : Goes lent address hand (present? root "required") fun later slot? =>
      ∀ slot ∈ slot?, (Standing.data, slot) ∈ later := by
    refine (looks_present? root "required").quiet.goes fun more store enough slot? ran => ?_
    cases slot? with
    | none => exact ⟨more, fun _ held => held, fun _ held => .held held, fun _ same => by cases same⟩
    | some slot =>
        have seen : Seen store more .data slot := (Seen.held (enough held)).entry (mem_of_present? ran rfl)
        obtain ⟨later, less, looked, held⟩ := held_look seen
        exact ⟨later, less, looked, fun _ same => Option.some.inj same ▸ held⟩
  exact read.bind fun _ _ _ held => goes_items held

theorem goes_member {slot? : Option Slot} (name : Json)
    (held : ∀ slot ∈ slot?, ∃ owner, (Standing.members owner, slot) ∈ hand) :
    Goes lent address hand (member slot? name) fun later slot => (Standing.schema, slot) ∈ later := by
  refine (looks_member slot? name).quiet.goes fun more store enough slot ran => held_look ?_
  unfold member at ran
  split at ran
  · next place =>
      obtain ⟨owner, held⟩ := held _ rfl
      rw [outcome_bind_ok (outcome_cell place store)] at ran
      obtain ⟨key, -, ran⟩ := (looks_keyOf name).same.bind_eq_ok.mp ran
      split at ran
      · next found =>
          obtain rfl := Except.ok.inj (congrArg Prod.fst ran)
          exact (Seen.held (enough held)).entry (Fields.mem_of_get? found)
      · simp at ran
  · next listed =>
      obtain ⟨owner, held⟩ := held _ rfl
      obtain ⟨index, -, ran⟩ := (looks_indexIn _ name).same.bind_eq_ok.mp ran
      obtain rfl : listed.getD index .null = slot := by simpa using ran
      rw [List.getD_eq_getElem?_getD]
      cases found : listed[index]? with
      | none => exact .plain rfl
      | some slot => exact (Seen.held (enough held)).item (List.mem_of_getElem? found)
  · simp at ran

theorem goes_assign (name : Json) {slot : Slot} (own : (Standing.schema, .node address) ∈ hand)
    (held : (Standing.schema, slot) ∈ hand) : Goes lent address hand (assign address name slot) nothing := by
  intro more store enough
  refine (looks_cell address).quiet.bind_goesFrom fun cell ran => ?_
  obtain rfl : store.cell address = cell := by simpa using ran
  have own : Seen store more .schema (.node address) := .held (enough own)
  have seen : Seen store more .schema slot := .held (enough held)
  split
  · next place found =>
      refine (looks_cell place).quiet.bind_goesFrom fun cell ran => ?_
      refine (looks_keyOf name).quiet.bind_goesFrom fun key _ => ?_
      exact goesFrom_move (outcome_put _ _ _ _) (fun _ held => held) (.assign _ own found seen) trivial
  · next listed found =>
      refine (looks_indexIn _ name).quiet.bind_goesFrom fun index _ => ?_
      refine goesFrom_move (outcome_put _ _ _ _) (fun _ held => held)
        (.put own (by simp) (.list fun item among => ?_)) trivial
      rcases List.mem_or_eq_of_mem_set among with among | rfl
      · exact (own.entry (Fields.mem_of_get? found)).item among
      · exact seen
  · exact looks_unusable.quiet.goesFrom fun _ ran => by simp at ran

theorem goes_setRequired {names : List Slot} (own : (Standing.schema, .node address) ∈ hand)
    (held : AllData hand names) :
    Goes lent address hand (setRequired address names) nothing := by
  unfold setRequired
  split
  · exact goes_drop own
  · exact goes_put own (by simp) fun store more enough => .list fun slot listed => .held (enough (held slot listed))

theorem goes_others (name : Json) {slots : List Slot} (held : AllData hand slots) :
    Goes lent address hand (others name slots) AllData := by
  refine (looks_others name slots).quiet.goes fun more store enough kept ran => ?_
  rw [outcome_others] at ran
  obtain rfl := Except.ok.inj (congrArg Prod.fst ran)
  exact ⟨more, fun _ held => held, fun _ held => .held held, (held.mono enough).filter _⟩

theorem goes_among (names : List Json) {slots : List Slot} (held : AllData hand slots) :
    Goes lent address hand (among names slots) AllData := by
  refine (looks_among names slots).quiet.goes fun more store enough kept ran => ?_
  rw [outcome_among] at ran
  obtain rfl := Except.ok.inj (congrArg Prod.fst ran)
  exact ⟨more, fun _ held => held, fun _ held => .held held, (held.mono enough).filter _⟩

/-- New properties are made and given to the schema. -/
theorem goes_found {β : Type} {cell : Cell} {next : Nat → Change β} {gives : Hand → β → Prop}
    (own : (Standing.schema, .node address) ∈ hand) (held : AllSchemas hand cell)
    (then' : ∀ fresh more, hand ⊆ more → (Standing.members address, Slot.node fresh) ∈ more →
      Goes lent address more (next fresh) gives) : Goes lent address hand (do
        let fresh ← push cell
        Change.put address "properties" (.node fresh)
        next fresh) gives := by
  intro more store enough
  have own : Seen store more .schema (.node address) := .held (enough own)
  have move : Move lent address ⟨more, store⟩ _ := .found own fun entry listed => .held (enough (held entry listed))
  obtain ⟨later, less, moves, ends⟩ := then' store.size _ (fun _ held => List.mem_cons_of_mem _ (enough held))
    List.mem_cons_self _ _ fun _ held => held
  rw [GoesFrom, outcome_bind_ok (outcome_push cell store), outcome_bind_ok (outcome_put _ _ _ _)]
  exact ⟨later, fun _ held => less (List.mem_cons_of_mem _ held), .head move moves, ends⟩

theorem goes_ownProperties (own : (Standing.schema, .node address) ∈ hand) :
    Goes lent address hand (ownProperties address) fun later slot => (Standing.members address, slot) ∈ later := by
  intro more store enough
  refine (looks_cell address).quiet.bind_goesFrom fun cell ran => ?_
  obtain rfl : store.cell address = cell := by simpa using ran
  dsimp only
  split
  · next slot found =>
      have seen : Seen store more (.members address) slot :=
        (Seen.held (enough own)).entry (Fields.mem_of_get? found)
      refine (looks_pure slot).quiet.goesFrom fun other ran => ?_
      obtain rfl : slot = other := by simpa using ran
      exact held_look seen
  · have founds : Goes lent address hand (do
        let fresh ← push []
        Change.put address "properties" (.node fresh)
        return Slot.node fresh) fun later slot => (Standing.members address, slot) ∈ later :=
      goes_found own (fun _ listed => absurd listed List.not_mem_nil) fun fresh more _ held =>
        goes_pure fun _ less => less held
    exact founds more store enough

/-- The builder that an argument is, is at hand or lent as the argument is. -/
theorem goes_nodeOf (operation : String) {operand : Operand} {given : Hand} (held : Given given operand) :
    Goes lent address hand (nodeOf operation operand) fun _ root => (Standing.schema, .node root) ∈ given := by
  unfold nodeOf
  split
  · exact goes_pure fun _ _ => held _ rfl
  · exact goes_refuse fun _ _ => by simp

theorem quiet_refuseTaken (root : Nat) (name : Json) : Quiet (refuseTaken root name) :=
  (looks_shown name).quiet.bind fun _ => (looks_owner root).quiet.bind fun _ => quiet_refuse fun _ _ => by simp

theorem goes_insertNew (name : Json) {schema : Operand} (own : (Standing.schema, .node address) ∈ hand)
    (given : Given hand schema) : Goes lent address hand (insertNew address name schema) nothing := by
  refine (goes_nodeOf _ given).bind fun node _ less held => ?_
  exact (goes_ownProperties (less own)).bind fun _ _ less' _ =>
    goes_assign name (less' (less own)) (less' (less held))

theorem goes_insertFree (name : Json) {schema : Operand} (own : (Standing.schema, .node address) ∈ hand)
    (given : Given hand schema) : Goes lent address hand (insertFree address name schema) nothing := by
  refine (looks_properties address).bind_goes fun declared => ?_
  refine (looks_holds declared name).bind_goes fun found => ?_
  split
  · exact (quiet_refuseTaken address name).bind_goes fun _ => goes_insertNew name own given
  · exact goes_insertNew name own given

theorem goes_insertProperty (name : Json) {schema : Operand} (own : (Standing.schema, .node address) ∈ hand)
    (given : Given hand schema) : Goes lent address hand (insertProperty address name schema) nothing := by
  refine (looks_shape address).bind_goes fun face => ?_
  split
  · exact (quiet_refuse fun _ _ => by simp).bind_goes fun _ => goes_insertFree name own given
  · exact goes_insertFree name own given

theorem goes_requireName (name : Json) (own : (Standing.schema, .node address) ∈ hand) :
    Goes lent address hand (requireName address name) nothing := by
  refine (goes_required own).bind fun before _ less held => ?_
  refine (goes_place name).bind fun slot _ less' held' => goes_setRequired (less' (less own)) ?_
  exact (held.mono less').append (.singleton held')

theorem goes_addProperty (isRequired : Bool) (name : Json) {schema : Operand}
    (own : (Standing.schema, .node address) ∈ hand) (given : Given hand schema) :
    Goes lent address hand (addProperty address isRequired name schema) nothing := by
  refine (goes_insertProperty name own given).bind fun _ _ less _ => ?_
  split
  · exact goes_requireName name (less own)
  · exact goes_pure fun _ _ => trivial

theorem goes_allowMore {schema : Operand} (own : (Standing.schema, .node address) ∈ hand)
    (given : Given hand schema) :
    Goes lent address hand (allowMore address schema) nothing := by
  refine (looks_cell address).bind_goes fun cell => ?_
  split
  · exact (looks_owner address).bind_goes fun _ => goes_refuse fun _ _ => by simp
  · exact (looks_owner address).bind_goes fun _ => goes_refuse fun _ _ => by simp
  · split
    · exact goes_put own (by simp) fun _ _ _ => .plain rfl
    · refine (goes_nodeOf _ given).bind fun node _ less held => ?_
      exact goes_put (less own) (by simp) fun _ _ enough => .held (enough (less held))

theorem goes_addAdditional {schema : Operand} (own : (Standing.schema, .node address) ∈ hand)
    (given : Given hand schema) : Goes lent address hand (addAdditional address schema) nothing := by
  refine (looks_shape address).bind_goes fun face => ?_
  dsimp only
  split
  · exact (quiet_refuse fun _ _ => by simp).bind_goes fun _ => goes_allowMore own given
  · exact goes_allowMore own given

theorem goes_requireRenamed (isRequired : Bool) (name newName : Json)
    (own : (Standing.schema, .node address) ∈ hand) :
    Goes lent address hand (requireRenamed address isRequired name newName) nothing := by
  refine (goes_required own).bind fun names _ less held => ?_
  refine (goes_others name held).bind fun kept _ less' held => ?_
  split
  · refine (goes_place newName).bind fun slot _ less'' held' => goes_setRequired (less'' (less' (less own))) ?_
    exact (held.mono less'').append (.singleton held')
  · exact goes_setRequired (less' (less own)) held

theorem goes_membersCell {owner place : Nat} (held : (Standing.members owner, .node place) ∈ hand) :
    Goes lent address hand (Change.cell place) AllSchemas := by
  refine (looks_cell place).quiet.goes fun more store enough cell ran => allSchemas_look fun entry listed => ?_
  obtain rfl : store.cell place = cell := by simpa using ran
  exact (Seen.held (enough held)).entry listed

theorem membersAt_ok {slot? : Option Slot} {store : Store} {place : Nat}
    (ran : outcome (membersAt slot?) store = (.ok (some place), store)) : slot? = some (.node place) := by
  unfold membersAt at ran
  split at ran
  · simp at ran
  · simpa using ran
  · simp at ran

/-- What is listed as members is at hand as members. -/
theorem goes_membersAt {slot? : Option Slot} (held : ∀ slot ∈ slot?, ∃ owner,
    (Standing.members owner, slot) ∈ hand) :
    Goes lent address hand (membersAt slot?) fun later place? =>
      ∀ place ∈ place?, ∃ owner, (Standing.members owner, .node place) ∈ later := by
  refine (looks_membersAt slot?).quiet.goes fun more store enough place? ran =>
    ⟨more, fun _ held => held, fun _ held => .held held, fun place same => ?_⟩
  obtain rfl : place? = some place := same
  obtain ⟨owner, held⟩ := held _ (membersAt_ok ran)
  exact ⟨owner, enough held⟩

theorem goes_renameHeld (isRequired : Bool) (name newName : Json) {declared : Option Slot}
    (own : (Standing.schema, .node address) ∈ hand)
    (held : ∀ slot ∈ declared, (Standing.members address, slot) ∈ hand) :
    Goes lent address hand (renameHeld address isRequired name newName declared) nothing := by
  refine (looks_holds declared name).bind_goes fun found => ?_
  split
  · refine (goes_membersAt fun slot same => ⟨address, held slot same⟩).bind fun members _ less held => ?_
    dsimp only
    split
    · next place =>
        obtain ⟨owner, held⟩ := held place rfl
        refine (goes_membersCell held).bind fun cell _ less' held => ?_
        refine (looks_keyOf name).bind_goes fun old => (looks_keyOf newName).bind_goes fun new => ?_
        exact goes_found (less' (less own)) (held.relabel _ _) fun _ _ less'' _ =>
          goes_requireRenamed isRequired name newName (less'' (less' (less own)))
    · exact goes_requireRenamed isRequired name newName (less own)
  · exact goes_pure fun _ _ => trivial

theorem quiet_requireSimple (root : Nat) (operation : String) : Quiet (requireSimple root operation) :=
  (looks_shape root).quiet.bind fun _ => quiet_ite (looks_pure ()).quiet (quiet_refuse fun _ _ => by simp)

theorem goes_rename (isRequired : Bool) (name newName : Json) (own : (Standing.schema, .node address) ∈ hand) :
    Goes lent address hand (rename address isRequired name newName) nothing := by
  refine (quiet_requireSimple address _).bind_goes fun _ => ?_
  refine (goes_properties own).bind fun declared _ less held => ?_
  refine (looks_holds declared newName).bind_goes fun taken => ?_
  dsimp only
  split
  · exact (quiet_refuseTaken address newName).bind_goes fun _ =>
      goes_renameHeld isRequired name newName (less own) held
  · exact goes_renameHeld isRequired name newName (less own) held

theorem quiet_requirePicked (root : Nat) (declared : Option Slot) (names : List Json) :
    Quiet (requirePicked root declared names) := by
  induction names with
  | nil => exact (looks_pure ()).quiet
  | cons name rest ih =>
      rw [requirePicked]
      refine (looks_holds declared name).quiet.bind fun found => quiet_ite ih ?_
      exact (looks_shown name).quiet.bind fun _ => (looks_owner root).quiet.bind fun _ =>
        quiet_refuse fun _ _ => by simp

theorem goes_selected {declared : Option Slot} (held : ∀ slot ∈ declared, (Standing.members address, slot) ∈ hand)
    (names : List Json) {picked : Cell} (before : AllSchemas hand picked) :
    Goes lent address hand (selected declared names picked) AllSchemas := by
  induction names generalizing hand picked with
  | nil => exact goes_pure fun _ less => before.mono less
  | cons name rest ih =>
      rw [selected]
      refine (goes_member name fun slot same => ⟨address, held slot same⟩).bind fun slot _ less held' => ?_
      refine (looks_keyOf name).bind_goes fun key => ih (fun other same => less (held other same)) ?_
      exact (before.mono less).put _ held'

theorem goes_pickNames (names : List Json) (own : (Standing.schema, .node address) ∈ hand) :
    Goes lent address hand (pickNames address names) nothing := by
  refine (goes_properties own).bind fun declared _ less held => ?_
  refine (quiet_requirePicked address declared names).bind_goes fun _ => ?_
  refine (goes_selected held names fun _ listed => absurd listed List.not_mem_nil).bind fun picked _ less' held => ?_
  refine goes_found (less' (less own)) held fun _ _ less'' _ => ?_
  have own := less'' (less' (less own))
  refine (looks_cell address).bind_goes fun cell => goes_ite ?_ (goes_pure fun _ _ => trivial)
  exact (goes_required own).bind fun names' _ less held =>
    (goes_among names held).bind fun kept _ less' held => goes_setRequired (less' (less own)) held

theorem quiet_requirePickable (root : Nat) : Quiet (requirePickable root) :=
  (looks_shape root).quiet.bind fun _ => quiet_ite (quiet_refuse fun _ _ => by simp) (looks_pure ()).quiet

theorem goes_pick (names : List Json) (own : (Standing.schema, .node address) ∈ hand) :
    Goes lent address hand (pick address names) nothing :=
  (quiet_requirePickable address).bind_goes fun _ => goes_pickNames names own

theorem goes_pickListed (names : Operand) (own : (Standing.schema, .node address) ∈ hand) :
    Goes lent address hand (pickListed address names) nothing :=
  (quiet_requirePickable address).bind_goes fun _ =>
    (looks_names names).bind_goes fun listed => goes_pickNames listed own

theorem goes_omitNames (names : Operand) (own : (Standing.schema, .node address) ∈ hand) :
    Goes lent address hand (omitNames address names) nothing := by
  refine (quiet_requireSimple address _).bind_goes fun _ => ?_
  refine (looks_names names).bind_goes fun listed => ?_
  refine (looks_mapM looks_keyOf listed).bind_goes fun omitted => ?_
  refine (looks_properties address).bind_goes fun declared => ?_
  refine (looks_items declared).bind_goes fun slots => ?_
  exact (looks_keysOf slots).bind_goes fun keys => goes_pick _ own

theorem lend (less : hand ⊆ more) : lent ++ hand ⊆ lent ++ more :=
  List.append_subset.mpr ⟨List.subset_append_left _ _, fun _ held => List.mem_append_right _ (less held)⟩

theorem goes_copied {standing : Standing} {slot : Slot} (held : (standing, slot) ∈ lent ++ hand) :
    Goes lent address hand (copied slot) fun later copy => ∃ place, (standing.relocate place, copy) ∈ later :=
  fun _ store enough => goesFrom_move (outcome_copied slot store) (List.subset_cons_self _ _)
    (.copy (.held (lend enough held))) ⟨_, List.mem_cons_self⟩

theorem goes_adopt {root : Nat} (held : (Standing.schema, .node root) ∈ hand) :
    Goes lent address hand (adopt root) fun later given => (Standing.schema, .node given) ∈ later := by
  intro more store enough
  rw [GoesFrom, outcome_adopt]
  refine ⟨more, fun _ held => held, ?_⟩
  cases read : store.tree? (.node root) with
  | none => exact ⟨.refl, fun _ _ same => by cases same⟩
  | some schema =>
      dsimp only
      cases found : Walk.firstReference? schema with
      | none => exact ⟨.refl, enough held⟩
      | some reference =>
          refine ⟨.refl, fun _ _ _ => ⟨root, schema, enough held, read, ?_⟩⟩
          rw [found]
          simp

theorem goes_addLike {prior : Option Slot} (names : List Json) (own : (Standing.schema, .node address) ∈ hand)
    (held : ∀ slot ∈ prior, (Standing.schema, slot) ∈ hand) :
    Goes lent address hand (addLike address prior names) nothing := by
  induction names generalizing hand with
  | nil => exact goes_pure fun _ _ => trivial
  | cons name rest ih =>
      have add (node : Nat) (more : Hand) (less : hand ⊆ more) (held' : (Standing.schema, .node node) ∈ more) :
          Goes lent address more (adoptLike address prior name rest node) nothing := by
        refine (goes_adopt held').bind fun root _ less' held' => ?_
        refine (goes_addProperty true name (less' (less own)) (given_builder held')).bind fun _ _ less'' _ => ?_
        exact ih (less'' (less' (less own))) fun slot same => less'' (less' (less (held slot same)))
      rw [addLike.eq_def]
      dsimp only
      split
      · next inner =>
          refine (goes_copied (List.mem_append_right _ (held _ rfl))).bind fun copy more less given => ?_
          obtain ⟨place, given⟩ := given
          split
          · exact add _ more less given
          · exact goes_throw fun _ => by simp
      · refine (goes_push (fun _ listed => absurd listed List.not_mem_nil) fun _ _ _ _ listed =>
          absurd listed List.not_mem_nil).bind fun node more less given => ?_
        exact add node more less given

theorem goes_pickKept (kept : List Json) (additional : Operand) (extra : List Json)
    (own : (Standing.schema, .node address) ∈ hand) :
    Goes lent address hand (pickKept address kept additional extra) nothing := by
  have read : Goes lent address hand (Change.cell address) fun later cell =>
      ∀ slot ∈ Fields.get? cell "additionalProperties", (Standing.schema, slot) ∈ later := by
    refine (looks_cell address).quiet.goes fun more store enough cell ran => ?_
    obtain rfl : store.cell address = cell := by simpa using ran
    cases found : Fields.get? (store.cell address) "additionalProperties" with
    | none => exact ⟨more, fun _ held => held, fun _ held => .held held, fun _ same => by cases same⟩
    | some slot =>
        have seen : Seen store more .schema slot := (Seen.held (enough own)).entry (Fields.mem_of_get? found)
        obtain ⟨later, less, looked, held⟩ := held_look seen
        exact ⟨later, less, looked, fun _ same => Option.some.inj same ▸ held⟩
  refine read.bind fun cell _ less held => ?_
  refine (goes_pick kept (less own)).bind fun _ _ less' _ => ?_
  have own := less' (less own)
  refine goes_ite (goes_put own (by simp) fun _ _ _ => .plain rfl) (goes_ite ?_ ?_)
  · split
    · exact goes_put own (by simp) fun _ _ _ => .plain rfl
    · exact goes_put own (by simp) fun _ _ _ => .plain rfl
    · next found => exact goes_put own (by simp) fun _ _ enough => .held (enough (less' (held _ found)))
  · exact goes_addLike extra own fun slot found => less' (held slot found)

theorem quiet_requireDistinct (names additional : List Json) : Quiet (requireDistinct names additional) := by
  have rest : Quiet (do
      if !areDistinct (← additional.mapM keyOf) then refuse .repeatedAdditional : Change Unit) :=
    (looks_mapM looks_keyOf additional).quiet.bind fun _ =>
      quiet_ite (quiet_refuse fun _ _ => by simp) (looks_pure ()).quiet
  unfold requireDistinct
  dsimp only
  refine quiet_ite ?_ rest
  refine (looks_mapM (fun name => ?_) _).quiet.bind fun _ => (quiet_refuse fun _ _ => by simp).bind fun _ => rest
  split
  · exact looks_pure _
  · exact looks_unusable

theorem goes_pickAdditional (names additional : Operand) (own : (Standing.schema, .node address) ∈ hand) :
    Goes lent address hand (pickAdditional address names additional) nothing := by
  have distinct (kept extra : List Json) : Goes lent address hand (do
      requireDistinct kept extra
      pickKept address kept additional extra) nothing :=
    (quiet_requireDistinct kept extra).bind_goes fun _ => goes_pickKept kept additional extra own
  have keep : Goes lent address hand (do
      let kept ← Change.names names
      let extra ← if additional.isNull then pure [] else Change.names additional
      requireDistinct kept extra
      pickKept address kept additional extra) nothing := by
    refine (looks_names names).bind_goes fun kept => ?_
    exact goes_ite ((looks_pure []).bind_goes (distinct kept)) ((looks_names additional).bind_goes (distinct kept))
  refine (looks_shape address).bind_goes fun face => ?_
  dsimp only
  split
  · exact (quiet_refuse fun _ _ => by simp).bind_goes fun _ => keep
  · exact keep

end Builder

end SchemaAlgebra
