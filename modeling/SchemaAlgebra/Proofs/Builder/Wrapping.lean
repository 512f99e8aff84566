import SchemaAlgebra.Proofs.Builder.Ordering
import SchemaAlgebra.Proofs.Schema.Requirements

/-!
Putting a document into an orderly store. Whatever stands in a role in a consistent document is given the duty that a
walk in this role takes it for; everything else is data.
-/

namespace SchemaAlgebra

variable {store : Store} {duties : Nat → Duty}

open Metaschema Walk

/-- Putting a value into orderly stores keeps them in order, and the slot is of use in each of some roles. -/
def Json.Settles (value : Json) (fit : Role → Prop) : Prop :=
  ∀ {store : Store} {duties : Nat → Duty}, store.Orderly duties →
    ∃ duties', store.Progress duties (value.place store).2 duties' ∧
      ∀ role, fit role → (value.place store).1.Fills duties' role

theorem Store.Progress.fills {later : Store} {duties' : Nat → Duty} {slot : Slot} {role : Role}
    (progress : store.Progress duties later duties') (orderly : store.Orderly duties) (fills : slot.Fills duties role) :
    slot.Fills duties' role :=
  fills.mono fun address structural => progress.same address (orderly.inside structural)

theorem Store.Orderly.placeData (orderly : store.Orderly duties) (value : Json) :
    store.Progress duties (value.place store).2 duties := by
  have grows := (Json.placed value store orderly.closed).grows
  exact orderly.extendData grows.extends' grows.closed

theorem Json.settles_data (value : Json) : value.Settles fun _ => False :=
  fun orderly => ⟨_, orderly.placeData value, fun _ none => none.elim⟩

theorem Json.settles_items {items : List Json} (each : ∀ item ∈ items, item.Settles (· = .schema)) :
    ∀ {store : Store} {duties : Nat → Duty}, store.Orderly duties →
      ∃ duties', store.Progress duties (placeItems items store).2 duties' ∧
        ∀ slot ∈ (placeItems items store).1, slot.Schematic duties' := by
  induction items with
  | nil => exact fun orderly => ⟨_, .refl orderly, fun _ listed => absurd listed List.not_mem_nil⟩
  | cons item rest ih =>
      intro store duties orderly
      obtain ⟨here, others⟩ := List.forall_mem_cons.mp each
      obtain ⟨duties', progress, fills⟩ := here orderly
      obtain ⟨duties'', more, schematic⟩ := ih others progress.orderly
      refine ⟨duties'', progress.trans more, fun slot listed => ?_⟩
      rcases List.mem_cons.mp listed with rfl | listed
      · exact more.schematic progress.orderly ((fills .schema rfl).schematic (by simp))
      · exact schematic slot listed

theorem Json.settles_fields {fields : List (Key × Json)} (fit : Key → Role → Prop)
    (each : ∀ entry ∈ fields, entry.2.Settles (fit entry.1)) :
    ∀ {store : Store} {duties : Nat → Duty}, store.Orderly duties →
      ∃ duties', store.Progress duties (placeFields fields store).2 duties' ∧
        ∀ entry ∈ (placeFields fields store).1, ∀ role, fit entry.1 role → entry.2.Fills duties' role := by
  induction fields with
  | nil => exact fun orderly => ⟨_, .refl orderly, fun _ listed => absurd listed List.not_mem_nil⟩
  | cons entry rest ih =>
      obtain ⟨key, value⟩ := entry
      intro store duties orderly
      obtain ⟨here, others⟩ := List.forall_mem_cons.mp each
      obtain ⟨duties', progress, fills⟩ := here orderly
      obtain ⟨duties'', more, fills'⟩ := ih others progress.orderly
      refine ⟨duties'', progress.trans more, fun entry listed role fits => ?_⟩
      rcases List.mem_cons.mp listed with rfl | listed
      · exact more.fills progress.orderly (fills role fits)
      · exact fills' entry listed role fits

/-- What an object denotes requires what it declares, and so the object does. -/
theorem Store.DenotesAll.requiresDeclared {cell : Cell} {fields : List (Key × Json)} (denotes : store.DenotesAll cell fields)
    (requires : RequiresDeclared fields) : cell.RequiresDeclared store := by
  intro slot found
  obtain ⟨missing, -⟩ | ⟨_, value, found', given, same⟩ := denotes.get? "required"
  · rw [missing] at found
    cases found
  · obtain rfl := Option.some.inj (found.symm.trans found')
    obtain ⟨names, rfl, distinct, declared⟩ := requires value given
    refine ⟨names, same.eq_strings, distinct, fun name listed => ?_⟩
    obtain ⟨members, properties, has⟩ := declared name listed
    obtain ⟨-, missing⟩ | ⟨_, _, held, given', denotes'⟩ := denotes.get? "properties"
    · rw [missing] at properties
      cases properties
    · obtain rfl := Option.some.inj (properties.symm.trans given')
      obtain ⟨place, rfl, inside⟩ := denotes'.eq_node
      refine ⟨place, held, ?_⟩
      rw [Fields.has_iff_mem_keys] at has ⊢
      rw [inside.keys]
      exact has

/-- An object whose members are schemas may be put into a store as the members of a schema. -/
theorem Json.settles_members {fields : List (Key × Json)} (formed : (Json.object fields).wellFormed = true)
    (each : ∀ entry ∈ fields, entry.2.Settles (· = .schema)) : (Json.object fields).Settles (· = .members) := by
  intro store duties orderly
  obtain ⟨texts, distinct, -⟩ := (Json.wellFormed_object fields).mp formed
  obtain ⟨duties', progress, fills⟩ := Json.settles_fields (fun _ role => role = .schema) each orderly
  have placed : Json.FieldsPlaced store fields :=
    Json.fieldsPlaced (fun entry _ => Json.placed entry.2) store orderly.closed
  have keys := placed.denotes.keys
  obtain ⟨members, same⟩ : ∃ members, (placeFields fields store).1 = Cell.named members := by
    refine Cell.exists_named fun key listed => ?_
    rw [keys] at listed
    obtain ⟨entry, among, rfl⟩ := List.mem_map.mp listed
    exact texts entry among
  have serves : ((placeFields fields store).1).Serves (placeFields fields store).2 duties' .members := by
    refine ⟨members, same, ?_, fun member listed => ?_⟩
    · rw [← Cell.nodup_keys_named, ← same, keys]
      exact distinct
    · have entry : (Key.text member.1, member.2) ∈ (placeFields fields store).1 := by
        rw [same]
        exact List.mem_map_of_mem listed
      exact (fills _ entry .schema rfl).schematic (by simp)
  rw [Json.place_object]
  refine ⟨_, progress.trans (progress.orderly.push placed.within serves), ?_⟩
  rintro _ rfl
  exact ⟨_, rfl, Function.update_self ..⟩

/-- An object whose keywords hold what they are taken for, and that requires what it declares, may be put into a store as
a schema. -/
theorem Json.settles_node {fields : List (Key × Json)} (formed : (Json.object fields).wellFormed = true)
    (requires : RequiresDeclared fields)
    (each : ∀ keyword role, (keyword, role) ∈ keywords → ∀ value, Fields.get? fields (.text keyword) = some value →
      value.Settles (· = role)) : (Json.object fields).Settles (·.isNode = true) := by
  intro store duties orderly
  obtain ⟨-, distinct, -⟩ := (Json.wellFormed_object fields).mp formed
  have entries : ∀ entry ∈ fields, entry.2.Settles fun role => ∃ keyword, (keyword, role) ∈ keywords ∧ entry.1 = .text keyword := by
    rintro ⟨key, value⟩ listed store duties orderly
    by_cases walked : ∃ keyword role, (keyword, role) ∈ keywords ∧ key = .text keyword
    · obtain ⟨keyword, role, walked, rfl⟩ := walked
      obtain ⟨duties', progress, fills⟩ := each keyword role walked value (Fields.get?_of_mem distinct listed) orderly
      refine ⟨duties', progress, ?_⟩
      rintro role' ⟨_, walked', ⟨⟩⟩
      have same := (lookup_keywords walked).symm.trans (lookup_keywords walked')
      exact fills role' (Option.some.inj same).symm
    · obtain ⟨duties', progress, -⟩ := value.settles_data orderly
      exact ⟨duties', progress, fun role ⟨keyword, walked', same⟩ => absurd ⟨keyword, role, walked', same⟩ walked⟩
  obtain ⟨duties', progress, fills⟩ := Json.settles_fields
    (fun key role => ∃ keyword, (keyword, role) ∈ keywords ∧ key = .text keyword) entries orderly
  have placed : Json.FieldsPlaced store fields :=
    Json.fieldsPlaced (fun entry _ => Json.placed entry.2) store orderly.closed
  have serves : ((placeFields fields store).1).Serves (placeFields fields store).2 duties' .schema := by
    refine ⟨fun keyword role walked slot found => ?_, placed.denotes.requiresDeclared requires⟩
    exact fills _ (Fields.mem_of_get? found) role ⟨keyword, walked, rfl⟩
  rw [Json.place_object]
  refine ⟨_, progress.trans (progress.orderly.push placed.within serves), fun role own => ?_⟩
  have schematic : (Slot.node (placeFields fields store).2.size).Schematic
      (Function.update duties' (placeFields fields store).2.size .schema) := by simp
  exact schematic.fills (by rintro rfl; simp [Role.isNode] at own)

/-- A JSON value that passes as what a role holds, and whose nodes require what they declare, is of use in the role. -/
theorem Json.settles (value : Json) : ∀ role : Role, value.wellFormed = true → PassesAs role value →
    (∀ node, IsNode role value node → RequiresDeclared node) → value.Settles (· = role) := by
  induction value using Json.treeInduction with
  | array items ih =>
      intro role formed passes requires store duties orderly
      obtain ⟨isList, each⟩ := passes.array
      have settles : ∀ item ∈ items, item.Settles (· = .schema) := fun item listed =>
        ih item listed .schema ((Json.wellFormed_array items).mp formed item listed) (each item listed)
          fun node isNode => requires node (.item isList listed isNode)
      obtain ⟨duties', progress, schematic⟩ := Json.settles_items settles orderly
      refine ⟨duties', progress, ?_⟩
      rintro _ rfl
      refine Slot.Schematic.fills (Slot.schematic_array.mpr schematic) ?_
      rintro rfl
      simp [Role.isList] at isList
  | object fields ih =>
      intro role formed passes requires
      obtain ⟨-, -, each⟩ := (Json.wellFormed_object fields).mp formed
      rcases passes.object with ⟨isNode, passes⟩ | ⟨rfl, members⟩
      · intro store duties orderly
        have settles : (Json.object fields).Settles (·.isNode = true) := Json.settles_node formed (requires fields (.here isNode)) fun keyword under walked value found =>
          ih _ (Fields.mem_of_get? found) under (each _ (Fields.mem_of_get? found)) (passes.keyword walked found)
            fun node inside => requires node (.keyword isNode walked found inside)
        obtain ⟨duties', progress, fills⟩ := settles orderly
        refine ⟨duties', progress, ?_⟩
        rintro _ rfl
        exact fills _ isNode
      · exact Json.settles_members formed fun entry listed =>
          ih entry listed .schema (each entry listed) (members entry listed) fun node inside =>
            requires node (.member listed inside)
  | scalar value notArray notObject =>
      intro role _ passes _ store duties orderly
      refine ⟨duties, orderly.placeData value, ?_⟩
      rintro _ rfl
      have none : (value.place store).1.addresses = [] := by
        cases value <;> first | rfl | simp [Json.isArray, Json.isObject] at notArray notObject
      refine (Slot.schematic_of_addresses none).fills ?_
      rintro rfl
      simp [passes.isObject] at notObject

namespace Builder

variable {later : Store} {result : Except Failure Nat}

/-- Wrapping a consistent document keeps the order, whether it succeeds or not, and what it gives is a schema. -/
theorem wrap_progress {document : Json} (consistent : Consistent document) (orderly : store.Orderly duties)
    (ran : outcome (wrap document) store = (result, later)) :
    ∃ duties', store.Progress duties later duties' ∧ ∀ root, result = .ok root → duties' root = .schema := by
  cases isObject : document.isObject with
  | false =>
      rw [wrap, isObject, if_neg Bool.false_ne_true, Change.outcome_refuse] at ran
      obtain ⟨rfl, rfl⟩ := Prod.mk.inj ran
      exact ⟨duties, .refl orderly, fun _ given => by cases given⟩
  | true =>
      obtain ⟨duties', progress, fills⟩ := Json.settles document .schema consistent.wellFormed
        (passes_of_isSchema consistent.isSchema) (fun node isNode => consistent.requires node (mem_visitAs_of_isNode isNode))
        orderly
      obtain ⟨address, placed, wrapped⟩ := outcome_wrap orderly.closed isObject
      have schematic := (fills .schema rfl).schematic (by simp)
      rw [placed, Slot.schematic_node] at schematic
      rw [wrapped] at ran
      cases found : firstReference? document with
      | none =>
          rw [found] at ran
          obtain ⟨rfl, rfl⟩ := Prod.mk.inj ran
          refine ⟨duties', progress, fun root given => ?_⟩
          obtain rfl := Except.ok.inj given
          exact schematic
      | some reference =>
          rw [found] at ran
          obtain ⟨rfl, rfl⟩ := Prod.mk.inj ran
          exact ⟨duties', progress, fun _ given => by cases given⟩

/-- What makes a schema keeps the order, whether it succeeds or not. -/
theorem made_progress {factory : Factory} (orderly : store.Orderly duties)
    (given : ∀ operand ∈ factory.schemas, operand.Schematic duties) (ran : outcome factory.run store = (result, later)) :
    ∃ duties', store.Progress duties later duties' ∧ ∀ root, result = .ok root → duties' root = .schema := by
  cases result with
  | ok root =>
      obtain ⟨duties', progress, schema⟩ := factory_progress orderly given ran
      refine ⟨duties', progress, fun other same => ?_⟩
      obtain rfl := Except.ok.inj same
      exact schema
  | error failure =>
      have known : ∀ operand ∈ factory.schemas, Known store.size operand := fun operand listed address same =>
        orderly.inside (by simp [given operand listed address same])
      exact ⟨duties, progress_of_adds orderly (adds_factory factory) (stays_factory known) ran, fun _ given => by cases given⟩

theorem putEach_progress (overlay : Cell) : ∀ {store : Store} {root : Nat}, store.Orderly duties → duties root = .schema →
    overlay.Within store.size → overlay.Plain →
      ∃ last, outcome (overlay.forM fun entry => Change.put root entry.1 entry.2) store = (.ok ⟨⟩, last) ∧
        store.Progress duties last duties := by
  induction overlay with
  | nil => exact fun orderly _ _ _ => ⟨_, rfl, .refl orderly⟩
  | cons entry rest ih =>
      intro store root orderly schema within plain
      obtain ⟨key, slot⟩ := entry
      obtain ⟨here, others⟩ := List.forall_mem_cons.mp within
      obtain ⟨⟨notRequired, unwalked⟩, plain⟩ := List.forall_mem_cons.mp plain
      have put := orderly.put schema (unwalked "properties" .members (by decide)) notRequired here
        fun keyword role walked same => absurd same (unwalked keyword role walked)
      obtain ⟨last, ran, progress⟩ := ih put schema (by rw [Store.size_replace]; exact others) plain
      refine ⟨last, ?_, Store.Progress.trans ⟨put, by simp, fun _ _ => rfl⟩ progress⟩
      exact (outcome_bind_ok (Change.outcome_put root key slot store)).trans ran

/-- Copying a schema with some metadata keeps the order, whether it succeeds or not. -/
theorem clone_progress {address : Nat} {metadata : Operand} (orderly : store.Orderly duties) (schema : duties address = .schema)
    (ran : outcome (clone address metadata) store = (result, later)) :
    ∃ duties', store.Progress duties later duties' ∧ ∀ root, result = .ok root → duties' root = .schema := by
  have took : (∃ failure, outcome (Change.metadata .object "clone" metadata) store = (.error failure, later) ∧
      result = .error failure) ∨ ∃ overlay middle,
      outcome (Change.metadata .object "clone" metadata) store = (.ok overlay, middle) ∧
        outcome (cloneWith address overlay) middle = (result, later) := by
    rw [clone, outcome_bind] at ran
    rcases took : outcome (Change.metadata .object "clone" metadata) store with ⟨failure | overlay, middle⟩
    · rw [took] at ran
      obtain ⟨rfl, rfl⟩ := Prod.mk.inj ran
      exact .inl ⟨failure, rfl, rfl⟩
    · rw [took] at ran
      exact .inr ⟨overlay, middle, rfl, ran⟩
  rcases took with ⟨failure, took, rfl⟩ | ⟨overlay, middle, took, ran⟩
  · have stays : Change.Stays store.size (Change.metadata .object "clone" metadata) Cell.Within :=
      Change.stays_metadata .object "clone" metadata
    exact ⟨duties, progress_of_adds orderly (adds_metadata _ _ _) stays took, fun _ given => by cases given⟩
  · obtain ⟨progress, within, plain⟩ := metadata_ok orderly took
    obtain ⟨duties', copied, schematic⟩ := copy_schematic progress.orderly
      (Slot.schematic_node.mpr (progress.duty orderly (by simp) schema))
    rw [cloneWith, outcome_bind_ok (outcome_copied (.node address) middle)] at ran
    have root := Slot.schematic_node.mp schematic
    obtain ⟨last, puts, put⟩ := putEach_progress overlay copied.orderly root (within.mono copied.size) plain
    have same : outcome (adopt (middle.copyPlace (middle.reach (.node address)) address)) last = (result, later) :=
      (outcome_bind_ok puts).symm.trans ran
    have still := still_adopt (middle.copyPlace (middle.reach (.node address)) address) last
    rw [same] at still
    obtain rfl : later = last := still
    refine ⟨duties', (progress.trans copied).trans put, fun other given => ?_⟩
    subst given
    obtain ⟨rfl, -⟩ := adopt_ok same
    exact root

end Builder

end SchemaAlgebra
