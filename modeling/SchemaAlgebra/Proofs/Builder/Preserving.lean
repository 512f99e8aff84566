import SchemaAlgebra.Proofs.Store.Visiting

/-!
Edits keep a store in order. A successful edit with texts for names, of an orderly schema and with orderly schemas for
arguments, leaves an orderly store in which every object keeps its duty.
-/

namespace SchemaAlgebra

/-- A builder that is given as an argument has a schema. -/
def Operand.Schematic (duties : Nat → Duty) (operand : Operand) : Prop :=
  ∀ root, operand = .builder root → duties root = .schema

namespace Builder

variable {store later : Store} {duties : Nat → Duty} {address : Nat} {members : Fields String Slot}
  {names texts : List String} {operand : Operand}

theorem progress_of_orderly (orderly : later.Orderly duties) (size : store.size = later.size) :
    ∃ duties', store.Progress duties later duties' :=
  ⟨duties, orderly, Nat.le_of_eq size, fun _ _ => rfl⟩

theorem setOptionalNames_progress (orderly : store.Orderly duties) (duty : duties address = .schema)
    (listed : operand.Lists texts) (ran : outcome (setOptionalNames address operand) store = (.ok (), later)) :
    ∃ duties', store.Progress duties later duties' := by
  obtain ⟨members, names, describes⟩ := orderly.describes duty
  obtain rfl := setOptionalNames_ok describes listed ran
  refine progress_of_orderly (orderly.withNames duty describes (describes.distinct.filter _) ?_) (by simp)
  exact fun name member => List.mem_of_mem_filter member

theorem setRequiredNames_progress (orderly : store.Orderly duties) (duty : duties address = .schema)
    (listed : operand.Lists texts) (ran : outcome (setRequiredNames address operand) store = (.ok (), later)) :
    ∃ duties', store.Progress duties later duties' := by
  obtain ⟨members, names, describes⟩ := orderly.describes duty
  obtain ⟨distinct, declared⟩ := orderly.required duty describes
  obtain ⟨present, rfl⟩ := setRequiredNames_ok describes listed ran
  refine progress_of_orderly (orderly.withNames duty describes ?_ fun name member => ?_) (by simp)
  · refine List.nodup_append.mpr ⟨distinct, nodup_eraseDups _, ?_⟩
    rintro name member _ added rfl
    rw [List.mem_eraseDups, List.mem_filter] at added
    simp [member] at added
  · rcases List.mem_append.mp member with member | added
    · exact declared name member
    · rw [List.mem_eraseDups] at added
      exact (Fields.has_iff_mem_keys _ _).mp (present name (List.mem_of_mem_filter added))

theorem pickNames_progress (orderly : store.Orderly duties) (duty : duties address = .schema)
    (describes : store.Describes address members names) (texts : List String) :
    ∃ duties', store.Progress duties ((store.withMembers address (Fields.restrict members texts)).withNames address
      (names.filter (· ∈ texts))) duties' := by
  obtain ⟨distinct, declared⟩ := orderly.required duty describes
  refine ⟨_, orderly.withPicked duty (Fields.nodup_keys_restrict members texts) (fun member listed => ?_)
    (distinct.filter _) fun name listed => ?_⟩
  · exact orderly.member duty describes (member.1, member.2) (Fields.mem_of_get? (Fields.mem_restrict.mp listed).2)
  · obtain ⟨required, chosen⟩ := List.mem_filter.mp listed
    rw [Fields.keys_restrict, List.mem_filter, List.mem_eraseDups, Fields.has_iff_mem_keys]
    exact ⟨by simpa using chosen, declared name required⟩

theorem pickListed_progress (orderly : store.Orderly duties) (duty : duties address = .schema)
    (listed : operand.Lists texts) (ran : outcome (pickListed address operand) store = (.ok (), later)) :
    ∃ duties', store.Progress duties later duties' := by
  obtain ⟨members, names, describes⟩ := orderly.describes duty
  obtain ⟨-, rfl⟩ := pickListed_ok describes listed ran
  exact pickNames_progress orderly duty describes texts

theorem pick_progress (orderly : store.Orderly duties) (duty : duties address = .schema)
    (ran : outcome (pick address (texts.map .string)) store = (.ok (), later)) :
    ∃ duties', store.Progress duties later duties' := by
  obtain ⟨members, names, describes⟩ := orderly.describes duty
  obtain ⟨-, rfl⟩ := pick_ok describes ran
  exact pickNames_progress orderly duty describes texts

theorem omitNames_progress (orderly : store.Orderly duties) (duty : duties address = .schema)
    (listed : operand.Lists texts) (ran : outcome (omitNames address operand) store = (.ok (), later)) :
    ∃ duties', store.Progress duties later duties' := by
  obtain ⟨members, names, describes⟩ := orderly.describes duty
  obtain rfl := omitNames_ok describes listed ran
  exact pickNames_progress orderly duty describes _

theorem rename_progress {isRequired : Bool} {name new : String} (orderly : store.Orderly duties)
    (duty : duties address = .schema)
    (ran : outcome (rename address isRequired (.string name) (.string new)) store = (.ok (), later)) :
    ∃ duties', store.Progress duties later duties' := by
  obtain ⟨members, names, describes⟩ := orderly.describes duty
  obtain ⟨distinct, declared⟩ := orderly.required duty describes
  obtain ⟨free, ⟨-, rfl⟩ | ⟨held, rfl⟩⟩ := rename_ok describes ran
  · exact ⟨duties, .refl orderly⟩
  · have new_missing : new ∉ Fields.keys members := by
      rw [← Fields.has_iff_mem_keys, free]
      exact Bool.false_ne_true
    refine ⟨_, orderly.withPicked duty (Fields.nodup_keys_relabel describes.distinct free) (fun member listed => ?_) ?_
      fun other listed => ?_⟩
    · obtain ⟨original, listed', rfl⟩ := List.mem_map.mp listed
      exact orderly.member duty describes original listed'
    · have kept := distinct.filter (· ≠ name)
      cases isRequired with
      | false => simpa using kept
      | true =>
          refine List.nodup_append.mpr ⟨kept, List.nodup_singleton new, ?_⟩
          rintro other member _ added rfl
          obtain rfl := List.mem_singleton.mp added
          exact new_missing (declared _ (List.mem_of_mem_filter member))
    · rw [Fields.keys_relabel, List.mem_map]
      rcases List.mem_append.mp listed with member | added
      · obtain ⟨member, different⟩ := List.mem_filter.mp member
        exact ⟨other, declared other member, if_neg (by simpa using different)⟩
      · cases isRequired with
        | false => exact absurd added List.not_mem_nil
        | true =>
            obtain rfl := List.mem_singleton.mp added
            exact ⟨name, (Fields.has_iff_mem_keys _ _).mp held, if_pos rfl⟩

/-- Properties that are new are those of an orderly schema. -/
theorem Owns.progress {owning : Store} {place : Nat} (owns : Owns store owning address place members names)
    (orderly : store.Orderly duties) (duty : duties address = .schema)
    (describes : store.Describes address members names) : ∃ duties', store.Progress duties owning duties' := by
  rcases owns.made with rfl | ⟨rfl, rfl⟩
  · exact ⟨duties, .refl orderly⟩
  · obtain ⟨-, declared⟩ := orderly.required duty describes
    exact ⟨_, orderly.withMembers duty describes List.nodup_nil (fun _ listed => absurd listed List.not_mem_nil) declared⟩

theorem addProperty_progress {isRequired : Bool} {name : String} (orderly : store.Orderly duties)
    (duty : duties address = .schema) (given : operand.Schematic duties)
    (ran : outcome (addProperty address isRequired (.string name) operand) store = (.ok (), later)) :
    ∃ duties', store.Progress duties later duties' := by
  obtain ⟨members, names, describes⟩ := orderly.describes duty
  obtain ⟨distinct, declared⟩ := orderly.required duty describes
  obtain ⟨free, root, place, owning, rfl, owns, rfl⟩ := addProperty_ok describes ran
  obtain ⟨duties', owned⟩ := owns.progress orderly duty describes
  have duty' := owned.duty orderly (by simp) duty
  have root' := owned.duty orderly (by simp) (given root rfl)
  have placed := owned.orderly.place duty' owns.found
  have inserted := owned.orderly.withMember placed name (Slot.schematic_node.mpr root')
  refine ⟨duties', owned.trans ?_⟩
  cases isRequired with
  | false => exact ⟨inserted, by simp, fun _ _ => rfl⟩
  | true =>
      have shown := owns.describes.withMember owns.found name (.node root)
      refine ⟨inserted.withNames duty' shown ?_ fun other listed => ?_, by simp, fun _ _ => rfl⟩
      · refine List.nodup_append.mpr ⟨distinct, List.nodup_singleton name, ?_⟩
        rintro other member _ added rfl
        obtain rfl := List.mem_singleton.mp added
        have has := (Fields.has_iff_mem_keys _ _).mpr (declared _ member)
        exact Bool.false_ne_true (free.symm.trans has)
      · rw [Fields.keys_put, free, if_neg Bool.false_ne_true]
        rcases List.mem_append.mp listed with member | added
        · exact List.mem_append_left _ (declared other member)
        · exact List.mem_append_right _ added

theorem addAdditional_progress (orderly : store.Orderly duties) (duty : duties address = .schema)
    (given : operand.Schematic duties) (ran : outcome (addAdditional address operand) store = (.ok (), later)) :
    ∃ duties', store.Progress duties later duties' := by
  obtain ⟨slot, kind, rfl⟩ := addAdditional_ok ran
  have schematic : slot.Schematic duties := by
    rcases kind with rfl | ⟨root, rfl, rfl⟩
    · exact Slot.schematic_of_addresses rfl
    · exact Slot.schematic_node.mpr (given root rfl)
  exact progress_of_orderly (orderly.put duty (by simp) (by simp) (orderly.within schematic) fun _ _ _ _ => schematic)
    (by simp)

theorem plain_nil : Cell.Plain [] :=
  fun _ listed => absurd listed List.not_mem_nil

/-- A copy of a schema is a schema. -/
theorem copy_schematic {slot : Slot} (orderly : store.Orderly duties) (schematic : slot.Schematic duties) :
    ∃ duties', store.Progress duties (store.copy slot).2 duties' ∧ (store.copy slot).1.Schematic duties' := by
  have within := orderly.within schematic
  obtain ⟨duties', copied, same⟩ := orderly.copy within
  refine ⟨duties', copied, schematic.relocate fun address named => same address ?_⟩
  exact (Store.gathered_reach orderly.closed within).begins named

theorem addLike_progress {prior : Option Slot} (texts : List String) :
    ∀ {store : Store} {duties : Nat → Duty}, store.Orderly duties → duties address = .schema →
      (∀ slot ∈ prior, slot.Schematic duties) →
      outcome (addLike address prior (texts.map .string)) store = (.ok (), later) →
        ∃ duties', store.Progress duties later duties' := by
  induction texts with
  | nil =>
      rintro store duties orderly - - ran
      obtain rfl : store = later := congrArg Prod.snd ran
      exact ⟨duties, .refl orderly⟩
  | cons name rest ih =>
      intro store duties orderly duty schematic ran
      obtain ⟨node, given, added, made, adds, ran⟩ := addLike_ok ran
      obtain ⟨duties', grown, node'⟩ : ∃ duties', store.Progress duties given duties' ∧ duties' node = .schema := by
        rcases made with ⟨inner, rfl, copied⟩ | ⟨-, rfl, rfl⟩
        · obtain ⟨duties', grown, copy⟩ := copy_schematic orderly (schematic _ rfl)
          rw [copied] at grown copy
          exact ⟨duties', grown, Slot.schematic_node.mp copy⟩
        · have serves : Cell.Serves store duties [] .schema := plain_nil.isSchema
          exact ⟨_, orderly.push Cell.within_nil serves, Function.update_self ..⟩
      have duty' := grown.duty orderly (by simp) duty
      obtain ⟨duties'', more⟩ := addProperty_progress grown.orderly duty' (by rintro _ ⟨⟩; exact node') adds
      obtain ⟨last, rest⟩ := ih more.orderly (more.duty grown.orderly (by simp) duty')
        (fun slot member => more.schematic grown.orderly (grown.schematic orderly (schematic slot member))) ran
      exact ⟨last, (grown.trans more).trans rest⟩

theorem pickAdditional_progress {additional : Operand} (orderly : store.Orderly duties) (duty : duties address = .schema)
    (listed : operand.Lists texts) (more : additional.isNull = true ∨ ∃ extra, additional.Lists extra)
    (ran : outcome (pickAdditional address operand additional) store = (.ok (), later)) :
    ∃ duties', store.Progress duties later duties' := by
  have walked : ("additionalProperties", Walk.Role.objectOnly) ∈ Walk.keywords := by decide
  have schematic : ∀ slot ∈ Fields.get? (store.cell address) "additionalProperties", slot.Schematic duties :=
    fun slot found => orderly.schematic duty walked (by simp) found
  obtain ⟨kept, picked, named, picks, rest⟩ := pickAdditional_ok ran
  obtain rfl : texts.map .string = kept := Option.some.inj (listed.symm.trans named)
  obtain ⟨duties', progress⟩ := pick_progress orderly duty picks
  have duty' := progress.duty orderly (by simp) duty
  have sets {slot : Slot} (fits : slot.Schematic duties') : ∃ duties'', store.Progress duties
      (picked.replace address (Fields.put (picked.cell address) "additionalProperties" slot)) duties'' :=
    ⟨duties', progress.trans ⟨progress.orderly.put duty' (by simp) (by simp) (progress.orderly.within fits)
      fun _ _ _ _ => fits, by simp, fun _ _ => rfl⟩⟩
  rcases rest with ⟨-, rfl⟩ | ⟨-, -, slot, rfl | found, rfl⟩ | ⟨notNull, extra, listed', -, adds⟩
  · exact sets (Slot.schematic_of_addresses rfl)
  · exact sets (Slot.schematic_of_addresses rfl)
  · exact sets (progress.schematic orderly (schematic slot found))
  · obtain ⟨names, listed''⟩ := more.resolve_left (by simp [notNull])
    obtain rfl : names.map .string = extra := Option.some.inj (listed''.symm.trans listed')
    obtain ⟨last, rest⟩ := addLike_progress names progress.orderly duty'
      (fun slot member => progress.schematic orderly (schematic slot member)) adds
    exact ⟨last, progress.trans rest⟩

end Builder

end SchemaAlgebra
