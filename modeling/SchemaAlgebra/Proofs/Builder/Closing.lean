import SchemaAlgebra.Proofs.Builder.Atomicity
import SchemaAlgebra.Proofs.Builder.Staying

/-!
No call leaves a dangling address. Whatever is put into the store names objects that are there, and nothing
is ever taken out of it, so a closed store stays closed, also through a failure.
-/

namespace SchemaAlgebra

namespace Builder

open Change

variable {bound : Nat}

/-- All slots of a list are below a bound. -/
def AllWithin (bound : Nat) (slots : List Slot) : Prop :=
  ∀ slot ∈ slots, slot.Within bound

theorem AllWithin.mono {more : Nat} {slots : List Slot} (within : AllWithin bound slots) (less : bound ≤ more) :
    AllWithin more slots :=
  fun slot member => (within slot member).mono less

theorem AllWithin.append {first second : List Slot} (within : AllWithin bound first)
    (within' : AllWithin bound second) : AllWithin bound (first ++ second) :=
  List.forall_mem_append.mpr ⟨within, within'⟩

theorem AllWithin.singleton {slot : Slot} (within : slot.Within bound) : AllWithin bound [slot] :=
  List.forall_mem_singleton.mpr within

theorem AllWithin.filter {slots : List Slot} (within : AllWithin bound slots) (test : Slot → Bool) :
    AllWithin bound (slots.filter test) :=
  fun slot member => within slot (List.mem_of_mem_filter member)

theorem stays_items {slot? : Option Slot} (within : ∀ slot ∈ slot?, slot.Within bound) :
    Stays bound (items slot?) AllWithin := by
  unfold items
  split
  · exact stays_pure fun _ _ _ member => absurd member List.not_mem_nil
  · next listed =>
      have each : AllWithin bound listed := Slot.within_array.mp (within _ rfl)
      exact stays_pure fun size less => each.mono less
  · refine stays_pure fun size _ slot member => ?_
    obtain ⟨text, -, rfl⟩ := List.mem_map.mp member
    exact Slot.within_of_addresses rfl
  · refine (looks_cell _).bind_stays fun cell => stays_pure fun size _ slot member => ?_
    obtain ⟨key, -, rfl⟩ := List.mem_map.mp member
    exact key.within_toSlot size
  · exact stays_throw _

theorem stays_member {slot? : Option Slot} (name : Json) (within : ∀ slot ∈ slot?, slot.Within bound) :
    Stays bound (member slot? name) fun size slot => slot.Within size := by
  unfold member
  split
  · refine (stays_cell _).bind fun cell more _ cellWithin => (looks_keyOf name).bind_stays fun key => ?_
    split
    · next found => exact stays_pure fun size less => (cellWithin.get? found).mono less
    · exact stays_throw _
  · next listed =>
      refine (looks_indexIn _ name).bind_stays fun index => stays_pure fun size less => ?_
      have each : AllWithin bound listed := Slot.within_array.mp (within _ rfl)
      rw [List.getD_eq_getElem?_getD]
      cases found : listed[index]? with
      | none => exact Slot.within_of_addresses rfl
      | some slot => exact (each slot (List.mem_of_getElem? found)).mono less
  · exact stays_throw _

theorem stays_properties (address : Nat) :
    Stays bound (properties address) fun size slot? => ∀ slot ∈ slot?, slot.Within size :=
  stays_present? address "properties"

theorem stays_assign (address : Nat) (name : Json) {slot : Slot} (within : slot.Within bound) :
    Stays bound (assign address name slot) anything := by
  unfold assign
  refine (stays_cell address).bind fun cell more less cellWithin => ?_
  have within := within.mono less
  split
  · exact (looks_cell _).bind_stays fun inner => (looks_keyOf name).bind_stays fun key =>
      stays_put _ _ within
  · next listed found =>
      have each := Slot.within_array.mp (cellWithin.get? found)
      refine (looks_indexIn _ name).bind_stays fun index => stays_put _ _ ?_
      refine Slot.within_array.mpr fun item member => ?_
      rcases List.mem_or_eq_of_mem_set member with member | rfl
      · exact each item member
      · exact within
  · exact stays_throw _

theorem stays_required (address : Nat) : Stays bound (required address) AllWithin :=
  (stays_present? address "required").bind fun _ _ _ within => stays_items within

theorem stays_setRequired (address : Nat) {names : List Slot} (within : AllWithin bound names) :
    Stays bound (setRequired address names) anything := by
  unfold setRequired
  split
  · exact stays_drop _ _
  · exact stays_put _ _ (Slot.within_array.mpr within)

theorem stays_others (name : Json) {slots : List Slot} (within : AllWithin bound slots) :
    Stays bound (others name slots) AllWithin := by
  refine (looks_others name slots).same.stays fun store _ enough kept given => ?_
  rw [outcome_others] at given
  obtain rfl := Except.ok.inj (congrArg Prod.fst given)
  exact (within.mono enough).filter _

theorem stays_among (names : List Json) {slots : List Slot} (within : AllWithin bound slots) :
    Stays bound (among names slots) AllWithin := by
  refine (looks_among names slots).same.stays fun store _ enough kept given => ?_
  rw [outcome_among] at given
  obtain rfl := Except.ok.inj (congrArg Prod.fst given)
  exact (within.mono enough).filter _

theorem stays_ownProperties (address : Nat) :
    Stays bound (ownProperties address) fun size slot => slot.Within size := by
  unfold ownProperties
  refine (stays_cell address).bind fun cell more _ cellWithin => ?_
  split
  · next found => exact stays_pure fun size less => (cellWithin.get? found).mono less
  · refine (stays_push Cell.within_nil).bind fun fresh more _ inside => ?_
    refine (stays_put _ _ (Slot.within_node.mpr inside)).bind fun _ more less _ => ?_
    exact stays_pure fun size less' =>
      Slot.within_node.mpr (Nat.lt_of_lt_of_le inside (Nat.le_trans less less'))

/-- A builder that is given as an argument is one whose schema is in the store. -/
def Known (bound : Nat) (operand : Operand) : Prop :=
  ∀ address, operand = .builder address → address < bound

theorem Known.mono {more : Nat} {operand : Operand} (known : Known bound operand) (less : bound ≤ more) :
    Known more operand :=
  fun address same => Nat.lt_of_lt_of_le (known address same) less

theorem stays_insertNew (address : Nat) (name : Json) {schema : Operand} (known : Known bound schema) :
    Stays bound (insertNew address name schema) anything := by
  refine (stays_nodeOf _ known).bind fun node more _ inside => ?_
  refine (stays_ownProperties address).bind fun _ _ less _ => stays_assign _ _ ?_
  exact Slot.within_node.mpr (Nat.lt_of_lt_of_le inside less)

theorem stays_insertFree (address : Nat) (name : Json) {schema : Operand} (known : Known bound schema) :
    Stays bound (insertFree address name schema) anything := by
  refine (looks_properties address).bind_stays fun declared => ?_
  refine (looks_holds declared name).bind_stays fun found => ?_
  split
  · exact (still_refuseTaken address name).bind_stays fun _ => stays_insertNew address name known
  · exact stays_insertNew address name known

theorem stays_insertProperty (address : Nat) (name : Json) {schema : Operand} (known : Known bound schema) :
    Stays bound (insertProperty address name schema) anything := by
  refine (looks_shape address).bind_stays fun face => ?_
  split
  · exact stays_refuse_bind
  · exact stays_insertFree address name known

theorem stays_requireName (address : Nat) (name : Json) : Stays bound (requireName address name) anything := by
  refine (stays_required address).bind fun before _ _ listed => ?_
  refine (stays_place name).bind fun slot _ less within => stays_setRequired _ ?_
  exact (listed.mono less).append (.singleton within)

theorem stays_addProperty (address : Nat) (isRequired : Bool) (name : Json) {schema : Operand}
    (known : Known bound schema) : Stays bound (addProperty address isRequired name schema) anything := by
  refine (stays_insertProperty address name known).bind fun _ _ _ _ => ?_
  split
  · exact stays_requireName address name
  · exact stays_pure fun _ _ => trivial

theorem stays_allowMore (address : Nat) {schema : Operand} (known : Known bound schema) :
    Stays bound (allowMore address schema) anything := by
  refine (looks_cell address).bind_stays fun cell => ?_
  split
  · exact (looks_owner address).bind_stays fun _ => stays_refuse _
  · exact (looks_owner address).bind_stays fun _ => stays_refuse _
  · split
    · exact stays_put _ _ (Slot.within_of_addresses rfl)
    · exact (stays_nodeOf _ known).bind fun node _ _ inside => stays_put _ _ (Slot.within_node.mpr inside)

theorem stays_addAdditional (address : Nat) {schema : Operand} (known : Known bound schema) :
    Stays bound (addAdditional address schema) anything := by
  refine (looks_shape address).bind_stays fun face => ?_
  dsimp only
  split
  · exact stays_refuse_bind
  · exact stays_allowMore address known

theorem stays_requireRenamed (address : Nat) (isRequired : Bool) (name newName : Json) :
    Stays bound (requireRenamed address isRequired name newName) anything := by
  refine (stays_required address).bind fun names _ _ listed => ?_
  refine (stays_others name listed).bind fun kept _ _ listed => ?_
  split
  · refine (stays_place newName).bind fun slot _ less within => stays_setRequired _ ?_
    exact (listed.mono less).append (.singleton within)
  · exact stays_setRequired _ listed

theorem stays_renameHeld (address : Nat) (isRequired : Bool) (name newName : Json) (declared : Option Slot) :
    Stays bound (renameHeld address isRequired name newName declared) anything := by
  have adjust {more : Nat} : Stays more (requireRenamed address isRequired name newName) anything :=
    stays_requireRenamed address isRequired name newName
  refine (looks_holds declared name).bind_stays fun found => ?_
  split
  · refine (looks_membersAt declared).bind_stays fun members => ?_
    dsimp only
    split
    · refine (stays_cell _).bind fun cell _ less within => ?_
      refine (looks_keyOf name).bind_stays fun old => (looks_keyOf newName).bind_stays fun new => ?_
      refine (stays_push within.relabel).bind fun renamed _ less' inside => ?_
      exact (stays_put _ _ (Slot.within_node.mpr inside)).bind fun _ _ _ _ => adjust
    · exact adjust
  · exact stays_pure fun _ _ => trivial

theorem stays_rename (address : Nat) (isRequired : Bool) (name newName : Json) :
    Stays bound (rename address isRequired name newName) anything := by
  have write (declared : Option Slot) : Stays bound (renameHeld address isRequired name newName declared) anything :=
    stays_renameHeld address isRequired name newName declared
  refine (still_requireSimple address _).bind_stays fun _ => ?_
  refine (looks_properties address).bind_stays fun declared => ?_
  refine (looks_holds declared newName).bind_stays fun taken => ?_
  dsimp only
  split
  · exact (still_refuseTaken address newName).bind_stays fun _ => write declared
  · exact write declared

theorem stays_selected {declared : Option Slot} (within : ∀ slot ∈ declared, slot.Within bound)
    (names : List Json) {picked : Cell} (before : picked.Within bound) :
    Stays bound (selected declared names picked) Cell.Within := by
  induction names generalizing bound picked with
  | nil => exact stays_pure fun size less => before.mono less
  | cons name rest ih =>
      rw [selected]
      refine (stays_member name within).bind fun slot more less inside => ?_
      refine (looks_keyOf name).bind_stays fun key => ih (fun other member => ?_) ?_
      · exact (within other member).mono less
      · exact (before.mono less).put inside

theorem stays_pickNames (address : Nat) (names : List Json) : Stays bound (pickNames address names) anything := by
  refine (stays_properties address).bind fun declared _ _ within => ?_
  refine (still_requirePicked address declared names).bind_stays fun _ => ?_
  refine (stays_selected within names Cell.within_nil).bind fun picked _ _ within => ?_
  refine (stays_push within).bind fun members _ _ inside => ?_
  refine (stays_put _ _ (Slot.within_node.mpr inside)).bind fun _ _ _ _ => ?_
  refine (looks_cell address).bind_stays fun cell => ?_
  split
  · exact (stays_required address).bind fun names' _ _ listed =>
      (stays_among names listed).bind fun kept _ _ listed => stays_setRequired _ listed
  · exact stays_pure fun _ _ => trivial

theorem stays_pick (address : Nat) (names : List Json) : Stays bound (pick address names) anything :=
  (still_requirePickable address).bind_stays fun _ => stays_pickNames address names

theorem stays_pickListed (address : Nat) (names : Operand) : Stays bound (pickListed address names) anything :=
  (still_requirePickable address).bind_stays fun _ =>
    (looks_names names).bind_stays fun listed => stays_pickNames address listed

theorem stays_omitNames (address : Nat) (names : Operand) : Stays bound (omitNames address names) anything := by
  refine (still_requireSimple address _).bind_stays fun _ => ?_
  refine (looks_names names).bind_stays fun listed => ?_
  refine (looks_mapM looks_keyOf listed).bind_stays fun omitted => ?_
  refine (looks_properties address).bind_stays fun declared => ?_
  refine (looks_items declared).bind_stays fun slots => ?_
  exact (looks_keysOf slots).bind_stays fun keys => stays_pick address _

theorem stays_copied {slot : Slot} (within : slot.Within bound) :
    Stays bound (copied slot) fun size copy => copy.Within size := by
  intro store closed enough
  have within := within.mono enough
  rw [outcome_copied]
  refine ⟨Store.closed_copy closed within, (store.copy_extends slot).size, fun copy given => ?_⟩
  obtain rfl : (store.copy slot).1 = copy := by simpa using given
  exact Store.copy_within closed within

theorem stays_adopt {address : Nat} (inside : address < bound) :
    Stays bound (adopt address) fun size root => root < size := by
  refine (still_adopt address).stays fun store _ enough root given => ?_
  rw [outcome_adopt] at given
  split at given
  · cases given
  · split at given
    · cases given
    · obtain rfl := Except.ok.inj (congrArg Prod.fst given)
      exact Nat.lt_of_lt_of_le inside enough

theorem stays_addLike (address : Nat) {prior : Option Slot} (within : ∀ slot ∈ prior, slot.Within bound)
    (names : List Json) : Stays bound (addLike address prior names) anything := by
  induction names generalizing bound with
  | nil => exact stays_pure fun _ _ => trivial
  | cons name rest ih =>
      have add (node more : Nat) (less : bound ≤ more) (inside : node < more) :
          Stays more (adoptLike address prior name rest node) anything := by
        refine (stays_adopt inside).bind fun root _ less' inside' => ?_
        refine (stays_addProperty address true name ?_).bind fun _ _ less'' _ => ih fun slot member => ?_
        · rintro other same
          cases same
          exact inside'
        · exact (within slot member).mono (Nat.le_trans less (Nat.le_trans less' less''))
      rw [addLike.eq_def]
      dsimp only
      split
      · next inner =>
          refine (stays_copied (within _ rfl)).bind fun copy _ less inside => ?_
          split
          · exact add _ _ less (Slot.within_node.mp inside)
          · exact stays_throw _
      · exact (stays_push Cell.within_nil).bind fun node _ less inside => add node _ less inside

theorem stays_pickKept (address : Nat) (kept : List Json) (additional : Operand) (extra : List Json) :
    Stays bound (pickKept address kept additional extra) anything := by
  refine (stays_cell address).bind fun cell _ _ within => ?_
  refine (stays_pick address kept).bind fun _ _ less _ => ?_
  have within := within.mono less
  split
  · exact stays_put _ _ (Slot.within_of_addresses rfl)
  · split
    · split
      · exact stays_put _ _ (Slot.within_of_addresses rfl)
      · exact stays_put _ _ (Slot.within_of_addresses rfl)
      · next found => exact stays_put _ _ (within.get? found)
    · exact stays_addLike address (fun slot found => within.get? found) extra

theorem stays_pickAdditional (address : Nat) (names additional : Operand) :
    Stays bound (pickAdditional address names additional) anything := by
  refine (looks_shape address).bind_stays fun face => ?_
  dsimp only
  split
  · exact stays_refuse_bind
  · refine (looks_names names).bind_stays fun kept => ?_
    have keep (extra : List Json) : Stays bound (pickKept address kept additional extra) anything :=
      stays_pickKept address kept additional extra
    have distinct (extra : List Json) := (still_requireDistinct kept extra).bind_stays fun _ => keep extra
    exact stays_ite ((looks_pure []).bind_stays distinct) ((looks_names additional).bind_stays distinct)

theorem stays_offer (address : Nat) {alternative : Nat} (inside : alternative < bound) (names : List Json) :
    Stays bound (offer address alternative names) anything := by
  induction names generalizing bound with
  | nil => exact stays_pure fun _ _ => trivial
  | cons name rest ih =>
      rw [offer]
      refine (stays_properties address).bind fun declared _ less within => ?_
      refine (stays_member name within).bind fun current _ less' within => ?_
      have inside := Nat.lt_of_lt_of_le inside (Nat.le_trans less less')
      refine (stays_copied (Slot.within_node.mpr inside)).bind fun other _ less within' => ?_
      refine (stays_push (List.forall_mem_singleton.mpr (Slot.within_array.mpr ?_))).bind
        fun choice _ less' inside' => ?_
      · exact List.forall_mem_cons.mpr ⟨within.mono less, List.forall_mem_singleton.mpr within'⟩
      · refine (stays_assign _ _ (Slot.within_node.mpr inside')).bind fun _ _ less'' _ => ih ?_
        exact Nat.lt_of_lt_of_le inside (Nat.le_trans less (Nat.le_trans less' less''))

theorem stays_transform (address : Nat) {schema : Operand} (known : Known bound schema) (names : Operand) :
    Stays bound (transform address schema names) anything := by
  refine (still_requireSimple address _).bind_stays fun _ => ?_
  refine (looks_names names).bind_stays fun chosen => ?_
  refine (still_requireExisting address _ chosen).bind_stays fun _ => ?_
  refine (stays_nodeOf _ known).bind fun alternative _ _ inside => ?_
  exact stays_offer address inside chosen

theorem stays_offerArrays (address : Nat) (names : List Json) :
    Stays bound (offerArrays address names) anything := by
  induction names generalizing bound with
  | nil => exact stays_pure fun _ _ => trivial
  | cons name rest ih =>
      rw [offerArrays]
      refine (stays_properties address).bind fun declared _ _ within => ?_
      refine (stays_member name within).bind fun current _ _ within => ?_
      refine (stays_copied within).bind fun inner _ less within' => ?_
      have listWithin : Cell.Within _ [(Key.text "type", .string "array"), (Key.text "items", inner)] :=
        List.forall_mem_cons.mpr ⟨Slot.within_of_addresses rfl, List.forall_mem_singleton.mpr within'⟩
      refine (stays_push listWithin).bind fun list _ less' inside => ?_
      refine (stays_push (List.forall_mem_singleton.mpr (Slot.within_array.mpr ?_))).bind
        fun choice _ _ inside' => ?_
      · refine List.forall_mem_cons.mpr ⟨within.mono (Nat.le_trans less less'), ?_⟩
        exact List.forall_mem_singleton.mpr (Slot.within_node.mpr inside)
      · exact (stays_assign _ _ (Slot.within_node.mpr inside')).bind fun _ _ _ _ => ih

theorem stays_offerExisting (address : Nat) (chosen : List Json) : Stays bound (offerExisting address chosen) anything :=
  (still_requireExisting address _ chosen).bind_stays fun _ => stays_offerArrays address chosen

theorem stays_transformToArray (address : Nat) (names : Operand) :
    Stays bound (transformToArray address names) anything := by
  refine (still_requireSimple address _).bind_stays fun _ => ?_
  split
  · refine (looks_properties address).bind_stays fun declared => ?_
    refine (looks_items declared).bind_stays fun slots => ?_
    exact (looks_values slots).bind_stays (stays_offerExisting address)
  · exact (looks_names names).bind_stays (stays_offerExisting address)

theorem stays_offered {other : Operand} (known : Known bound other) :
    Stays bound (offered other) fun size given =>
      (∀ slot ∈ given.1, slot.Within size) ∧ AllWithin size given.2 := by
  refine (stays_nodeOf _ known).bind fun node _ _ _ => ?_
  refine (stays_properties node).bind fun theirs size _ within => ?_
  have names (theirs : Option Slot) (more : Nat) (within : ∀ slot ∈ theirs, slot.Within more) :
      Stays more (do return (theirs, ← required node)) fun size given =>
        (∀ slot ∈ given.1, slot.Within size) ∧ AllWithin size given.2 := by
    refine (stays_required node).bind fun listed _ less listedWithin => stays_pure fun size less' => ?_
    refine ⟨fun slot member => (within slot member).mono (Nat.le_trans less less'), ?_⟩
    exact listedWithin.mono less'
  split
  · next slot =>
      have copies : Stays size (some <$> copied slot) fun size copy? => ∀ copy ∈ copy?, copy.Within size := by
        refine (stays_copied (within slot rfl)).bind fun copy _ _ inside => stays_pure fun size less => ?_
        rintro _ ⟨⟩
        exact inside.mono less
      exact copies.bind fun theirs more _ within => names theirs more within
  · exact (stays_pure fun _ _ _ => nofun).bind fun theirs more _ within => names theirs more within

theorem stays_offeredMembers {theirs : Option Slot} : Stays bound (offeredMembers theirs) Cell.Within := by
  refine (looks_membersAt theirs).bind_stays fun members => ?_
  split
  · exact stays_cell _
  · exact stays_pure fun _ _ => Cell.within_nil

theorem stays_listed (name : Key) {slots : List Slot} (within : AllWithin bound slots) :
    Stays bound (listed name slots) AllWithin := by
  refine (looks_lists slots name.toJson).bind_stays fun found => ?_
  split
  · exact stays_pure fun _ less => within.mono less
  · exact stays_pure fun _ less => (within.mono less).append (.singleton (name.within_toSlot _))

theorem stays_mergeMembers (address : Nat) (theirs : List Slot) {names : List Slot} {members : Cell}
    (within : AllWithin bound names) (membersWithin : members.Within bound) :
    Stays bound (mergeMembers address theirs names members) AllWithin := by
  induction members generalizing bound names with
  | nil => exact stays_pure fun _ less => within.mono less
  | cons entry rest ih =>
      obtain ⟨key, slot⟩ := entry
      obtain ⟨slotWithin, restWithin⟩ := List.forall_mem_cons.mp membersWithin
      rw [mergeMembers]
      refine (stays_ownProperties address).bind fun mine _ less mineWithin => ?_
      refine (looks_holds (some mine) key.toJson).bind_stays fun found => ?_
      have slotWithin := slotWithin.mono less
      have restWithin := Cell.Within.mono restWithin less
      have within := within.mono less
      split
      · have declared : ∀ slot ∈ some mine, slot.Within _ := fun _ same => Option.some.inj same ▸ mineWithin
        refine (stays_member key.toJson declared).bind fun current _ less' currentWithin => ?_
        refine (stays_push (List.forall_mem_singleton.mpr (Slot.within_array.mpr ?_))).bind
          fun choice _ less'' inside => ?_
        · exact List.forall_mem_cons.mpr ⟨currentWithin, List.forall_mem_singleton.mpr (slotWithin.mono less')⟩
        · refine (stays_assign _ _ (Slot.within_node.mpr inside)).bind fun _ _ more _ => ?_
          have all := Nat.le_trans less' (Nat.le_trans less'' more)
          refine (stays_listed key (within.mono all)).bind fun _ _ less names => ih names ?_
          exact Cell.Within.mono restWithin (Nat.le_trans all less)
      · refine (stays_assign _ _ slotWithin).bind fun _ _ less' _ => ?_
        refine (looks_lists theirs key.toJson).bind_stays fun isRequired => ih ?_ (Cell.Within.mono restWithin less')
        split
        · exact (within.mono less').append (.singleton (key.within_toSlot _))
        · exact within.mono less'

theorem stays_eraseFirst (name : Json) {slots : List Slot} (within : AllWithin bound slots) :
    Stays bound (eraseFirst name slots) AllWithin := by
  induction slots generalizing bound with
  | nil => exact stays_pure fun _ less => within.mono less
  | cons slot rest ih =>
      obtain ⟨slotWithin, restWithin⟩ := List.forall_mem_cons.mp within
      rw [eraseFirst]
      refine (looks_agrees slot name).bind_stays fun found => ?_
      split
      · exact stays_pure fun _ less => AllWithin.mono restWithin less
      · refine (ih restWithin).bind fun kept _ less keptWithin => stays_pure fun _ less' => ?_
        refine List.forall_mem_cons.mpr ⟨slotWithin.mono (Nat.le_trans less less'), ?_⟩
        exact AllWithin.mono keptWithin less'

theorem stays_overwriteMembers (address : Nat) (theirs : List Slot) {names : List Slot} {members : Cell}
    (within : AllWithin bound names) (membersWithin : members.Within bound) :
    Stays bound (overwriteMembers address theirs names members) AllWithin := by
  induction members generalizing bound names with
  | nil => exact stays_pure fun _ less => within.mono less
  | cons entry rest ih =>
      obtain ⟨key, slot⟩ := entry
      obtain ⟨slotWithin, restWithin⟩ := List.forall_mem_cons.mp membersWithin
      rw [overwriteMembers]
      refine (stays_assign _ _ slotWithin).bind fun _ _ less _ => ?_
      refine (looks_lists theirs key.toJson).bind_stays fun isRequired => ?_
      have within := within.mono less
      split
      · exact (stays_listed key within).bind fun _ _ less' names =>
          ih names (Cell.Within.mono restWithin (Nat.le_trans less less'))
      · exact (stays_eraseFirst key.toJson within).bind fun _ _ less' names =>
          ih names (Cell.Within.mono restWithin (Nat.le_trans less less'))

/-- What `merge` and `overwrite` have in common: the properties of the other schema are taken in one after the
other, and then the names that are required are set. -/
theorem stays_takeIn {address : Nat} {operation : String} {other : Operand} (known : Known bound other)
    {combine : List Slot → List Slot → Cell → Change (List Slot)}
    (takes : ∀ (more : Nat) theirs names members, AllWithin more names → members.Within more →
      Stays more (combine theirs names members) AllWithin) : Stays bound (do
      requireSimple address operation
      let (theirs, theirRequired) ← offered other
      let _ ← ownProperties address
      let before ← required address
      setRequired address (← combine theirRequired before (← offeredMembers theirs))) anything := by
  refine (still_requireSimple address operation).bind_stays fun _ => ?_
  refine (stays_offered known).bind fun theirs _ _ _ => ?_
  refine (stays_ownProperties address).bind fun _ _ _ _ => ?_
  refine (stays_required address).bind fun before _ _ within => ?_
  refine stays_offeredMembers.bind fun members _ less membersWithin => ?_
  refine (takes _ _ before members (within.mono less) membersWithin).bind fun names _ _ namesWithin => ?_
  exact stays_setRequired address namesWithin

theorem stays_merge (address : Nat) {other : Operand} (known : Known bound other) :
    Stays bound (merge address other) anything :=
  stays_takeIn known fun _ theirs _ _ within membersWithin =>
    stays_mergeMembers address theirs within membersWithin

theorem stays_overwrite (address : Nat) {other : Operand} (known : Known bound other) :
    Stays bound (overwrite address other) anything :=
  stays_takeIn known fun _ theirs _ _ within membersWithin =>
    stays_overwriteMembers address theirs within membersWithin

theorem within_toSlots (keys : List Key) : AllWithin bound (keys.map Key.toSlot) := by
  intro slot member
  obtain ⟨key, -, rfl⟩ := List.mem_map.mp member
  exact key.within_toSlot bound

theorem stays_setOptionalNames (address : Nat) (names : Operand) :
    Stays bound (setOptionalNames address names) anything := by
  refine (still_requireSimple address _).bind_stays fun _ => ?_
  refine (looks_names names).bind_stays fun listed => ?_
  refine (looks_mapM looks_keyOf listed).bind_stays fun optional => ?_
  refine (looks_properties address).bind_stays fun declared => ?_
  refine (looks_items declared).bind_stays fun slots => ?_
  exact (looks_keysOf slots).bind_stays fun keys => stays_setRequired address (within_toSlots _)

theorem stays_addNames (names : List Json) {slots : List Slot} (within : AllWithin bound slots) :
    Stays bound (addNames names slots) AllWithin := by
  induction names generalizing bound slots with
  | nil => exact stays_pure fun _ less => within.mono less
  | cons name rest ih =>
      rw [addNames]
      refine (looks_lists slots name).bind_stays fun found => ?_
      split
      · exact ih within
      · refine (stays_place name).bind fun slot _ less slotWithin => ih ?_
        exact (within.mono less).append (.singleton slotWithin)

theorem stays_setRequiredNames (address : Nat) (names : Operand) :
    Stays bound (setRequiredNames address names) anything := by
  refine (still_requireSimple address _).bind_stays fun _ => ?_
  refine (looks_names names).bind_stays fun chosen => ?_
  refine (still_requireExisting address _ chosen).bind_stays fun _ => ?_
  refine (stays_required address).bind fun before _ _ within => ?_
  exact (stays_addNames chosen within).bind fun _ _ _ listed => stays_setRequired address listed

theorem stays_deepOptionals (address : Nat) : Stays bound (deepOptionals address) anything := by
  refine looks_get.bind_stays fun store => ?_
  refine (stays_forM fun node _ => stays_drop node "required").bind fun _ _ _ _ => ?_
  split
  · exact stays_pure fun _ _ => trivial
  · exact stays_throw _

theorem stays_make {cell : Cell} (within : cell.Within bound) :
    Stays bound (make cell) fun size root => root < size :=
  (stays_push within).bind fun _ _ _ inside => stays_adopt inside

theorem stays_makeScalar (type : ScalarType) (metadata : Operand) :
    Stays bound (makeScalar type metadata) fun size root => root < size :=
  (stays_metadata _ _ metadata).bind fun _ _ _ within =>
    stays_make (within.put (Slot.within_of_addresses rfl))

theorem stays_makeArray {items : Operand} (known : Known bound items) (metadata : Operand) :
    Stays bound (makeArray items metadata) fun size root => root < size := by
  refine (stays_metadata _ _ metadata).bind fun cell _ less within => ?_
  refine (stays_nodeOf _ (known.mono less)).bind fun node _ less' inside => stays_make ?_
  exact ((within.mono less').put (Slot.within_of_addresses rfl)).put (Slot.within_node.mpr inside)

end Builder

/-- The arguments of a factory that may be builders. -/
def Factory.schemas : Factory → List Operand
  | .object _ | .scalar _ _ | .enumeration _ _ | .stringArray _ => []
  | .array items _ => [items]
  | .combine _ first second => [first, second]
  | .negation schema => [schema]

/-- The arguments of an edit that may be builders. -/
def Edit.schemas : Edit → List Operand
  | .add _ _ schema | .addAdditional schema | .transform schema _ | .merge schema | .overwrite schema => [schema]
  | .addMade _ _ factory => factory.schemas
  | .setOptional _ | .setRequired _ | .toOptionals | .toDeepOptionals | .rename _ _ _ | .pick _
  | .pickAdditional _ _ | .omit _ | .transformToArray _ => []

namespace Builder

open Change

variable {bound : Nat}

theorem stays_factory {factory : Factory} (known : ∀ operand ∈ factory.schemas, Known bound operand) :
    Stays bound factory.run fun size root => root < size := by
  cases factory with
  | object metadata =>
      refine (stays_metadata _ _ metadata).bind fun cell _ _ within => stays_make ?_
      exact (within.put (Slot.within_of_addresses rfl)).put (Slot.within_of_addresses rfl)
  | scalar type metadata => exact stays_makeScalar type metadata
  | enumeration values metadata =>
      cases values with
      | value json =>
          cases json with
          | array values =>
              refine (stays_metadata _ _ metadata).bind fun cell _ _ within => ?_
              refine (stays_place (.array values)).bind fun slot _ less slotWithin => stays_make ?_
              exact ((within.mono less).put (Slot.within_of_addresses rfl)).put slotWithin
          | _ => exact stays_refuse _
      | _ => exact stays_refuse _
  | array items metadata => exact stays_makeArray (known items (by simp [Factory.schemas])) metadata
  | stringArray metadata =>
      refine (stays_makeScalar .string _).bind fun items _ _ inside => stays_makeArray ?_ metadata
      rintro address ⟨⟩
      exact inside
  | combine combinator first second =>
      refine (stays_nodeOf _ (known first (by simp [Factory.schemas]))).bind fun left _ less inside => ?_
      refine (stays_nodeOf _ ((known second (by simp [Factory.schemas])).mono less)).bind
        fun right _ less inside' => stays_make ?_
      refine List.forall_mem_singleton.mpr (Slot.within_array.mpr (List.forall_mem_cons.mpr ⟨?_, ?_⟩))
      · exact Slot.within_node.mpr (Nat.lt_of_lt_of_le inside less)
      · exact List.forall_mem_singleton.mpr (Slot.within_node.mpr inside')
  | negation schema =>
      refine (stays_nodeOf _ (known schema (by simp [Factory.schemas]))).bind fun node _ _ inside => stays_make ?_
      exact List.forall_mem_singleton.mpr (Slot.within_node.mpr inside)

theorem stays_edit (address : Nat) {edit : Edit} (known : ∀ operand ∈ edit.schemas, Known bound operand) :
    Stays bound (edit.run address) anything := by
  cases edit with
  | setOptional names => exact stays_setOptionalNames address names
  | setRequired names => exact stays_setRequiredNames address names
  | toOptionals => exact stays_drop address _
  | toDeepOptionals => exact stays_deepOptionals address
  | add required name schema => exact stays_addProperty address required name (known schema List.mem_cons_self)
  | addMade required name factory =>
      refine (stays_factory known).bind fun root _ _ inside => stays_addProperty address required name ?_
      rintro other ⟨⟩
      exact inside
  | addAdditional schema => exact stays_addAdditional address (known schema List.mem_cons_self)
  | rename required name newName => exact stays_rename address required name newName
  | pick names => exact stays_pickListed address names
  | pickAdditional names additional => exact stays_pickAdditional address names additional
  | «omit» names => exact stays_omitNames address names
  | transform schema names => exact stays_transform address (known schema List.mem_cons_self) names
  | transformToArray names => exact stays_transformToArray address names
  | merge other => exact stays_merge address (known other List.mem_cons_self)
  | overwrite other => exact stays_overwrite address (known other List.mem_cons_self)

theorem stays_wrap (document : Json) : Stays bound (wrap document) fun size root => root < size := by
  unfold wrap
  split
  · refine (stays_place document).bind fun slot _ _ within => ?_
    split
    · exact stays_adopt (Slot.within_node.mp within)
    · exact stays_refuse _
  · exact stays_refuse _

theorem stays_cloneWith {address : Nat} (inside : address < bound) {overlay : Cell} (within : overlay.Within bound) :
    Stays bound (cloneWith address overlay) fun size root => root < size := by
  refine (stays_copied (Slot.within_node.mpr inside)).bind fun slot more less slotWithin => ?_
  split
  · next root =>
      have each : ∀ entry ∈ overlay, Stays more (Change.put root entry.1 entry.2) anything :=
        fun entry member => stays_put _ _ ((within entry member).mono less)
      refine (stays_forM each).bind fun _ _ less' _ => stays_adopt ?_
      exact Nat.lt_of_lt_of_le (Slot.within_node.mp slotWithin) less'
  · exact stays_adopt (Nat.lt_of_lt_of_le inside less)

theorem stays_clone {address : Nat} (inside : address < bound) (metadata : Operand) :
    Stays bound (clone address metadata) fun size root => root < size :=
  (stays_metadata _ _ metadata).bind fun _ _ less within => stays_cloneWith (Nat.lt_of_lt_of_le inside less) within

end Builder

end SchemaAlgebra
