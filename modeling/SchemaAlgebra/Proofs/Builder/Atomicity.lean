import SchemaAlgebra.Builder.Edit
import SchemaAlgebra.Builder.Factory
import SchemaAlgebra.Proofs.Builder.Staying
import SchemaAlgebra.Proofs.Store.Copying

/-!
Stages of edits. An edit looks and refuses first and goes on then. What some of them go on with has a name here, so that
each property of it is proved once and is at hand wherever the edit branches.
-/

namespace SchemaAlgebra.Builder

/-- Give a schema a property under a free name. -/
def insertNew (address : Nat) (name : Json) (schema : Operand) : Change Unit := do
  let node ← Change.nodeOf "add_property" schema
  let _ ← ownProperties address
  assign address name (.node node)

/-- Give an object schema a property, if its name is free. -/
def insertFree (address : Nat) (name : Json) (schema : Operand) : Change Unit := do
  if ← holds (← properties address) name then refuseTaken address name
  insertNew address name schema

/-- Require one more name. -/
def requireName (address : Nat) (name : Json) : Change Unit := do
  let before ← required address
  setRequired address (before ++ [← Change.place name])

/-- Allow undeclared properties of an object schema, if that says nothing of them. -/
def allowMore (address : Nat) (schema : Operand) : Change Unit := do
  match Fields.get? (← Change.cell address) "additionalProperties" with
  | some (.bool true) | some (.node _) =>
      Change.refuse (.additionalAlreadySet (← Change.owner address))
  | _ =>
      if schema.isNull then Change.put address "additionalProperties" (.bool true)
      else
        let node ← Change.nodeOf "add_additional_properties" schema
        Change.put address "additionalProperties" (.node node)

/-- Require a new name, or none, in the place of an old one. -/
def requireRenamed (address : Nat) (isRequired : Bool) (name newName : Json) : Change Unit := do
  let kept ← others name (← required address)
  if isRequired then setRequired address (kept ++ [← Change.place newName])
  else setRequired address kept

/-- Rename a property, if it is there, to a free name. -/
def renameHeld (address : Nat) (isRequired : Bool) (name newName : Json) (declared : Option Slot) : Change Unit := do
  if ← holds declared name then
    match ← membersAt declared with
    | some members =>
        let cell ← Change.cell members
        let old := spelled cell (← Change.keyOf name)
        let renamed ← Change.push (Fields.relabel cell old (← Change.keyOf newName))
        Change.put address "properties" (.node renamed)
    | none => pure ()
    requireRenamed address isRequired name newName

/-- Make an object the schema of one more required property, and go on to further names. -/
def adoptLike (address : Nat) (prior : Option Slot) (name : Json) (rest : List Json) (node : Nat) : Change Unit := do
  addProperty address true name (.builder (← adopt node))
  addLike address prior rest

/-- Pick some properties and allow more. -/
def pickKept (address : Nat) (kept : List Json) (additional : Operand) (extra : List Json) : Change Unit := do
  let prior := Fields.get? (← Change.cell address) "additionalProperties"
  pick address kept
  if additional.isNull then Change.put address "additionalProperties" (.bool false)
  else if extra.isEmpty then
    match prior with
    | none | some .null => Change.put address "additionalProperties" (.bool true)
    | some slot => Change.put address "additionalProperties" slot
  else addLike address prior extra

/-- Offer lists for properties, if they are there. -/
def offerExisting (address : Nat) (chosen : List Json) : Change Unit := do
  requireExisting address "transform_properties_to_array" chosen
  offerArrays address chosen

/-- Make a copy of a schema and set keywords of it. -/
def cloneWith (address : Nat) (overlay : Cell) : Change Nat := do
  match ← copied (.node address) with
  | .node root => do
      overlay.forM fun entry => Change.put root entry.1 entry.2
      adopt root
  | _ => adopt address

end SchemaAlgebra.Builder

/-!
Edits are atomic. Each edit looks at the schema and refuses first and writes then, so that a refusal leaves
every object as it is. Picking with additional properties is the exception: it makes a builder for each of
them after it has picked.
-/

namespace SchemaAlgebra

open Change

theorem Change.looks_keyOf (name : Json) : Looks (Change.keyOf name) := by
  unfold Change.keyOf
  split
  · exact looks_pure _
  · exact looks_unusable

theorem Change.looks_agrees (slot : Slot) (value : Json) : Looks (Change.agrees slot value) :=
  looks_get.bind fun _ => looks_pure _

theorem Change.looks_lists (slots : List Slot) (value : Json) : Looks (Change.lists slots value) :=
  looks_anyM (fun slot => looks_agrees slot value) slots

theorem Change.looks_names (operand : Operand) : Looks (Change.names operand) := by
  unfold Change.names
  split
  · exact looks_pure _
  · exact looks_unusable

theorem Change.looks_shown (name : Json) : Looks (Change.shown name) := by
  unfold Change.shown
  split
  · exact looks_pure _
  · exact looks_throw fun _ => by simp

theorem Change.looks_owner (address : Nat) : Looks (Change.owner address) := by
  unfold Change.owner
  refine (looks_present? address "title").bind fun title => ?_
  split
  · refine looks_get.bind fun store => ?_
    split
    · exact looks_pure _
    · exact looks_throw fun _ => by simp
  · exact looks_pure _

theorem Change.still_nodeOf (operation : String) (operand : Operand) :
    Still (Change.nodeOf operation operand) := by
  unfold Change.nodeOf
  split
  · exact (looks_pure _).same
  · exact still_refuse _

theorem Change.adds_place (value : Json) : Adds (Change.place value) :=
  value.place_extends

theorem Change.adds_placeFields (fields : List (Key × Json)) : Adds (Change.placeFields fields) :=
  Json.placeFields_extends fields

namespace Builder

theorem looks_items (slot? : Option Slot) : Looks (items slot?) := by
  unfold items
  split
  · exact looks_pure _
  · exact looks_pure _
  · exact looks_pure _
  · exact (looks_cell _).bind fun _ => looks_pure _
  · exact looks_unusable

theorem looks_holds (slot? : Option Slot) (name : Json) : Looks (holds slot? name) := by
  unfold holds
  split
  · exact (looks_keyOf name).bind fun _ => looks_pure _
  · exact looks_lists _ name
  · split
    · exact looks_pure _
    · exact looks_unusable
  · exact (looks_cell _).bind fun _ => (looks_keyOf name).bind fun _ => looks_pure _
  · exact looks_unusable

theorem looks_indexIn (count : Nat) (name : Json) : Looks (indexIn count name) := by
  have bounded : ∀ index : Int, Looks
      (if 0 ≤ index ∧ index < count then pure index.toNat else throw .outOfRange : Change Nat) := by
    intro index
    split
    · exact looks_pure _
    · exact looks_throw fun _ => by simp
  unfold indexIn
  split
  · exact (looks_pure _).bind fun _ => bounded _
  · exact (looks_pure _).bind fun _ => bounded _
  · exact looks_unusable.bind fun _ => bounded _

theorem looks_member (slot? : Option Slot) (name : Json) : Looks (member slot? name) := by
  unfold member
  split
  · refine (looks_cell _).bind fun cell => (looks_keyOf name).bind fun key => ?_
    split
    · exact looks_pure _
    · exact looks_unusable
  · exact (looks_indexIn _ name).bind fun _ => looks_pure _
  · exact looks_unusable

theorem looks_properties (address : Nat) : Looks (properties address) :=
  looks_present? address "properties"

theorem unrefusing_assign (address : Nat) (name : Json) (slot : Slot) :
    Unrefusing (assign address name slot) := by
  unfold assign
  refine (looks_cell address).unrefusing.bind fun cell => ?_
  split
  · exact (looks_cell _).unrefusing.bind fun _ =>
      (looks_keyOf name).unrefusing.bind fun _ => unrefusing_put _ _ _
  · exact (looks_indexIn _ name).unrefusing.bind fun _ => unrefusing_put _ _ _
  · exact looks_unusable.unrefusing

theorem looks_required (address : Nat) : Looks (required address) :=
  (looks_present? address "required").bind looks_items

theorem unrefusing_setRequired (address : Nat) (names : List Slot) :
    Unrefusing (setRequired address names) := by
  unfold setRequired
  split
  · exact unrefusing_drop _ _
  · exact unrefusing_put _ _ _

theorem looks_shape (address : Nat) : Looks (shape address) :=
  (looks_cell address).bind fun _ => looks_pure _

theorem still_requireSimple (address : Nat) (operation : String) : Still (requireSimple address operation) := by
  unfold requireSimple
  refine (looks_shape address).bind_still fun face => ?_
  split
  · exact (looks_pure _).same
  · exact still_refuse _

theorem still_requireExisting (address : Nat) (operation : String) (names : List Json) :
    Still (requireExisting address operation names) := by
  induction names with
  | nil => exact (looks_pure _).same
  | cons name rest ih =>
      rw [requireExisting]
      refine (looks_properties address).bind_still fun declared => ?_
      refine (looks_holds declared name).bind_still fun found => ?_
      split
      · exact ih
      · exact (looks_shown name).bind_still fun _ => (looks_owner address).bind_still fun _ => still_refuse _

theorem looks_keysOf (slots : List Slot) : Looks (keysOf slots) :=
  looks_mapM (fun _ => looks_keyOf _) slots

theorem looks_others (name : Json) (slots : List Slot) : Looks (others name slots) :=
  looks_filterM (fun slot => (looks_agrees slot name).bind fun _ => looks_pure _) slots

theorem looks_membersAt (slot? : Option Slot) : Looks (membersAt slot?) := by
  unfold membersAt
  split
  · exact looks_pure _
  · exact looks_pure _
  · exact looks_throw fun _ => by simp

theorem unrefusing_ownProperties (address : Nat) : Unrefusing (ownProperties address) := by
  unfold ownProperties
  refine (looks_cell address).unrefusing.bind fun cell => ?_
  split
  · exact (looks_pure _).unrefusing
  · exact (unrefusing_push _).bind fun _ => (unrefusing_put _ _ _).bind fun _ => (looks_pure _).unrefusing

theorem still_refuseTaken (address : Nat) (name : Json) : Still (refuseTaken address name) :=
  (looks_shown name).bind_still fun _ => (looks_owner address).bind_still fun _ => still_refuse _

theorem atomic_insertNew (address : Nat) (name : Json) (schema : Operand) : Atomic (insertNew address name schema) :=
  (still_nodeOf "add_property" schema).bind_atomic fun _ =>
    ((unrefusing_ownProperties address).bind fun _ => unrefusing_assign _ _ _).atomic

theorem atomic_insertFree (address : Nat) (name : Json) (schema : Operand) : Atomic (insertFree address name schema) := by
  refine (looks_properties address).bind_atomic fun declared => ?_
  refine (looks_holds declared name).bind_atomic fun found => ?_
  split
  · exact (still_refuseTaken address name).bind_atomic fun _ => atomic_insertNew address name schema
  · exact atomic_insertNew address name schema

theorem atomic_insertProperty (address : Nat) (name : Json) (schema : Operand) :
    Atomic (insertProperty address name schema) := by
  refine (looks_shape address).bind_atomic fun face => ?_
  split
  · exact (still_refuse _).bind_atomic fun _ => atomic_insertFree address name schema
  · exact atomic_insertFree address name schema

theorem unrefusing_requireName (address : Nat) (name : Json) : Unrefusing (requireName address name) :=
  (looks_required address).unrefusing.bind fun _ =>
    (unrefusing_place name).bind fun _ => unrefusing_setRequired _ _

theorem atomic_addProperty (address : Nat) (isRequired : Bool) (name : Json) (schema : Operand) :
    Atomic (addProperty address isRequired name schema) := by
  refine (atomic_insertProperty address name schema).bind fun _ => ?_
  split
  · exact unrefusing_requireName address name
  · exact (looks_pure _).unrefusing

theorem atomic_allowMore (address : Nat) (schema : Operand) : Atomic (allowMore address schema) := by
  refine (looks_cell address).bind_atomic fun cell => ?_
  split
  · exact (looks_owner address).bind_atomic fun _ => (still_refuse _).adds.atomic
  · exact (looks_owner address).bind_atomic fun _ => (still_refuse _).adds.atomic
  · split
    · exact (unrefusing_put _ _ _).atomic
    · exact (still_nodeOf _ schema).bind_atomic fun node => (unrefusing_put _ _ _).atomic

theorem atomic_addAdditional (address : Nat) (schema : Operand) : Atomic (addAdditional address schema) := by
  refine (looks_shape address).bind_atomic fun face => ?_
  dsimp only
  split
  · exact (still_refuse _).bind_atomic fun _ => atomic_allowMore address schema
  · exact atomic_allowMore address schema

theorem unrefusing_requireRenamed (address : Nat) (isRequired : Bool) (name newName : Json) :
    Unrefusing (requireRenamed address isRequired name newName) := by
  refine (looks_required address).unrefusing.bind fun names => ?_
  refine (looks_others name names).unrefusing.bind fun kept => ?_
  split
  · exact (unrefusing_place newName).bind fun _ => unrefusing_setRequired _ _
  · exact unrefusing_setRequired _ _

theorem atomic_renameHeld (address : Nat) (isRequired : Bool) (name newName : Json) (declared : Option Slot) :
    Atomic (renameHeld address isRequired name newName declared) := by
  have adjust := unrefusing_requireRenamed address isRequired name newName
  refine (looks_holds declared name).bind_atomic fun found => ?_
  split
  · refine ((looks_membersAt declared).unrefusing.bind fun members => ?_).atomic
    dsimp only
    split
    · refine (looks_cell _).unrefusing.bind fun cell => ?_
      refine (looks_keyOf name).unrefusing.bind fun old => ?_
      refine (looks_keyOf newName).unrefusing.bind fun new => ?_
      exact (unrefusing_push _).bind fun renamed => (unrefusing_put _ _ _).bind fun _ => adjust
    · exact adjust
  · exact (looks_pure _).unrefusing.atomic

theorem atomic_rename (address : Nat) (isRequired : Bool) (name newName : Json) :
    Atomic (rename address isRequired name newName) := by
  have write := atomic_renameHeld address isRequired name newName
  refine (still_requireSimple address _).bind_atomic fun _ => ?_
  refine (looks_properties address).bind_atomic fun declared => ?_
  refine (looks_holds declared newName).bind_atomic fun taken => ?_
  dsimp only
  split
  · exact (still_refuseTaken address newName).bind_atomic fun _ => write declared
  · exact write declared

theorem still_requirePicked (address : Nat) (declared : Option Slot) (names : List Json) :
    Still (requirePicked address declared names) := by
  induction names with
  | nil => exact (looks_pure _).same
  | cons name rest ih =>
      rw [requirePicked]
      refine (looks_holds declared name).bind_still fun found => ?_
      split
      · exact ih
      · exact (looks_shown name).bind_still fun _ => (looks_owner address).bind_still fun _ => still_refuse _

theorem looks_selected (declared : Option Slot) (names : List Json) (picked : Cell) :
    Looks (selected declared names picked) := by
  induction names generalizing picked with
  | nil => exact looks_pure picked
  | cons name rest ih =>
      rw [selected]
      exact (looks_member declared name).bind fun slot => (looks_keyOf name).bind fun key => ih _

theorem looks_among (names : List Json) (slots : List Slot) : Looks (among names slots) :=
  looks_filterM (fun slot => looks_anyM (fun name => looks_agrees slot name) names) slots

theorem atomic_pickNames (address : Nat) (names : List Json) : Atomic (pickNames address names) := by
  refine (looks_properties address).bind_atomic fun declared => ?_
  refine (still_requirePicked address declared names).bind_atomic fun _ => ?_
  refine ((looks_selected declared names []).unrefusing.bind fun picked => ?_).atomic
  refine (unrefusing_push _).bind fun members => (unrefusing_put _ _ _).bind fun _ => ?_
  refine (looks_cell address).unrefusing.bind fun cell => ?_
  split
  · exact (looks_required address).unrefusing.bind fun names' =>
      (looks_among names names').unrefusing.bind fun kept => unrefusing_setRequired _ _
  · exact (looks_pure _).unrefusing

theorem still_requirePickable (address : Nat) : Still (requirePickable address) := by
  refine (looks_shape address).bind_still fun face => ?_
  split
  · exact still_refuse _
  · exact (looks_pure _).same

theorem atomic_pick (address : Nat) (names : List Json) : Atomic (pick address names) :=
  (still_requirePickable address).bind_atomic fun _ => atomic_pickNames address names

theorem atomic_pickListed (address : Nat) (names : Operand) : Atomic (pickListed address names) :=
  (still_requirePickable address).bind_atomic fun _ =>
    (looks_names names).bind_atomic fun listed => atomic_pickNames address listed

theorem still_requireDistinct (names additional : List Json) : Still (requireDistinct names additional) := by
  have distinct : Still (do
      if !areDistinct (← additional.mapM Change.keyOf) then Change.refuse .repeatedAdditional) := by
    refine (looks_mapM looks_keyOf additional).bind_still fun keys => ?_
    split
    · exact still_refuse _
    · exact (looks_pure _).same
  unfold requireDistinct
  simp only
  split
  · refine (looks_mapM (fun name => ?_) _).bind_still fun texts => ?_
    · split
      · exact looks_pure _
      · exact looks_unusable
    · exact (still_refuse _).bind fun _ => distinct
  · exact distinct

theorem unrefusing_copied (slot : Slot) : Unrefusing (copied slot) :=
  fun _ _ _ => by simp

theorem atomic_omitNames (address : Nat) (names : Operand) : Atomic (omitNames address names) := by
  refine (still_requireSimple address _).bind_atomic fun _ => ?_
  refine (looks_names names).bind_atomic fun listed => ?_
  refine (looks_mapM looks_keyOf listed).bind_atomic fun omitted => ?_
  refine (looks_properties address).bind_atomic fun declared => ?_
  refine (looks_items declared).bind_atomic fun slots => ?_
  exact (looks_keysOf slots).bind_atomic fun keys => atomic_pick address _

theorem unrefusing_offer (address alternative : Nat) (names : List Json) :
    Unrefusing (offer address alternative names) := by
  induction names with
  | nil => exact (looks_pure _).unrefusing
  | cons name rest ih =>
      rw [offer]
      refine (looks_properties address).unrefusing.bind fun declared => ?_
      refine (looks_member declared name).unrefusing.bind fun current => ?_
      refine (unrefusing_copied _).bind fun other => (unrefusing_push _).bind fun choice => ?_
      exact (unrefusing_assign _ _ _).bind fun _ => ih

theorem atomic_transform (address : Nat) (schema names : Operand) :
    Atomic (transform address schema names) := by
  refine (still_requireSimple address _).bind_atomic fun _ => ?_
  refine (looks_names names).bind_atomic fun chosen => ?_
  refine (still_requireExisting address _ chosen).bind_atomic fun _ => ?_
  exact (still_nodeOf _ schema).bind_atomic fun alternative => (unrefusing_offer _ _ _).atomic

theorem unrefusing_offerArrays (address : Nat) (names : List Json) :
    Unrefusing (offerArrays address names) := by
  induction names with
  | nil => exact (looks_pure _).unrefusing
  | cons name rest ih =>
      rw [offerArrays]
      refine (looks_properties address).unrefusing.bind fun declared => ?_
      refine (looks_member declared name).unrefusing.bind fun current => ?_
      refine (unrefusing_copied _).bind fun inner => (unrefusing_push _).bind fun list => ?_
      exact (unrefusing_push _).bind fun choice => (unrefusing_assign _ _ _).bind fun _ => ih

theorem looks_values (slots : List Slot) : Looks (values slots) := by
  refine looks_get.bind fun store => looks_mapM (fun slot => ?_) slots
  split
  · exact looks_pure _
  · exact looks_throw fun _ => by simp

theorem atomic_offerExisting (address : Nat) (chosen : List Json) : Atomic (offerExisting address chosen) :=
  (still_requireExisting address _ chosen).bind_atomic fun _ => (unrefusing_offerArrays _ _).atomic

theorem atomic_transformToArray (address : Nat) (names : Operand) :
    Atomic (transformToArray address names) := by
  refine (still_requireSimple address _).bind_atomic fun _ => ?_
  split
  · refine (looks_properties address).bind_atomic fun declared => ?_
    refine (looks_items declared).bind_atomic fun slots => ?_
    exact (looks_values slots).bind_atomic (atomic_offerExisting address)
  · exact (looks_names names).bind_atomic (atomic_offerExisting address)

theorem adds_copied (slot : Slot) : Adds (copied slot) :=
  fun store => store.copy_extends slot

theorem adds_offered (other : Operand) : Adds (offered other) := by
  have names (theirs : Option Slot) (node : Nat) : Adds (do return (theirs, ← required node)) :=
    ((looks_required node).bind fun _ => looks_pure _).same.adds
  refine (still_nodeOf _ other).adds.bind fun node => (looks_properties node).bind_adds fun theirs => ?_
  split
  · refine Adds.bind ?_ fun theirs => names theirs node
    exact (adds_copied _).bind fun copy => (looks_pure _).same.adds
  · exact (looks_pure _).bind_adds fun theirs => names theirs node

theorem looks_offeredMembers (theirs : Option Slot) : Looks (offeredMembers theirs) := by
  refine (looks_membersAt theirs).bind fun members => ?_
  split
  · exact looks_cell _
  · exact looks_pure _

theorem looks_listed (name : Key) (slots : List Slot) : Looks (listed name slots) := by
  refine (looks_lists slots name.toJson).bind fun found => ?_
  split
  · exact looks_pure _
  · exact looks_pure _

theorem unrefusing_mergeMembers (address : Nat) (theirs names : List Slot) (members : Cell) :
    Unrefusing (mergeMembers address theirs names members) := by
  induction members generalizing names with
  | nil => exact (looks_pure _).unrefusing
  | cons entry rest ih =>
      obtain ⟨key, slot⟩ := entry
      rw [mergeMembers]
      refine (unrefusing_ownProperties address).bind fun mine => ?_
      refine (looks_holds _ _).unrefusing.bind fun found => ?_
      split
      · refine (looks_member _ _).unrefusing.bind fun current => (unrefusing_push _).bind fun choice => ?_
        refine (unrefusing_assign _ _ _).bind fun _ => ?_
        exact (looks_listed key names).unrefusing.bind fun _ => ih _
      · refine (unrefusing_assign _ _ _).bind fun _ => ?_
        exact (looks_lists theirs _).unrefusing.bind fun _ => ih _

theorem looks_eraseFirst (name : Json) (slots : List Slot) : Looks (eraseFirst name slots) := by
  induction slots with
  | nil => exact looks_pure _
  | cons slot rest ih =>
      rw [eraseFirst]
      refine (looks_agrees slot name).bind fun found => ?_
      split
      · exact looks_pure _
      · exact ih.bind fun _ => looks_pure _

theorem unrefusing_overwriteMembers (address : Nat) (theirs names : List Slot) (members : Cell) :
    Unrefusing (overwriteMembers address theirs names members) := by
  induction members generalizing names with
  | nil => exact (looks_pure _).unrefusing
  | cons entry rest ih =>
      obtain ⟨key, slot⟩ := entry
      rw [overwriteMembers]
      refine (unrefusing_assign _ _ _).bind fun _ => (looks_lists theirs _).unrefusing.bind fun found => ?_
      split
      · exact (looks_listed key names).unrefusing.bind ih
      · exact (looks_eraseFirst _ names).unrefusing.bind ih

/-- The two edits that take in the properties of another schema. -/
theorem atomic_takeIn {address : Nat} {operation : String} {other : Operand}
    {combine : List Slot → List Slot → Cell → Change (List Slot)}
    (writes : ∀ theirs names members, Unrefusing (combine theirs names members)) : Atomic (do
      requireSimple address operation
      let (theirs, theirRequired) ← offered other
      let _ ← ownProperties address
      let before ← required address
      setRequired address (← combine theirRequired before (← offeredMembers theirs))) := by
  refine (still_requireSimple address operation).bind_atomic fun _ => ?_
  refine (adds_offered other).bind_atomic fun theirs => ?_
  refine ((unrefusing_ownProperties address).bind fun _ => ?_).atomic
  refine (looks_required address).unrefusing.bind fun before => ?_
  refine (looks_offeredMembers _).unrefusing.bind fun members => ?_
  exact (writes _ _ _).bind fun names => unrefusing_setRequired _ _

theorem atomic_merge (address : Nat) (other : Operand) : Atomic (merge address other) :=
  atomic_takeIn (unrefusing_mergeMembers address)

theorem atomic_overwrite (address : Nat) (other : Operand) : Atomic (overwrite address other) :=
  atomic_takeIn (unrefusing_overwriteMembers address)

theorem atomic_setOptionalNames (address : Nat) (names : Operand) :
    Atomic (setOptionalNames address names) := by
  refine (still_requireSimple address _).bind_atomic fun _ => ?_
  refine (looks_names names).bind_atomic fun listed => ?_
  refine (looks_mapM looks_keyOf listed).bind_atomic fun optional => ?_
  refine (looks_properties address).bind_atomic fun declared => ?_
  refine (looks_items declared).bind_atomic fun slots => ?_
  exact (looks_keysOf slots).bind_atomic fun keys => (unrefusing_setRequired _ _).atomic

theorem unrefusing_addNames (names : List Json) (slots : List Slot) : Unrefusing (addNames names slots) := by
  induction names generalizing slots with
  | nil => exact (looks_pure _).unrefusing
  | cons name rest ih =>
      rw [addNames]
      refine (looks_lists slots name).unrefusing.bind fun found => ?_
      split
      · exact ih _
      · exact (unrefusing_place name).bind fun _ => ih _

theorem atomic_setRequiredNames (address : Nat) (names : Operand) :
    Atomic (setRequiredNames address names) := by
  refine (still_requireSimple address _).bind_atomic fun _ => ?_
  refine (looks_names names).bind_atomic fun chosen => ?_
  refine (still_requireExisting address _ chosen).bind_atomic fun _ => ?_
  refine ((looks_required address).unrefusing.bind fun before => ?_).atomic
  exact (unrefusing_addNames chosen before).bind fun _ => unrefusing_setRequired _ _

theorem unrefusing_deepOptionals (address : Nat) : Unrefusing (deepOptionals address) := by
  refine looks_get.unrefusing.bind fun store => ?_
  refine (unrefusing_forM (fun node => unrefusing_drop node "required") _).bind fun _ => ?_
  split
  · exact (looks_pure _).unrefusing
  · exact (looks_throw fun _ => by simp).unrefusing

theorem still_adopt (address : Nat) : Still (adopt address) := by
  intro store
  rw [outcome_adopt]
  split
  · rfl
  · split <;> rfl

theorem adds_metadata (kind : Metadata.Kind) (factory : String) (operand : Operand) :
    Adds (Change.metadata kind factory operand) := by
  unfold Change.metadata
  split
  · split
    · exact adds_placeFields _
    · exact (still_refuse _).adds
  · exact (still_refuse _).adds

theorem adds_make (cell : Cell) : Adds (make cell) :=
  (adds_push cell).bind fun root => (still_adopt root).adds

theorem adds_makeScalar (type : ScalarType) (metadata : Operand) : Adds (makeScalar type metadata) :=
  (adds_metadata _ _ metadata).bind fun _ => adds_make _

theorem adds_makeArray (items metadata : Operand) : Adds (makeArray items metadata) :=
  (adds_metadata _ _ metadata).bind fun _ => (still_nodeOf _ items).adds.bind fun _ => adds_make _

/-- A factory makes new objects and leaves the others as they are. -/
theorem adds_factory (factory : Factory) : Adds factory.run := by
  cases factory with
  | object metadata => exact (adds_metadata _ _ metadata).bind fun _ => adds_make _
  | scalar type metadata => exact adds_makeScalar type metadata
  | enumeration values metadata =>
      cases values with
      | value json =>
          cases json with
          | array values =>
              exact (adds_metadata _ _ metadata).bind fun _ => (adds_place _).bind fun _ => adds_make _
          | _ => exact (still_refuse _).adds
      | _ => exact (still_refuse _).adds
  | array items metadata => exact adds_makeArray items metadata
  | stringArray metadata => exact (adds_makeScalar .string _).bind fun _ => adds_makeArray _ metadata
  | combine combinator first second =>
      exact (still_nodeOf _ first).adds.bind fun _ => (still_nodeOf _ second).adds.bind fun _ => adds_make _
  | negation schema => exact (still_nodeOf _ schema).adds.bind fun _ => adds_make _

end Builder

/-- Edits are atomic, picking with additional properties apart. -/
theorem Edit.atomic_run (address : Nat) {edit : Edit}
    (plain : ∀ names additional, edit ≠ .pickAdditional names additional) : Atomic (edit.run address) := by
  cases edit with
  | setOptional names => exact Builder.atomic_setOptionalNames address names
  | setRequired names => exact Builder.atomic_setRequiredNames address names
  | toOptionals => exact (unrefusing_drop address _).atomic
  | toDeepOptionals => exact (Builder.unrefusing_deepOptionals address).atomic
  | add required name schema => exact Builder.atomic_addProperty address required name schema
  | addMade required name factory =>
      exact (Builder.adds_factory factory).bind_atomic fun _ => Builder.atomic_addProperty address required name _
  | addAdditional schema => exact Builder.atomic_addAdditional address schema
  | rename required name newName => exact Builder.atomic_rename address required name newName
  | pick names => exact Builder.atomic_pickListed address names
  | pickAdditional names additional => exact absurd rfl (plain names additional)
  | «omit» names => exact Builder.atomic_omitNames address names
  | transform schema names => exact Builder.atomic_transform address schema names
  | transformToArray names => exact Builder.atomic_transformToArray address names
  | merge other => exact Builder.atomic_merge address other
  | overwrite other => exact Builder.atomic_overwrite address other

end SchemaAlgebra
