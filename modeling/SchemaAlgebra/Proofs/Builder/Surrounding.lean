import SchemaAlgebra.Proofs.Builder.Offering
import SchemaAlgebra.Proofs.Builder.Picking
import SchemaAlgebra.Proofs.Builder.Separation
import SchemaAlgebra.Proofs.Validation.Widening

/-!
What surrounds the properties of a schema. In an arranged store the object of the properties is named by the schema
alone, and under one keyword. So nothing else that a finite schema holds leads to it, and whatever becomes of the
properties, the other keywords denote what they did.
-/

namespace SchemaAlgebra

/-- Objects with the same keys have related values still after a key gets related values, if those of all other keys are
related. -/
theorem Fields.Rel.put_others {κ α β : Type} [DecidableEq κ] {r : α → β → Prop} {fields : Fields κ α} {others : Fields κ β}
    {key : κ} (related : List.Forall₂ (fun entry other => entry.1 = other.1 ∧ (entry.1 ≠ key → r entry.2 other.2))
      fields others) (distinct : others.keys.Nodup) {value : α} {other : β} (holds : r value other) :
    Rel r (fields.put key value) (others.put key other) := by
  induction related with
  | nil => exact .cons ⟨rfl, holds⟩ .nil
  | @cons entry entry' fields others first rest ih =>
      obtain ⟨k, v⟩ := entry
      obtain ⟨k', v'⟩ := entry'
      obtain ⟨same, holds'⟩ := first
      obtain rfl : k = k' := same
      obtain ⟨missing, distinct⟩ := List.nodup_cons.mp distinct
      rw [Fields.put, Fields.put]
      split
      · next here =>
          -- the key does not come again
          refine .cons ⟨rfl, holds⟩ (List.forall₂_iff_zip.mpr ⟨rest.length_eq, fun {entry other} among => ?_⟩)
          obtain ⟨same, holds⟩ := (List.forall₂_iff_zip.mp rest).2 among
          refine ⟨same, holds fun again => missing ?_⟩
          have named : k = other.1 := here.trans (again.symm.trans same)
          exact List.mem_map.mpr ⟨other, (List.of_mem_zip among).2, named.symm⟩
      · next different => exact .cons ⟨rfl, holds' different⟩ (ih distinct)

namespace Store

variable {clean : Prop} {store later : Store} {standings : Nat → Standing} {address place : Nat} {slot : Slot} {value : Json}
  {fields : List (Key × Json)}

/-- Whoever comes to the members of a schema from elsewhere comes to the schema first. -/
theorem Arranged.leads_owner {start : Nat} (arranged : store.Arranged clean standings)
    (members : standings place = .members address) (leads : store.Leads start place) (apart : start ≠ place) :
    store.Leads start address := by
  rcases Relation.ReflTransGen.cases_tail leads with same | ⟨middle, leads, named⟩
  · exact absurd same.symm apart
  · exact arranged.owner members named ▸ leads

/-- What a schema holds beside its properties, and does not lead back to it, does not lead to them either. -/
theorem Arranged.apart_own (arranged : store.Arranged clean standings) (schema : standings address = .schema)
    {entry : Key × Slot} (listed : entry ∈ store.cell address) (other : entry.1 ≠ "properties")
    (apart : store.Apart (· = address) entry.2) : store.Apart (store.Own address) entry.2 := by
  rintro start named last leads (rfl | found)
  · exact apart start named _ leads rfl
  · have members := arranged.members schema found
    refine apart start named address (arranged.leads_owner members leads ?_) rfl
    rintro rfl
    exact other (arranged.owner_entry members listed named).2

/-- All that a schema holds is supplied, its properties apart. -/
def Surrounds (store : Store) (address : Nat) (fields : List (Key × Json)) : Prop :=
  List.Forall₂ (fun (entry : Key × Slot) (field : Key × Json) =>
    entry.1 = field.1 ∧ (entry.1 ≠ "properties" → store.Supplies address entry.2 field.2))
    (store.cell address) fields

/-- In an arranged store this is so of a finite schema. -/
theorem Arranged.surrounds (arranged : store.Arranged clean standings) (schema : standings address = .schema)
    (denotes : store.Denotes (.node address) (.object fields)) : store.Surrounds address fields := by
  obtain ⟨_, ⟨⟩, each⟩ := denotes_node.mp denotes
  have finite : store.Finite (.node address) := ⟨_, denotes⟩
  refine ((List.forall₂_and_left ..).mpr ⟨fun entry listed => listed, each⟩).imp fun entry field both =>
    ⟨both.2.1, fun other => ?_⟩
  exact ⟨arranged.within address entry both.1, arranged.apart_own schema both.1 other (finite.apart_self both.1), both.2.2⟩

/-- Once its properties have become another object, a schema denotes what it did, with what these are now, if what was
supplied to it denotes what it did. -/
theorem Surrounds.denotes_put (surrounds : store.Surrounds address fields) (distinct : (Fields.keys fields).Nodup)
    (cell : later.cell address = Fields.put (store.cell address) "properties" (.node place))
    (kept : ∀ {slot value}, store.Supplies address slot value → later.Denotes slot value)
    (read : later.Denotes (.node place) value) :
    later.Denotes (.node address) (.object (Fields.put fields "properties" value)) := by
  refine denotes_node.mpr ⟨_, rfl, ?_⟩
  rw [cell]
  refine Fields.Rel.put_others (List.Forall₂.imp (fun _ _ both => ?_) surrounds) distinct read
  exact ⟨both.1, fun other => kept (both.2 other)⟩

/-- The object of the properties denotes the list of them. -/
theorem Presents.denotes_place {members : Fields String Slot} {names : List String} {values : Fields String Json}
    (presents : store.Presents address members names values)
    (found : Fields.get? (store.cell address) "properties" = some (.node place)) (names' : List String) :
    store.Denotes (.node place) (.object (Property.entries (Property.flagged values names'))) := by
  refine denotes_node.mpr ⟨_, rfl, ?_⟩
  rw [presents.describes.cell found, Property.entries, Property.flagged, List.map_map]
  refine List.forall₂_map_left_iff.mpr (List.forall₂_map_right_iff.mpr (List.Forall₂.imp ?_ presents.values))
  exact fun member value both => ⟨congrArg Key.text both.1, both.2⟩

end Store

namespace Builder

open Property Schema

variable {clean : Prop} {store owning : Store} {standings : Nat → Standing} {address place root : Nat}
  {members others : Fields String Slot} {names otherNames texts : List String} {values theirs : Fields String Json}
  {fields : List (Key × Json)} {operand : Operand}

/-- A schema that has an object for its properties of its own is else as it was. -/
theorem Owns.cell_own (owns : Owns store owning address place members names) (inside : address < store.size) :
    owning.cell address = Fields.put (store.cell address) "properties" (.node place) := by
  have found := owns.found
  rcases owns.made with rfl | ⟨-, rfl⟩
  · exact (Fields.put_of_get? found).symm
  · rw [Store.cell_withMembers inside, if_pos rfl] at found ⊢
    rw [Fields.get?_put_self] at found
    rw [Option.some.inj found]

/-- In an arranged store simple object schemas that have an end can be merged: what results is read with the properties
of both, and otherwise as before. -/
theorem outcome_merge (arranged : store.Arranged clean standings) (schema : standings address = .schema)
    (presents : store.Presents address members names values) (requires : Requires values names)
    (offered : store.Presents root others otherNames theirs)
    (simple : Shape.isSimpleObjectSchema (Cell.face (store.cell address)) = true)
    (denotes : store.Denotes (.node address) (.object fields)) (distinct : (Fields.keys fields).Nodup) :
    ∃ later names' values', outcome (merge address (.builder root)) store = (.ok (), later) ∧
      later.tree? (.node address) = some (.object (reshaped fields (entries (flagged values' names')) names')) ∧
      Requires values' names' ∧
      flagged values' names' = (flagged theirs otherNames).foldl (take either) (flagged values names) := by
  have inside := presents.describes.inside
  obtain ⟨given, taken, place, owning, offers, owns, taking⟩ : ∃ given taken place owning,
      Offers store root others given taken ∧ Owns given owning address place members names ∧
        outcome (merge address (.builder root)) store = outcome (do
          setRequired address
            (← mergeMembers address (otherNames.map .string) (names.map .string) (Cell.named taken))) owning :=
    outcome_takeIn presents.closed presents.describes offered.describes simple
  obtain ⟨closed, supplies⟩ := offers.supplies presents offered
  have grown := offers.extends
  have given' := presents.extend closed grown
  obtain ⟨owned, kept⟩ := given'.owns owns
  obtain ⟨_, last, ran, carries, members', names', values', gathers, rfl, flags⟩ :=
    outcome_mergeMembers_named taken ⟨owned, owns.found, requires⟩ (supplies.imp fun _ _ _ supplies => kept supplies)
  have cell : last.cell address = Fields.put (store.cell address) "properties" (.node place) := by
    rw [carries.cell, owns.cell_own given'.describes.inside, grown.cells address inside]
  have read : last.Denotes (.node address)
      (.object (Fields.put fields "properties" (.object (entries (flagged values' names'))))) :=
    (arranged.surrounds schema denotes).denotes_put distinct cell
      (fun supplies => (carries.supplies (kept (supplies.extend presents.closed inside grown))).denotes)
      (gathers.presents.denotes_place gathers.found names')
  have whole := gathers.presents.withNames names'
  refine ⟨last.withNames address names', names', values', ?_, ?_, gathers.requires, flags⟩
  · rw [taking, outcome_bind_ok ran, outcome_setRequired_string]
  · exact (whole.closed.tree?_eq_some_iff (Slot.within_node.mpr whole.describes.inside)).mpr
      (Store.denotes_withNames gathers.presents.describes.inside read names')

/-- Properties of it can be transformed to lists: what results is read with these widened, and otherwise as before. -/
theorem outcome_transformToArray_named (arranged : store.Arranged clean standings) (schema : standings address = .schema)
    (presents : store.Presents address members names values)
    (simple : Shape.isSimpleObjectSchema (Cell.face (store.cell address)) = true)
    (denotes : store.Denotes (.node address) (.object fields)) (distinct : (Fields.keys fields).Nodup)
    (listed : operand.isNull = true ∧ texts = Fields.keys members ∨ operand.Lists texts) (once : texts.Nodup)
    (present : ∀ name ∈ texts, Fields.has members name = true) :
    ∃ later, outcome (transformToArray address operand) store = (.ok (), later) ∧
      later.tree? (.node address) = some (.object (widened fields texts)) := by
  have within := Slot.within_node.mpr presents.describes.inside
  rw [outcome_transformToArray_of_present presents.describes simple listed present]
  obtain ⟨_, ⟨⟩, each⟩ := Store.denotes_node.mp denotes
  have declares := presents.describes.declares
  rcases each.get? "properties" with ⟨missing, missing'⟩ | ⟨slot, value, found, found', read⟩
  · rw [missing] at declares
    cases declares with
    | absent empty =>
        obtain rfl : texts = [] := List.eq_nil_iff_forall_not_mem.mpr fun name among => by
          simpa [empty, Fields.has] using present name among
        rw [widened_of_missing missing']
        exact ⟨store, rfl, (presents.closed.tree?_eq_some_iff within).mpr denotes⟩
  · rw [found] at declares
    cases declares with
    | @node place cell =>
        obtain rfl := read.unique (presents.denotes_place found [])
        have gathers : Gathers store address place members names [] values :=
          ⟨presents, found, List.nodup_nil, fun _ among => absurd among List.not_mem_nil⟩
        obtain ⟨later, members', values', ran, carries, gathers', flags⟩ := outcome_offerArrays_named gathers present
        have inner := gathers'.presents.denotes_place gathers'.found []
        rw [flags, entries_remade once] at inner
        have cell : later.cell address = Fields.put (store.cell address) "properties" (.node place) := by
          rw [carries.cell, Fields.put_of_get? found]
        refine ⟨later, ran, (gathers'.presents.closed.tree?_eq_some_iff
          (Slot.within_node.mpr gathers'.presents.describes.inside)).mpr ?_⟩
        rw [widened_of_get? found']
        exact (arranged.surrounds schema denotes).denotes_put distinct cell
          (fun supplies => (carries.supplies supplies).denotes) inner

end Builder

end SchemaAlgebra
