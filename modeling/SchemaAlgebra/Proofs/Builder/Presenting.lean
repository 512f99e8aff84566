import SchemaAlgebra.Proofs.Builder.Order
import SchemaAlgebra.Proofs.Builder.Properties

/-!
What small changes of a store present. Each changes only the schema at an address and the object of its properties;
whatever does not lead to these denotes what it did, and what is finite stays so.
-/

namespace SchemaAlgebra.Store

variable {store later : Store} {address place : Nat} {members members' : Fields String Slot} {names names' : List String}
  {values values' : Fields String Json} {slot : Slot} {value : Json}

/-- The objects in which a schema says what its properties are: itself, and that of its properties. -/
def Own (store : Store) (address other : Nat) : Prop :=
  other = address ∨ Fields.get? (store.cell address) "properties" = some (.node other)

/-- A slot denotes a value, and none of the schema's own objects can be reached from it. -/
structure Supplies (store : Store) (address : Nat) (slot : Slot) (value : Json) : Prop where
  within : slot.Within store.size
  apart : store.Apart (store.Own address) slot
  denotes : store.Denotes slot value

/-- A later store differs only in a schema's own objects, and the schema has no new entries that name objects, its
properties apart. -/
structure Revises (store later : Store) (address : Nat) : Prop where
  closed : later.Closed
  size : store.size ≤ later.size
  cells : ∀ other < store.size, other ≠ address → later.cell other = store.cell other ∨
    Fields.get? (store.cell address) "properties" = some (.node other) ∧
      Fields.get? (later.cell address) "properties" = some (.node other)
  own : ∀ other, Fields.get? (later.cell address) "properties" = some (.node other) →
    Fields.get? (store.cell address) "properties" = some (.node other) ∨ store.size ≤ other
  rest : ∀ entry ∈ later.cell address, Fields.get? (later.cell address) "properties" = some entry.2 ∨
    entry ∈ store.cell address ∨ entry.2.addresses = []

theorem Revises.agrees (revises : store.Revises later address) :
    store.AgreesOff later fun other => store.Own address other ∨ store.size ≤ other := by
  intro other unchanged
  simp only [Own, not_or, Nat.not_le] at unchanged
  obtain ⟨⟨notSelf, notPlace⟩, inside⟩ := unchanged
  exact (revises.cells other inside notSelf).resolve_right fun both => notPlace both.1

theorem Apart.or {first second : Nat → Prop} (apart : store.Apart first slot) (apart' : store.Apart second slot) :
    store.Apart (fun other => first other ∨ second other) slot := by
  rintro start named other leads (holds | holds)
  · exact apart start named other leads holds
  · exact apart' start named other leads holds

theorem Apart.mono {first second : Nat → Prop} (apart : store.Apart first slot)
    (covers : ∀ other, second other → first other) : store.Apart second slot :=
  fun start named other leads holds => apart start named other leads (covers other holds)

theorem Supplies.revise (supplies : store.Supplies address slot value) (closed : store.Closed)
    (revises : store.Revises later address) : later.Supplies address slot value := by
  have apart := supplies.apart.or (closed.apart supplies.within)
  refine ⟨supplies.within.mono revises.size, ?_, supplies.denotes.agree revises.agrees apart⟩
  refine (apart.agree revises.agrees).mono fun other own => ?_
  rcases own with rfl | found
  · exact .inl (.inl rfl)
  · exact (revises.own other found).imp_left .inr

theorem Supplies.extend (supplies : store.Supplies address slot value) (closed : store.Closed)
    (inside : address < store.size) (extends' : store.Extends later) : later.Supplies address slot value := by
  refine ⟨supplies.within.mono extends'.size, ?_, supplies.denotes.extend closed supplies.within extends'⟩
  have apart := supplies.apart.or (closed.apart supplies.within)
  refine (apart.agree fun other unchanged => ?_).mono fun other own => ?_
  · exact extends'.cells other (Nat.lt_of_not_le fun new => unchanged (.inr new))
  · rw [Own, extends'.cells address inside] at own
    exact .inl own

/-- What stands among the properties of a finite schema does not lead back to its own objects. -/
theorem Finite.apart_own (finite : store.Finite (.node address))
    (found : Fields.get? (store.cell address) "properties" = some (.node place)) {entry : Key × Slot}
    (listed : entry ∈ store.cell place) : store.Apart (store.Own address) entry.2 := by
  have properties := Fields.mem_of_get? found
  rintro start named other leads (rfl | same)
  · have named' : start ∈ (store.cell place).addresses := Cell.mem_addresses.mpr ⟨_, listed, named⟩
    exact finite.apart_self properties place (List.mem_singleton_self _) _ (.head named' leads) rfl
  · obtain rfl : place = other := by simpa using found.symm.trans same
    exact (finite.entry properties).apart_self listed start named _ leads rfl

theorem Presents.supplies_member (presents : store.Presents address members names values) {member : String × Slot}
    (listed : member ∈ members) (denotes : store.Denotes member.2 value) : store.Supplies address member.2 value := by
  have held := (Fields.has_iff_mem_keys members member.1).mpr (List.mem_map_of_mem listed)
  obtain ⟨place, found⟩ := presents.describes.place held
  have entry : (Key.text member.1, member.2) ∈ store.cell place := by
    rw [presents.describes.cell found]
    exact List.mem_map_of_mem listed
  exact ⟨closed_iff.mp presents.closed place _ entry, presents.finite.apart_own found entry, denotes⟩

/-- The properties that a schema has are supplied. -/
theorem Presents.supplies (presents : store.Presents address members names values) :
    Fields.Rel (store.Supplies address) members values :=
  presents.values.imp fun _ listed _ denotes => presents.supplies_member listed denotes

/-- A later store has the same entries of a schema, and all that was supplied to the schema is. -/
structure Carries (store later : Store) (address : Nat) : Prop where
  cell : later.cell address = store.cell address
  supplies : ∀ {slot : Slot} {value : Json}, store.Supplies address slot value → later.Supplies address slot value

theorem Carries.refl : store.Carries store address :=
  ⟨rfl, id⟩

theorem Carries.trans {last : Store} (first : store.Carries later address) (second : later.Carries last address) :
    store.Carries last address :=
  ⟨second.cell.trans first.cell, fun supplies => second.supplies (first.supplies supplies)⟩

theorem Extends.carries (extends' : store.Extends later) (closed : store.Closed) (inside : address < store.size) :
    store.Carries later address :=
  ⟨extends'.cells address inside, fun supplies => supplies.extend closed inside extends'⟩

theorem Presents.extend (presents : store.Presents address members names values) (closed : later.Closed)
    (extends' : store.Extends later) : later.Presents address members names values where
  closed := closed
  describes := presents.describes.extend extends'
  finite := by
    obtain ⟨value, denotes⟩ := presents.finite
    exact ⟨value, denotes.extend presents.closed (Slot.within_node.mpr presents.describes.inside) extends'⟩
  values := presents.supplies.imp fun _ _ _ supplies => supplies.denotes.extend presents.closed supplies.within extends'

/-- A schema is presented after its own objects have changed, if its new properties are known and finite. -/
theorem Presents.revise (presents : store.Presents address members names values) (revises : store.Revises later address)
    (describes : later.Describes address members' names') (related : Fields.Rel later.Denotes members' values') :
    later.Presents address members' names' values' := by
  have properties {place : Nat} (found : Fields.get? (later.cell address) "properties" = some (.node place)) :
      later.Finite (.node place) := by
    refine finite_of_entries fun entry listed => ?_
    rw [describes.cell found] at listed
    obtain ⟨member, among, rfl⟩ := List.mem_map.mp listed
    exact related.exists_of_mem among
  refine ⟨revises.closed, describes, finite_of_entries fun entry listed => ?_, related⟩
  rcases revises.rest entry listed with found | old | none
  · have declares := describes.declares
    rw [found] at declares
    cases declares' : entry.2 with
    | node place => exact properties (declares' ▸ found)
    | _ => rw [declares'] at declares; cases declares
  · refine (presents.finite.entry old).remains presents.closed (fun other inside apart => ?_)
      (closed_iff.mp presents.closed address entry old) (presents.finite.apart_self old)
    exact (revises.cells other inside apart).imp_right fun both => properties both.2
  · exact finite_slot.mpr fun other named => by simp [none] at named

theorem Presents.revise_members (presents : store.Presents address members names values)
    (revises : store.Revises later address) (describes : later.Describes address members' names')
    (related : Fields.Rel (store.Supplies address) members' values') : later.Presents address members' names' values' :=
  presents.revise revises describes
    (related.imp fun _ _ _ supplies => (supplies.revise presents.closed revises).denotes)

theorem Presents.revises_withNames (presents : store.Presents address members names values) (names' : List String) :
    store.Revises (store.withNames address names') address := by
  have inside := presents.describes.inside
  have own := cell_withNames inside names' address
  rw [if_pos rfl] at own
  constructor
  · exact presents.closed.replace ((closed_iff.mp presents.closed address).withRequired names')
  · rw [size_withNames]
  · intro other _ apart
    rw [cell_withNames inside, if_neg (Ne.symm apart)]
    exact .inl rfl
  · intro other found
    rw [own, Builder.get?_withRequired, if_neg (by simp)] at found
    exact .inl found
  · intro entry listed
    rw [own, Builder.withRequired] at listed
    split at listed
    · exact .inr (.inl (Fields.mem_erase listed))
    · rcases Fields.mem_put listed with rfl | old
      · refine .inr (.inr (List.eq_nil_iff_forall_not_mem.mpr fun other named => ?_))
        obtain ⟨item, listed, named⟩ := Slot.mem_itemAddresses.mp named
        obtain ⟨name, -, rfl⟩ := List.mem_map.mp listed
        exact List.not_mem_nil named
      · exact .inr (.inl old)

theorem Presents.withNames (presents : store.Presents address members names values) (names' : List String) :
    (store.withNames address names').Presents address members names' values :=
  presents.revise_members (presents.revises_withNames names') (presents.describes.withNames names') presents.supplies

theorem Presents.revises_withMembers (presents : store.Presents address members names values)
    (related : Fields.Rel (store.Supplies address) members' values') :
    store.Revises (store.withMembers address members') address := by
  have inside := presents.describes.inside
  have own := cell_withMembers inside members' address
  rw [if_pos rfl] at own
  have cell : (store.push (Cell.named members')).cell address = store.cell address := by
    rw [cell_push, if_neg (Nat.ne_of_lt inside)]
  constructor
  · have within : (Cell.named members').Within store.size := by
      intro entry listed
      obtain ⟨member, among, rfl⟩ := List.mem_map.mp listed
      obtain ⟨_, supplies⟩ := related.exists_of_mem among
      exact supplies.within
    refine (presents.closed.push within).replace ?_
    rw [cell, size_push]
    exact ((closed_iff.mp presents.closed address).mono (Nat.le_succ _)).put (Slot.within_node.mpr (Nat.lt_succ_self _))
  · rw [size_withMembers]
    exact Nat.le_succ _
  · intro other old apart
    rw [cell_withMembers inside, if_neg (Ne.symm apart), if_neg (Nat.ne_of_lt old)]
    exact .inl rfl
  · intro other found
    rw [own, Fields.get?_put_self] at found
    obtain rfl : store.size = other := by simpa using found
    exact .inr (Nat.le_refl _)
  · intro entry listed
    rw [own] at listed ⊢
    rcases Fields.mem_put listed with rfl | old
    · exact .inl (Fields.get?_put_self ..)
    · exact .inr (.inl old)

theorem Presents.withMembers (presents : store.Presents address members names values)
    (distinct : (Fields.keys members').Nodup) (related : Fields.Rel (store.Supplies address) members' values') :
    (store.withMembers address members').Presents address members' names values' :=
  presents.revise_members (presents.revises_withMembers related) (presents.describes.withMembers distinct) related

theorem Presents.revises_withMember (presents : store.Presents address members names values)
    (found : Fields.get? (store.cell address) "properties" = some (.node place)) (name : String)
    (within : slot.Within store.size) : store.Revises (store.withMember place name slot) address := by
  obtain ⟨apart, inside⟩ := presents.describes.apart found
  have own := cell_withMember inside name slot address
  rw [if_neg apart] at own
  constructor
  · exact presents.closed.replace ((closed_iff.mp presents.closed place).put within)
  · rw [size_withMember]
  · intro other _ _
    rw [cell_withMember inside, own]
    split
    · next same => exact .inr ⟨same ▸ found, same ▸ found⟩
    · exact .inl rfl
  · intro other found'
    rw [own] at found'
    exact .inl found'
  · intro entry listed
    rw [own] at listed
    exact .inr (.inl listed)

/-- Giving a schema a property that is supplied adds it, or replaces it in its place. -/
theorem Presents.withMember (presents : store.Presents address members names values)
    (found : Fields.get? (store.cell address) "properties" = some (.node place)) (name : String)
    (supplies : store.Supplies address slot value) : (store.withMember place name slot).Presents address
      (Fields.put members name slot) names (Fields.put values name value) :=
  presents.revise_members (presents.revises_withMember found name supplies.within)
    (presents.describes.withMember found name slot) (presents.supplies.put name supplies)

/-- With one more property a schema is otherwise carried along. -/
theorem Presents.carries_withMember (presents : store.Presents address members names values)
    (found : Fields.get? (store.cell address) "properties" = some (.node place)) (name : String)
    (within : slot.Within store.size) : store.Carries (store.withMember place name slot) address := by
  obtain ⟨apart, inside⟩ := presents.describes.apart found
  refine ⟨?_, fun supplies => supplies.revise presents.closed (presents.revises_withMember found name within)⟩
  rw [cell_withMember inside, if_neg apart]

theorem Describes.put (describes : store.Describes address members names) {key : Key} (notProperties : key ≠ "properties")
    (notRequired : key ≠ "required") (slot : Slot) :
    (store.replace address (Fields.put (store.cell address) key slot)).Describes address members names := by
  have own := cell_replace store address address (Fields.put (store.cell address) key slot) describes.inside
  rw [if_pos rfl] at own
  have properties : Fields.get? (Fields.put (store.cell address) key slot) "properties" =
      Fields.get? (store.cell address) "properties" := by
    rw [Fields.get?_put, if_neg notProperties]
  constructor
  · rw [size_replace]
    exact describes.inside
  · rw [own, properties]
    have declares := describes.declares
    cases found : Fields.get? (store.cell address) "properties" with
    | none =>
        rw [found] at declares
        cases declares with
        | absent empty => exact .absent empty
    | some slot =>
        rw [found] at declares
        cases declares with
        | node cell =>
            refine .node ?_
            rw [cell_replace _ _ _ _ describes.inside, if_neg (Ne.symm (describes.apart found).1), cell]
  · intro place found
    rw [own, properties] at found
    rw [size_replace]
    exact describes.apart found
  · rw [own, Fields.get?_put, if_neg notRequired]
    exact describes.required
  · exact describes.distinct

/-- Other keywords of a schema say nothing of its properties. -/
theorem Presents.put (presents : store.Presents address members names values) {key : Key}
    (notProperties : key ≠ "properties") (notRequired : key ≠ "required")
    (plain : slot.addresses = [] ∨ (key, slot) ∈ store.cell address) :
    (store.replace address (Fields.put (store.cell address) key slot)).Presents address members names values := by
  have inside := presents.describes.inside
  have own := cell_replace store address address (Fields.put (store.cell address) key slot) inside
  rw [if_pos rfl] at own
  have each := closed_iff.mp presents.closed address
  have revises : store.Revises (store.replace address (Fields.put (store.cell address) key slot)) address := by
    constructor
    · refine presents.closed.replace (each.put ?_)
      exact plain.elim Slot.within_of_addresses fun listed => each _ listed
    · rw [size_replace]
    · intro other _ apart
      rw [cell_replace _ _ _ _ inside, if_neg (Ne.symm apart)]
      exact .inl rfl
    · intro other found
      rw [own, Fields.get?_put, if_neg notProperties] at found
      exact .inl found
    · intro entry listed
      rw [own] at listed
      rcases Fields.mem_put listed with rfl | old
      · exact .inr plain.symm
      · exact .inr (.inl old)
  exact presents.revise_members revises (presents.describes.put notProperties notRequired slot) presents.supplies

/-- A schema that is given an object for its properties, if it has none, is presented as before, and supplies are
left. -/
theorem Presents.owns {owning : Store} (presents : store.Presents address members names values)
    (owns : Builder.Owns store owning address place members names) : owning.Presents address members names values ∧
      ∀ {slot value}, store.Supplies address slot value → owning.Supplies address slot value := by
  rcases owns.made with rfl | ⟨rfl, rfl⟩
  · exact ⟨presents, id⟩
  · have related : Fields.Rel (store.Supplies address) [] ([] : Fields String Json) := .nil
    obtain rfl := List.forall₂_nil_left_iff.mp presents.values
    exact ⟨presents.withMembers List.nodup_nil related, fun supplies =>
      supplies.revise presents.closed (presents.revises_withMembers related)⟩

theorem Describes.own_inside (describes : store.Describes address members names) {other : Nat}
    (own : store.Own address other) : other < store.size := by
  rcases own with rfl | found
  · exact describes.inside
  · exact (describes.apart found).2

/-- A copy supplies what the original denotes. -/
theorem Presents.supplies_copy (presents : store.Presents address members names values) (within : slot.Within store.size)
    (denotes : store.Denotes slot value) : (store.copy slot).2.Supplies address (store.copy slot).1 value where
  within := copy_within presents.closed within
  apart := (copy_apart presents.closed within).mono fun other own => by
    rw [Own, (copy_extends store slot).cells address presents.describes.inside] at own
    exact presents.describes.own_inside own
  denotes := (denotes_copy presents.closed within).mpr denotes

/-- A new object supplies what its entries do. -/
theorem Presents.supplies_push {cell : Cell} {fields : List (Key × Json)}
    (presents : store.Presents address members names values) (related : Fields.Rel (store.Supplies address) cell fields) :
    (store.push cell).Supplies address (.node store.size) (.object fields) := by
  have grown := Extends.push store cell
  have inside := presents.describes.inside
  have pushed : (store.push cell).cell store.size = cell := by rw [cell_push, if_pos rfl]
  have entries := related.imp fun _ _ _ supplies => supplies.extend presents.closed inside grown
  refine ⟨by simp, apart_node.mpr ⟨fun own => ?_, fun entry listed => ?_⟩, denotes_node.mpr ⟨fields, rfl, ?_⟩⟩
  · rw [Own, grown.cells address inside] at own
    exact absurd (presents.describes.own_inside own) (Nat.lt_irrefl _)
  · rw [pushed] at listed
    obtain ⟨_, supplies⟩ := entries.exists_of_mem listed
    exact supplies.apart
  · rw [pushed]
    exact entries.imp fun _ _ _ supplies => supplies.denotes

theorem Supplies.string (text : String) : store.Supplies address (.string text) (.string text) where
  within := Slot.within_of_addresses rfl
  apart := fun _ named => absurd named List.not_mem_nil
  denotes := denotes_string.mpr rfl

theorem Supplies.pair {first second : Slot} {value' : Json} (supplies : store.Supplies address first value)
    (supplies' : store.Supplies address second value') :
    store.Supplies address (.array [first, second]) (.array [value, value']) where
  within := by simpa using ⟨supplies.within, supplies'.within⟩
  apart := apart_array.mpr (by simpa using ⟨supplies.apart, supplies'.apart⟩)
  denotes := denotes_array.mpr ⟨_, rfl, .cons supplies.denotes (.cons supplies'.denotes .nil)⟩

/-- What another keyword of a schema holds is supplied once the schema has new properties. -/
theorem Presents.supplies_entry (presents : store.Presents address members names values)
    (related : Fields.Rel (store.Supplies address) members' values') {entry : Key × Slot}
    (listed : entry ∈ store.cell address) (denotes : store.Denotes entry.2 value) :
    (store.withMembers address members').Supplies address entry.2 value := by
  have inside := presents.describes.inside
  have within := closed_iff.mp presents.closed address entry listed
  have agrees : store.AgreesOff (store.withMembers address members') fun other => other = address ∨ store.size ≤ other := by
    intro other unchanged
    rw [not_or, Nat.not_le] at unchanged
    rw [cell_withMembers inside, if_neg (Ne.symm unchanged.1), if_neg (Nat.ne_of_lt unchanged.2)]
  have apart := (presents.finite.apart_self listed).or (presents.closed.apart within)
  have revises := presents.revises_withMembers related
  refine ⟨within.mono revises.size, (apart.agree agrees).mono fun other own => ?_, denotes.agree agrees apart⟩
  rcases own with same | found
  · exact .inl same
  · rw [cell_withMembers inside, if_pos rfl, Fields.get?_put_self] at found
    exact .inr (Nat.le_of_eq (by simpa using found))

end SchemaAlgebra.Store
