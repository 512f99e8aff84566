import SchemaAlgebra.Proofs.Json.Tree
import SchemaAlgebra.Proofs.Store.Denotation

/-!
Finite slots. A slot is finite exactly if all objects that it names are; and what is finite stays so while objects
that it does not lead back to are changed, as long as each of these is finite afterwards. What a finite object leads to
is smaller, so it never denotes the same.
-/

namespace SchemaAlgebra.Store

variable {store later : Store} {slot : Slot} {address : Nat}

/-- A slot denotes some value. -/
def Finite (store : Store) (slot : Slot) : Prop :=
  ∃ value, store.Denotes slot value

theorem finite_iff_isSome : store.Finite slot ↔ ∃ steps, (slot.tree? (store.treeWithin steps)).isSome = true := by
  simp only [Finite, Denotes, Option.isSome_iff_exists]
  exact exists_comm

/-- Some depth is enough for several finite objects. -/
theorem exists_depth {addresses : List Nat} (each : ∀ address ∈ addresses, store.Finite (.node address)) :
    ∃ steps, ∀ address ∈ addresses, (store.treeWithin steps address).isSome = true := by
  induction addresses with
  | nil => exact ⟨0, fun _ listed => absurd listed List.not_mem_nil⟩
  | cons first rest ih =>
      obtain ⟨here, others⟩ := List.forall_mem_cons.mp each
      obtain ⟨steps, read⟩ := finite_iff_isSome.mp here
      obtain ⟨more, reads⟩ := ih others
      refine ⟨max steps more, List.forall_mem_cons.mpr ⟨?_, fun address listed => ?_⟩⟩
      · exact isSome_treeWithin_mono (Nat.le_max_left _ _) read
      · exact isSome_treeWithin_mono (Nat.le_max_right _ _) (reads address listed)

theorem finite_slot : store.Finite slot ↔ ∀ address ∈ slot.addresses, store.Finite (.node address) := by
  constructor
  · intro finite address named
    obtain ⟨steps, read⟩ := finite_iff_isSome.mp finite
    exact finite_iff_isSome.mpr ⟨steps, (Slot.isSome_of_tree? slot).mp read address named⟩
  · intro each
    obtain ⟨steps, reads⟩ := exists_depth each
    exact finite_iff_isSome.mpr ⟨steps, (Slot.isSome_of_tree? slot).mpr reads⟩

theorem finite_node :
    store.Finite (.node address) ↔ ∀ other ∈ (store.cell address).addresses, store.Finite (.node other) := by
  constructor
  · intro finite other named
    obtain ⟨value, denotes⟩ := finite
    exact denotes.of_leads (.single named)
  · intro each
    obtain ⟨steps, reads⟩ := exists_depth each
    exact finite_iff_isSome.mpr ⟨steps + 1, (isSome_treeWithin_succ steps address).mpr reads⟩

theorem finite_of_entries (each : ∀ entry ∈ store.cell address, store.Finite entry.2) : store.Finite (.node address) := by
  refine finite_node.mpr fun other named => ?_
  obtain ⟨entry, listed, named⟩ := Cell.mem_addresses.mp named
  exact finite_slot.mp (each entry listed) other named

theorem Finite.entry (finite : store.Finite (.node address)) {entry : Key × Slot} (listed : entry ∈ store.cell address) :
    store.Finite entry.2 :=
  finite_slot.mpr fun other named => finite_node.mp finite other (Cell.mem_addresses.mpr ⟨entry, listed, named⟩)

/-- What a slot names is not larger than the slot. -/
theorem Denotes.sizeOf_le {part whole : Json} (inner : store.Denotes (.node address) part) : ∀ {slot : Slot},
    store.Denotes slot whole → address ∈ slot.addresses → sizeOf part ≤ sizeOf whole := by
  induction whole using Json.treeInduction with
  | array values ih =>
      intro slot denotes named
      obtain ⟨items, rfl, each⟩ := denotes.eq_array
      obtain ⟨item, listed, named⟩ := Slot.mem_itemAddresses.mp named
      obtain ⟨value, among, read⟩ := exists_of_forall₂ (List.Forall₂.flip each) listed
      refine Nat.le_trans (ih value among read named) ?_
      have less := List.sizeOf_lt_of_mem among
      rw [Json.array.sizeOf_spec]
      omega
  | object fields ih =>
      intro slot denotes named
      obtain ⟨other, rfl, -⟩ := denotes.eq_node
      obtain rfl := List.mem_singleton.mp named
      exact Nat.le_of_eq (congrArg sizeOf (inner.unique denotes))
  | scalar value notArray notObject =>
      intro slot denotes named
      cases slot with
      | array items =>
          obtain ⟨_, rfl, -⟩ := denotes_array.mp denotes
          cases notArray
      | node other =>
          obtain ⟨_, rfl, -⟩ := denotes_node.mp denotes
          cases notObject
      | _ => cases named

/-- What an object names is smaller than the object. -/
theorem Denotes.sizeOf_lt {other : Nat} {part whole : Json} (denotes : store.Denotes (.node address) whole)
    (named : other ∈ (store.cell address).addresses) (inner : store.Denotes (.node other) part) :
    sizeOf part < sizeOf whole := by
  obtain ⟨fields, rfl, each⟩ := denotes_node.mp denotes
  obtain ⟨entry, listed, named⟩ := Cell.mem_addresses.mp named
  obtain ⟨field, among, -, read⟩ : ∃ field ∈ fields, entry.1 = field.1 ∧ store.Denotes entry.2 field.2 :=
    exists_of_forall₂ (List.Forall₂.flip each) listed
  have less := inner.sizeOf_le read named
  have inside := List.sizeOf_lt_of_mem among
  have entry' : sizeOf field = 1 + sizeOf field.1 + sizeOf field.2 := rfl
  rw [Json.object.sizeOf_spec]
  omega

/-- What is named by what a finite object leads to is smaller than the object. -/
theorem Denotes.sizeOf_lt_of_leads {middle other : Nat} {part whole : Json} (denotes : store.Denotes (.node address) whole)
    (leads : store.Leads address middle) (named : other ∈ (store.cell middle).addresses)
    (inner : store.Denotes (.node other) part) : sizeOf part < sizeOf whole := by
  induction leads generalizing other part with
  | refl => exact denotes.sizeOf_lt named inner
  | @tail middle next leads further ih =>
      obtain ⟨between, read⟩ := denotes.of_leads (leads.tail further)
      exact Nat.lt_trans (read.sizeOf_lt named inner) (ih further read)

/-- What comes to an object from which it is come to again has no end. -/
theorem not_finite_of_turn {start turn next : Nat} (leads : store.Leads start turn)
    (named : next ∈ (store.cell turn).addresses) (back : store.Leads next start) : ¬ store.Finite (.node start) := by
  rintro ⟨value, denotes⟩
  obtain ⟨value', denotes'⟩ := denotes.of_leads leads
  exact denotes'.acyclic named (back.trans leads)

/-- A finite object is not reached from what it holds. -/
theorem Finite.apart_self (finite : store.Finite (.node address)) {entry : Key × Slot}
    (listed : entry ∈ store.cell address) : store.Apart (· = address) entry.2 := by
  rintro other named _ leads rfl
  obtain ⟨value, denotes⟩ := finite
  exact denotes.acyclic (Cell.mem_addresses.mpr ⟨entry, listed, named⟩) leads

/-- A finite object stays so with one more entry, if that denotes something and does not lead back to it. -/
theorem denotes_put {key : Key} {value : Json} {fields : List (Key × Json)} (inside : address < store.size)
    (denotes : store.Denotes (.node address) (.object fields)) (apart : store.Apart (· = address) slot)
    (given : store.Denotes slot value) :
    (store.replace address (Fields.put (store.cell address) key slot)).Denotes (.node address)
      (.object (Fields.put fields key value)) := by
  have agrees : store.AgreesOff (store.replace address (Fields.put (store.cell address) key slot)) (· = address) := by
    intro other different
    rw [cell_replace _ _ _ _ inside, if_neg (Ne.symm different)]
  have finite : store.Finite (.node address) := ⟨_, denotes⟩
  obtain ⟨_, ⟨⟩, each⟩ := denotes_node.mp denotes
  refine denotes_node.mpr ⟨_, rfl, ?_⟩
  rw [cell_replace _ _ _ _ inside, if_pos rfl]
  refine Fields.Rel.put (Fields.Rel.imp each fun entry listed other denotes => ?_) key (given.agree agrees apart)
  exact denotes.agree agrees (finite.apart_self listed)

/-- A finite object stays so with one entry less. -/
theorem denotes_erase {key : Key} {fields : List (Key × Json)} (inside : address < store.size)
    (denotes : store.Denotes (.node address) (.object fields)) :
    (store.replace address (Fields.erase (store.cell address) key)).Denotes (.node address)
      (.object (Fields.erase fields key)) := by
  have agrees : store.AgreesOff (store.replace address (Fields.erase (store.cell address) key)) (· = address) := by
    intro other different
    rw [cell_replace _ _ _ _ inside, if_neg (Ne.symm different)]
  have finite : store.Finite (.node address) := ⟨_, denotes⟩
  obtain ⟨_, ⟨⟩, each⟩ := denotes_node.mp denotes
  refine denotes_node.mpr ⟨_, rfl, ?_⟩
  rw [cell_replace _ _ _ _ inside, if_pos rfl]
  refine Fields.Rel.erase (Fields.Rel.imp each fun entry listed other denotes => ?_) key
  exact denotes.agree agrees (finite.apart_self listed)

/-- An object has no end with an entry that leads back to it. -/
theorem endless_put {key : Key} (inside : address < store.size) (entangled : ¬ store.Apart (· = address) slot) :
    (store.replace address (Fields.put (store.cell address) key slot)).tree? (.node address) = none := by
  set later := store.replace address (Fields.put (store.cell address) key slot) with same
  have agrees : later.AgreesOff store (· = address) := by
    intro other different
    rw [same, cell_replace _ _ _ _ inside, if_neg (Ne.symm different)]
  have entry : (key, slot) ∈ later.cell address := by
    rw [same, cell_replace _ _ _ _ inside, if_pos rfl]
    exact Fields.mem_of_get? (Fields.get?_put_self ..)
  by_contra endless
  obtain ⟨value, read⟩ := Option.ne_none_iff_exists'.mp endless
  have finite : later.Finite (.node address) := ⟨value, _, read⟩
  exact entangled ((finite.apart_self entry).agree agrees)

theorem remains_node (closed : store.Closed)
    (kept : ∀ other < store.size, other ≠ address → later.cell other = store.cell other ∨ later.Finite (.node other))
    (steps : Nat) : ∀ start < store.size, (∀ other, store.Leads start other → other ≠ address) →
      (store.treeWithin steps start).isSome = true → later.Finite (.node start) := by
  induction steps with
  | zero => exact fun _ _ _ read => by simp [treeWithin] at read
  | succ steps ih =>
      intro start inside apart read
      rcases kept start inside (apart start .refl) with same | finite
      · refine finite_node.mpr fun other named => ?_
        rw [same] at named
        exact ih other (closed start other named) (fun further leads => apart further (.head named leads))
          ((isSome_treeWithin_succ steps start).mp read other named)
      · exact finite

/-- What is finite and does not lead to a changed object stays finite, if each other object is as it was or is finite
now. -/
theorem Finite.remains (closed : store.Closed)
    (kept : ∀ other < store.size, other ≠ address → later.cell other = store.cell other ∨ later.Finite (.node other))
    (within : slot.Within store.size) (apart : store.Apart (· = address) slot) (finite : store.Finite slot) :
    later.Finite slot := by
  obtain ⟨steps, read⟩ := finite_iff_isSome.mp finite
  exact finite_slot.mpr fun start named => remains_node closed kept steps start (within start named)
    (apart start named) ((Slot.isSome_of_tree? slot).mp read start named)

end SchemaAlgebra.Store
