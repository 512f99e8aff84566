import SchemaAlgebra.Proofs.Store.Finite
import SchemaAlgebra.Proofs.Store.Placing

/-!
Separation. Some objects are kept: they stay as they are, and what was apart from them stays apart. New objects,
and new entries of an object that is apart, do so, as long as what they hold is apart.
-/

namespace SchemaAlgebra

namespace Store

variable {kept : Nat → Prop} {store later last : Store} {slot : Slot}

/-- Kept objects are the same in a later store, and what is apart from them is so there. -/
structure Keeps (kept : Nat → Prop) (store later : Store) : Prop where
  size : store.size ≤ later.size
  cells : ∀ address, kept address → later.cell address = store.cell address
  apart : ∀ {slot : Slot}, slot.Within store.size → store.Apart kept slot → later.Apart kept slot

theorem Keeps.refl : store.Keeps kept store :=
  ⟨Nat.le_refl _, fun _ _ => rfl, fun _ apart => apart⟩

theorem Keeps.trans (first : Keeps kept store later) (second : Keeps kept later last) : Keeps kept store last where
  size := Nat.le_trans first.size second.size
  cells address same := (second.cells address same).trans (first.cells address same)
  apart within apart := second.apart (within.mono first.size) (first.apart within apart)

theorem apart_of_addresses (none : slot.addresses = []) : store.Apart kept slot :=
  fun _ named => absurd (none ▸ named) List.not_mem_nil

/-- In a store that extends a closed one, a slot is apart from what it was apart from. -/
theorem Apart.extend (apart : store.Apart kept slot) (extends' : store.Extends later) (closed : store.Closed)
    (within : slot.Within store.size) : later.Apart kept slot :=
  fun address named other leads =>
    apart address named other (leads_of_agreesOff extends'.agrees (closed.apart within address named) leads)

theorem Extends.keeps (extends' : store.Extends later) (closed : store.Closed)
    (inside : ∀ address, kept address → address < store.size) :
    Keeps kept store later where
  size := extends'.size
  cells address same := extends'.cells address (inside address same)
  apart within apart := apart.extend extends' closed within

/-- A new object is apart from what all that it holds is apart from. -/
theorem apart_push {cell : Cell} (closed : store.Closed) (inside : ∀ address, kept address → address < store.size)
    (within : cell.Within store.size) (apart : ∀ entry ∈ cell, store.Apart kept entry.2) :
    (store.push cell).Apart kept (.node store.size) := by
  rw [apart_node, cell_push, if_pos rfl]
  exact ⟨fun same => Nat.lt_irrefl _ (inside _ same), fun entry listed =>
    (apart entry listed).extend (.push store cell) closed (within entry listed)⟩

/-- An object that is apart may be replaced by one that holds only what is apart. -/
theorem keeps_replace {place : Nat} {cell : Cell} (own : store.Apart kept (.node place))
    (apart : ∀ entry ∈ cell, store.Apart kept entry.2) : Keeps kept store (store.replace place cell) where
  size := by simp
  cells address same := by
    rw [cell_replace_eq, if_neg]
    rintro ⟨rfl, -⟩
    exact own.not_changed same
  apart {slot} _ before := by
    intro address named other leads
    suffices store.Apart kept (.node other) from this.not_changed
    induction leads with
    | refl => exact fun other same => before other (by rwa [List.mem_singleton.mp same])
    | @tail middle other _ named ih =>
        intro start same
        obtain rfl := List.mem_singleton.mp same
        obtain ⟨entry, listed, named⟩ := Cell.mem_addresses.mp named
        rw [cell_replace_eq] at listed
        split at listed
        · exact apart entry listed start named
        · exact ih.entry listed start named

end Store

namespace Json

variable {kept : Nat → Prop}

/-- Putting the value into a closed store gives a slot that is apart from whatever was there. -/
def PlacedApart (value : Json) : Prop :=
  ∀ {kept : Nat → Prop} {store : Store}, store.Closed → (∀ address, kept address → address < store.size) →
    (value.place store).2.Apart kept (value.place store).1

theorem placeItems_apart {items : List Json} (each : ∀ item ∈ items, item.PlacedApart) : ∀ {store : Store},
    store.Closed →
    (∀ address, kept address → address < store.size) →
      ∀ slot ∈ (placeItems items store).1, (placeItems items store).2.Apart kept slot := by
  induction items with
  | nil => exact fun _ _ _ listed => absurd listed List.not_mem_nil
  | cons item rest ih =>
      intro store closed inside slot listed
      obtain ⟨here, others⟩ := List.forall_mem_cons.mp each
      have first := placed item store closed
      have inside' address (same : kept address) :=
        Nat.lt_of_lt_of_le (inside address same) first.grows.extends'.size
      rcases List.mem_cons.mp listed with rfl | listed
      · exact (here closed inside).extend (placeItems_extends_of (fun item _ => item.place_extends) _)
          first.grows.closed
          first.within
      · exact ih others first.grows.closed inside' slot listed

theorem placeFields_apart {fields : List (Key × Json)} (each : ∀ entry ∈ fields, entry.2.PlacedApart) :
    ∀ {store : Store}, store.Closed → (∀ address, kept address → address < store.size) →
      ∀ entry ∈ (placeFields fields store).1, (placeFields fields store).2.Apart kept entry.2 := by
  induction fields with
  | nil => exact fun _ _ _ listed => absurd listed List.not_mem_nil
  | cons entry rest ih =>
      obtain ⟨key, value⟩ := entry
      intro store closed inside entry listed
      obtain ⟨here, others⟩ := List.forall_mem_cons.mp each
      have first := placed value store closed
      have inside' address (same : kept address) :=
        Nat.lt_of_lt_of_le (inside address same) first.grows.extends'.size
      rcases List.mem_cons.mp listed with rfl | listed
      · exact (here closed inside).extend (placeFields_extends rest _) first.grows.closed first.within
      · exact ih others first.grows.closed inside' entry listed

theorem place_apart (value : Json) : value.PlacedApart := by
  induction value using Json.treeInduction with
  | array items ih => exact fun closed inside => Store.apart_array.mpr (placeItems_apart ih closed inside)
  | object fields ih =>
      intro kept store closed inside
      have fieldsPlaced : FieldsPlaced store fields := fieldsPlaced (fun entry _ => placed entry.2) store closed
      have inside' address (same : kept address) :=
        Nat.lt_of_lt_of_le (inside address same) fieldsPlaced.grows.extends'.size
      rw [place_object]
      exact Store.apart_push fieldsPlaced.grows.closed inside' fieldsPlaced.within
        (placeFields_apart ih closed inside)
  | scalar value notArray notObject =>
      intro kept store _ _
      cases value with
      | array _ => simp [isArray] at notArray
      | object _ => simp [isObject] at notObject
      | _ => exact Store.apart_of_addresses rfl

end Json

/-!
Amending one object. New objects are added, and one that was there comes to hold them, in such a way that it still leads
to all that it held. What does not lead to it is read as before. And what comes back to where it is held by way of it
still does so, and so has no end before and after.
-/

namespace Store

variable {place : Nat} {store later last : Store} {slot : Slot}

/-- One object is amended, and new ones are added. -/
structure Amends (place : Nat) (store later : Store) : Prop where
  closed : later.Closed
  size : store.size ≤ later.size
  cells : ∀ other < store.size, other ≠ place → later.cell other = store.cell other
  reaches : ∀ other ∈ (store.cell place).addresses, ∃ next ∈ (later.cell place).addresses, later.Leads next other

namespace Amends

theorem refl (closed : store.Closed) : Amends place store store :=
  ⟨closed, Nat.le_refl _, fun _ _ _ => rfl, fun other named => ⟨other, named, .refl⟩⟩

variable (amends : Amends place store later)

include amends

/-- Every object still leads to what it named. -/
theorem step {address other : Nat} (named : other ∈ (store.cell address).addresses) :
    ∃ next ∈ (later.cell address).addresses, later.Leads next other := by
  by_cases here : address = place
  · exact here ▸ amends.reaches other (here ▸ named)
  · have inside : address < store.size := by
      by_contra outside
      rw [cell_of_size_le (Nat.le_of_not_lt outside)] at named
      cases named
    exact ⟨other, by rwa [amends.cells address inside here], .refl⟩

theorem leads {address other : Nat} (leads : store.Leads address other) : later.Leads address other := by
  induction leads with
  | refl => exact .refl
  | tail _ named ih =>
      obtain ⟨next, named, leads⟩ := amends.step named
      exact ih.trans (.head named leads)

theorem trans (second : Amends place later last) : Amends place store last where
  closed := second.closed
  size := Nat.le_trans amends.size second.size
  cells other inside different := by
    rw [second.cells other (Nat.lt_of_lt_of_le inside amends.size) different, amends.cells other inside different]
  reaches other named := by
    obtain ⟨middle, named, leads⟩ := amends.reaches other named
    obtain ⟨next, named, leads'⟩ := second.reaches middle named
    exact ⟨next, named, leads'.trans (second.leads leads)⟩

theorem agrees : store.AgreesOff later fun address => address = place ∨ store.size ≤ address := by
  intro address same
  obtain ⟨different, inside⟩ := not_or.mp same
  exact amends.cells address (Nat.lt_of_not_le inside) different

/-- What does not lead to the amended object is read as before. -/
theorem tree?_of_apart (closed : store.Closed) (within : slot.Within store.size) (apart : store.Apart (· = place) slot) :
    later.tree? slot = store.tree? slot := by
  refine amends.agrees.tree? ?_ closed amends.closed within (within.mono amends.size)
  rintro address named other leads (same | outside)
  · exact apart address named other leads same
  · exact closed.apart within address named other leads outside

/-- What does not lead to the amended object still does not. -/
theorem apart (closed : store.Closed) (within : slot.Within store.size) (apart : store.Apart (· = place) slot) :
    later.Apart (· = place) slot := by
  intro address named other leads
  refine apart address named other (leads_of_agreesOff amends.agrees (fun further leads => ?_) leads)
  rintro (same | outside)
  · exact apart address named further leads same
  · exact closed.apart within address named further leads outside

/-- What an object holds is read as before if, should it lead to the amended object, it leads back to where it is held. -/
theorem tree?_of_turn (closed : store.Closed) {address : Nat} {entry : Key × Slot} (listed : entry ∈ store.cell address)
    (turns : ¬ store.Apart (· = place) entry.2 → ¬ store.Apart (· = address) entry.2) :
    later.tree? entry.2 = store.tree? entry.2 := by
  have within : entry.2.Within store.size := closed_iff.mp closed address entry listed
  by_cases apart : store.Apart (· = place) entry.2
  · exact amends.tree?_of_apart closed within apart
  · obtain ⟨start, named, turn, leads, rfl⟩ :
        ∃ start ∈ entry.2.addresses, ∃ turn, store.Leads start turn ∧ turn = address := by
      simpa [Apart] using turns apart
    have held := Cell.mem_addresses.mpr ⟨entry, listed, named⟩
    obtain ⟨next, held', back⟩ := amends.step held
    have endless : ¬ store.Finite entry.2 := fun finite =>
      not_finite_of_turn leads held .refl (finite_slot.mp finite start named)
    have endless' : ¬ later.Finite entry.2 := fun finite =>
      not_finite_of_turn (amends.leads leads) held' back (finite_slot.mp finite start named)
    have none {store : Store} (endless : ¬ store.Finite entry.2) : store.tree? entry.2 = none :=
      Option.eq_none_iff_forall_ne_some.mpr fun value read => endless ⟨value, _, read⟩
    rw [none endless, none endless']

end Amends

end Store

end SchemaAlgebra
