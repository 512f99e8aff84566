import SchemaAlgebra.Proofs.Fields
import SchemaAlgebra.Proofs.Store.Denotation
import SchemaAlgebra.Store.Basic

/-!
Copies denote what they are copies of. In a closed store the rounds of a search are enough to gather all that
can be reached from a slot; the copied objects name each other as the originals do, and nothing else, so a
copy is apart from everything that was there before.
-/

namespace SchemaAlgebra

namespace Store

variable {store : Store}

theorem mem_beyond {known : List Nat} {address : Nat} :
    address ∈ store.beyond known ↔
      address ∉ known ∧ ∃ other ∈ known, address ∈ (store.cell other).addresses := by
  simp only [beyond, List.mem_eraseDups, List.mem_filter, List.mem_flatMap, decide_eq_true_eq]
  exact and_comm

/-- What a search has gathered: different objects of the store, among them those that it began with, each
reached from one of these, and with each object all that it names. -/
structure Gathered (store : Store) (seeds gathered : List Nat) : Prop where
  nodup : gathered.Nodup
  within : ∀ address ∈ gathered, address < store.size
  begins : seeds ⊆ gathered
  reached : ∀ address ∈ gathered, ∃ seed ∈ seeds, store.Leads seed address
  closed : ∀ address ∈ gathered, ∀ other ∈ (store.cell address).addresses, other ∈ gathered

theorem Gathered.more {seeds known : List Nat} (closed : store.Closed) (nodup : known.Nodup)
    (within : ∀ address ∈ known, address < store.size)
    (reached : ∀ address ∈ known, ∃ seed ∈ seeds, store.Leads seed address) :
    (known ++ store.beyond known).Nodup ∧ (∀ address ∈ known ++ store.beyond known, address < store.size) ∧
      ∀ address ∈ known ++ store.beyond known, ∃ seed ∈ seeds, store.Leads seed address := by
  refine ⟨?_, fun address listed => ?_, fun address listed => ?_⟩
  · refine List.nodup_append'.mpr ⟨nodup, nodup_eraseDups _, fun address listed listed' => ?_⟩
    exact (mem_beyond.mp listed').1 listed
  · rcases List.mem_append.mp listed with listed | listed
    · exact within address listed
    · obtain ⟨-, other, -, named⟩ := mem_beyond.mp listed
      exact closed other address named
  · rcases List.mem_append.mp listed with listed | listed
    · exact reached address listed
    · obtain ⟨-, other, member, named⟩ := mem_beyond.mp listed
      obtain ⟨seed, member, leads⟩ := reached other member
      exact ⟨seed, member, leads.tail named⟩

/-- Rounds are enough when together with what is known they are as many as the objects of the store: each
round finds an object or is the last. -/
theorem gathered_reachWithin (closed : store.Closed) (seeds : List Nat) (steps : Nat) :
    ∀ known : List Nat, known.Nodup → (∀ address ∈ known, address < store.size) → seeds ⊆ known →
      (∀ address ∈ known, ∃ seed ∈ seeds, store.Leads seed address) →
      store.size ≤ steps + known.length → store.Gathered seeds (store.reachWithin steps known) := by
  induction steps with
  | zero =>
      intro known nodup within begins reached enough
      refine ⟨nodup, within, begins, reached, fun address member other named => ?_⟩
      by_contra missing
      have more : (other :: known) ⊆ List.range store.size := by
        intro place listed
        rcases List.mem_cons.mp listed with rfl | listed
        · exact List.mem_range.mpr (closed address _ named)
        · exact List.mem_range.mpr (within place listed)
      have distinct : (other :: known).Nodup := List.nodup_cons.mpr ⟨missing, nodup⟩
      have few := (List.subperm_of_subset distinct more).length_le
      rw [List.length_cons, List.length_range] at few
      omega
  | succ steps ih =>
      intro known nodup within begins reached enough
      obtain ⟨nodup', within', reached'⟩ := Gathered.more closed nodup within reached
      rw [reachWithin]
      cases found : store.beyond known with
      | nil =>
          refine ⟨nodup, within, begins, reached, fun address member other named => ?_⟩
          by_contra missing
          have beyond := mem_beyond.mpr ⟨missing, address, member, named⟩
          simp [found] at beyond
      | cons first rest =>
          rw [found] at nodup' within' reached'
          refine ih _ nodup' within' (fun address listed => List.mem_append_left _ (begins listed)) reached' ?_
          rw [List.length_append, List.length_cons]
          omega

theorem gathered_reach (closed : store.Closed) {slot : Slot} (within : slot.Within store.size) :
    store.Gathered slot.addresses (store.reach slot) := by
  refine gathered_reachWithin closed slot.addresses store.size _ (nodup_eraseDups _) ?_ ?_ ?_ (by omega)
  · exact fun address listed => within address (List.mem_eraseDups.mp listed)
  · exact fun address named => List.mem_eraseDups.mpr named
  · exact fun address listed => ⟨address, List.mem_eraseDups.mp listed, .refl⟩

end Store

namespace Slot

variable {follow : Nat → Option Json} {place : Nat → Nat}

theorem relocateItems_eq_map (items : List Slot) :
    relocateItems place items = items.map (Slot.relocate place) := by
  induction items with
  | nil => rfl
  | cons item rest ih => rw [relocateItems, ih, List.map_cons]

theorem addresses_relocate (slot : Slot) : (slot.relocate place).addresses = slot.addresses.map place := by
  induction slot using Slot.itemInduction with
  | array items ih =>
      simp only [relocate, addresses, relocateItems_eq_map]
      induction items with
      | nil => rfl
      | cons item rest ih' =>
          have later := ih' fun other member => ih other (by simp [member])
          simp only [List.map_cons, itemAddresses, List.map_append, ih item (by simp), later]
  | node address => rfl
  | scalar slot none _ fixed => rw [fixed, none, List.map_nil]

/-- A relocated slot is read as the original is, with the places followed instead. -/
theorem tree?_relocate (slot : Slot) :
    (slot.relocate place).tree? follow = slot.tree? fun address => follow (place address) := by
  induction slot using Slot.itemInduction with
  | array items ih =>
      simp only [relocate, tree?, relocateItems_eq_map]
      congr 1
      induction items with
      | nil => rfl
      | cons item rest ih' =>
          have later := ih' fun other member => ih other (by simp [member])
          simp only [List.map_cons, itemTrees?, ih item (by simp), later]
  | node address => rfl
  | scalar slot _ same fixed => rw [fixed, same, same]

end Slot

namespace Cell

variable {place : Nat → Nat}

theorem addresses_relocate (cell : Cell) : (cell.relocate place).addresses = cell.addresses.map place := by
  induction cell with
  | nil => rfl
  | cons entry rest ih =>
      simp only [relocate, addresses, List.map_cons, List.flatMap_cons, List.map_append] at ih ⊢
      rw [ih, Slot.addresses_relocate]

theorem trees?_relocate {follow : Nat → Option Json} (cell : Cell) :
    (cell.relocate place).trees? follow = cell.trees? fun address => follow (place address) := by
  induction cell with
  | nil => rfl
  | cons entry rest ih =>
      simp only [relocate, List.map_cons, trees?] at ih ⊢
      rw [ih, Slot.tree?_relocate]

end Cell

namespace Store

variable {store : Store} {slot : Slot}

theorem copyPlace_lt {reached : List Nat} {address : Nat} (member : address ∈ reached) :
    store.copyPlace reached address < store.size + reached.length :=
  Nat.add_lt_add_left (List.idxOf_lt_length_iff.mpr member) _

theorem size_copy (store : Store) (slot : Slot) :
    (store.copy slot).2.size = store.size + (store.reach slot).length := by
  simp [copy, size]

theorem copy_extends (store : Store) (slot : Slot) : store.Extends (store.copy slot).2 where
  size := by rw [size_copy]; omega
  cells address inside := by
    simp only [Store.cell, copy, Array.getD_eq_getD_getElem?]
    rw [Array.getElem?_append_left inside]

/-- The copy of an object that was reached. -/
theorem cell_copy {address : Nat} (member : address ∈ store.reach slot) :
    (store.copy slot).2.cell (store.copyPlace (store.reach slot) address) =
      (store.cell address).relocate (store.copyPlace (store.reach slot)) := by
  have inside := List.idxOf_lt_length_iff.mpr member
  simp only [Store.cell, copy, Array.getD_eq_getD_getElem?, copyPlace]
  rw [Array.getElem?_append_right (by simp [Store.size])]
  simp only [Store.size, Nat.add_sub_cancel_left, List.getElem?_toArray, List.getElem?_map,
    List.getElem?_eq_getElem inside, List.getElem_idxOf]
  rfl

/-- Each new object is the copy of one that was reached. -/
theorem exists_copyPlace {place : Nat} (new : store.size ≤ place)
    (inside : place < (store.copy slot).2.size) (nodup : (store.reach slot).Nodup) :
    ∃ address ∈ store.reach slot, store.copyPlace (store.reach slot) address = place := by
  rw [size_copy] at inside
  have bound : place - store.size < (store.reach slot).length := by omega
  refine ⟨(store.reach slot)[place - store.size], List.getElem_mem bound, ?_⟩
  rw [copyPlace, nodup.idxOf_getElem]
  omega

section

variable (closed : store.Closed) (within : slot.Within store.size)

include closed within

theorem copy_names_copies {place other : Nat} (new : store.size ≤ place)
    (named : other ∈ ((store.copy slot).2.cell place).addresses) :
    store.size ≤ other ∧ other < (store.copy slot).2.size := by
  have gathered := gathered_reach closed within
  rcases Nat.lt_or_ge place (store.copy slot).2.size with inside | outside
  · obtain ⟨address, member, rfl⟩ := exists_copyPlace new inside gathered.nodup
    rw [cell_copy member, Cell.addresses_relocate, List.mem_map] at named
    obtain ⟨original, named, rfl⟩ := named
    rw [size_copy]
    exact ⟨Nat.le_add_right _ _, copyPlace_lt (gathered.closed address member original named)⟩
  · rw [cell_of_size_le outside] at named
    simp [Cell.addresses] at named

theorem copy_within : (store.copy slot).1.Within (store.copy slot).2.size := by
  have gathered := gathered_reach closed within
  intro address named
  rw [copy, Slot.addresses_relocate, List.mem_map] at named
  obtain ⟨original, named, rfl⟩ := named
  rw [size_copy]
  exact copyPlace_lt (gathered.begins named)

theorem closed_copy : (store.copy slot).2.Closed := by
  intro address other named
  rcases Nat.lt_or_ge address store.size with old | new
  · rw [(copy_extends store slot).cells address old] at named
    exact Nat.lt_of_lt_of_le (closed address other named) (copy_extends store slot).size
  · exact (copy_names_copies closed within new named).2

/-- Nothing that was there before can be reached from a copy. -/
theorem copy_apart : (store.copy slot).2.Apart (fun address => address < store.size) (store.copy slot).1 := by
  intro address named other leads
  have new : store.size ≤ address := by
    rw [copy, Slot.addresses_relocate, List.mem_map] at named
    obtain ⟨original, -, rfl⟩ := named
    exact Nat.le_add_right _ _
  refine Nat.not_lt_of_le ?_
  induction leads with
  | refl => exact new
  | tail _ named ih => exact (copy_names_copies closed within ih named).1

theorem treeWithin_copy (steps : Nat) :
    ∀ address ∈ store.reach slot,
      (store.copy slot).2.treeWithin steps (store.copyPlace (store.reach slot) address) =
        store.treeWithin steps address := by
  have gathered := gathered_reach closed within
  induction steps with
  | zero => exact fun _ _ => rfl
  | succ steps ih =>
      intro address member
      rw [treeWithin, treeWithin, cell_copy member, Cell.trees?_relocate]
      congr 1
      exact Cell.trees?_congr fun other named => ih other (gathered.closed address member other named)

/-- The copy of what is reached denotes exactly what this denotes. -/
theorem denotes_relocate {part : Slot} {value : Json} (inside : ∀ address ∈ part.addresses, address ∈ store.reach slot) :
    (store.copy slot).2.Denotes (part.relocate (store.copyPlace (store.reach slot))) value ↔
      store.Denotes part value := by
  refine exists_congr fun steps => ?_
  rw [Slot.tree?_relocate, Slot.tree?_congr fun address named =>
    treeWithin_copy closed within steps address (inside address named)]

/-- A copy denotes exactly what the original denotes. -/
theorem denotes_copy {value : Json} :
    (store.copy slot).2.Denotes (store.copy slot).1 value ↔ store.Denotes slot value :=
  denotes_relocate closed within fun _ named => (gathered_reach closed within).begins named

/-- A copy is read as the original is, finite or not. -/
theorem tree?_copy : (store.copy slot).2.tree? (store.copy slot).1 = store.tree? slot := by
  refine Option.ext fun value => ?_
  rw [(closed_copy closed within).tree?_eq_some_iff (copy_within closed within),
    closed.tree?_eq_some_iff within]
  exact denotes_copy closed within

end

end Store

end SchemaAlgebra
