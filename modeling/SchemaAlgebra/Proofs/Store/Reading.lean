import Mathlib.Data.Fintype.Card
import Mathlib.Data.List.Forall2
import Mathlib.Logic.Relation
import SchemaAlgebra.Store.Tree

/-!
What slots denote. A slot denotes a value if reading it to some depth gives that value. In a store whose
objects name only objects of the store, the number of objects is depth enough: on the way down a finite
value no object is met twice. What a slot denotes depends only on the objects that can be reached from it.
-/

namespace SchemaAlgebra

/-- Induction on slots: a list follows from its items. -/
@[elab_as_elim]
theorem Slot.itemInduction {motive : Slot → Prop}
    (array : ∀ items, (∀ item ∈ items, motive item) → motive (.array items))
    (node : ∀ address, motive (.node address))
    (scalar : ∀ slot : Slot, slot.addresses = [] → (∀ follow, slot.tree? follow = some slot.face) →
      (∀ place, slot.relocate place = slot) → motive slot) : ∀ slot, motive slot
  | .array items => array items fun item _ => itemInduction array node scalar item
  | .node address => node address
  | .null => scalar _ rfl (fun _ => rfl) fun _ => rfl
  | .bool _ => scalar _ rfl (fun _ => rfl) fun _ => rfl
  | .int _ => scalar _ rfl (fun _ => rfl) fun _ => rfl
  | .double _ => scalar _ rfl (fun _ => rfl) fun _ => rfl
  | .string _ => scalar _ rfl (fun _ => rfl) fun _ => rfl
  | .foreign _ => scalar _ rfl (fun _ => rfl) fun _ => rfl
termination_by slot => sizeOf slot
decreasing_by
  have := List.sizeOf_lt_of_mem ‹_ ∈ items›
  simp only [Slot.array.sizeOf_spec]
  omega

namespace Slot

variable {follow later : Nat → Option Json}

theorem mem_itemAddresses {items : List Slot} {address : Nat} :
    address ∈ itemAddresses items ↔ ∃ item ∈ items, address ∈ item.addresses := by
  induction items with
  | nil => simp [itemAddresses]
  | cons item rest ih => simp [itemAddresses, ih]

theorem itemTrees?_eq_some {items : List Slot} {values : List Json} :
    itemTrees? follow items = some values ↔
      List.Forall₂ (fun item value => item.tree? follow = some value) items values := by
  induction items generalizing values with
  | nil => cases values <;> simp [itemTrees?]
  | cons item rest ih =>
      cases values with
      | nil => simp [itemTrees?, Option.bind_eq_bind, Option.bind_eq_some_iff]
      | cons value values =>
          simp only [itemTrees?, Option.bind_eq_bind, Option.bind_eq_some_iff, Option.pure_def,
            Option.some.injEq, List.cons.injEq, List.forall₂_cons]
          constructor
          · rintro ⟨first, found, others, found', rfl, rfl⟩
            exact ⟨found, ih.mp found'⟩
          · rintro ⟨found, found'⟩
            exact ⟨value, found, values, ih.mpr found', rfl, rfl⟩

theorem tree?_array {items : List Slot} {value : Json} :
    (Slot.array items).tree? follow = some value ↔
      ∃ values, value = .array values ∧
        List.Forall₂ (fun item value => item.tree? follow = some value) items values := by
  simp only [tree?, Option.map_eq_some_iff, itemTrees?_eq_some]
  exact exists_congr fun values => ⟨fun ⟨read, same⟩ => ⟨same.symm, read⟩, fun ⟨same, read⟩ => ⟨read, same.symm⟩⟩

/-- A slot is read alike if the objects that it names are. -/
theorem tree?_of_follow (slot : Slot) :
    (∀ address ∈ slot.addresses, ∀ value, follow address = some value → later address = some value) →
      ∀ value, slot.tree? follow = some value → slot.tree? later = some value := by
  induction slot using Slot.itemInduction with
  | array items ih =>
      intro alike value read
      obtain ⟨values, rfl, each⟩ := tree?_array.mp read
      refine tree?_array.mpr ⟨values, rfl, ?_⟩
      have items_alike : ∀ item ∈ items, ∀ value, item.tree? follow = some value →
          item.tree? later = some value := fun item member => ih item member fun address named =>
        alike address (mem_itemAddresses.mpr ⟨item, member, named⟩)
      clear ih alike read
      induction each with
      | nil => exact .nil
      | cons first _ ih =>
          refine .cons (items_alike _ (by simp) _ first) (ih fun item member => ?_)
          exact items_alike item (by simp [member])
  | node address => exact fun alike value read => alike address (by simp [addresses]) value read
  | scalar slot _ same _ =>
      intro _ value read
      rw [same] at read ⊢
      exact read

theorem isSome_of_tree? (slot : Slot) :
    (slot.tree? follow).isSome = true ↔ ∀ address ∈ slot.addresses, (follow address).isSome = true := by
  induction slot using Slot.itemInduction with
  | array items ih =>
      simp only [tree?, Option.isSome_map, addresses, mem_itemAddresses]
      induction items with
      | nil => simp [itemTrees?]
      | cons item rest ih' =>
          have first := ih item (by simp)
          have later := ih' fun other member => ih other (by simp [member])
          have both : (itemTrees? follow (item :: rest)).isSome = true ↔
              (item.tree? follow).isSome = true ∧ (itemTrees? follow rest).isSome = true := by
            simp only [itemTrees?, Option.bind_eq_bind]
            cases item.tree? follow <;> cases itemTrees? follow rest <;> simp
          rw [both, first, later]
          simp only [List.exists_mem_cons_iff]
          constructor
          · rintro ⟨first, later⟩ address (named | named)
            · exact first address named
            · exact later address named
          · intro all
            exact ⟨fun address named => all address (.inl named), fun address named => all address (.inr named)⟩
  | node address => simp [tree?, addresses]
  | scalar slot none same _ => simp [same, none]

theorem tree?_congr {slot : Slot} (alike : ∀ address ∈ slot.addresses, follow address = later address) :
    slot.tree? follow = slot.tree? later := by
  refine Option.ext fun value => ⟨?_, ?_⟩
  · exact slot.tree?_of_follow (fun address named _ => by rw [alike address named]; exact id) value
  · exact slot.tree?_of_follow (fun address named _ => by rw [alike address named]; exact id) value

end Slot

namespace Cell

variable {follow later : Nat → Option Json}

theorem trees?_eq_some {cell : Cell} {fields : List (Key × Json)} :
    cell.trees? follow = some fields ↔
      List.Forall₂ (fun entry field => entry.1 = field.1 ∧ entry.2.tree? follow = some field.2)
        cell fields := by
  induction cell generalizing fields with
  | nil => cases fields <;> simp [trees?]
  | cons entry rest ih =>
      obtain ⟨key, slot⟩ := entry
      cases fields with
      | nil => simp [trees?, Option.bind_eq_bind, Option.bind_eq_some_iff]
      | cons field fields =>
          obtain ⟨key', value⟩ := field
          simp only [trees?, Option.bind_eq_bind, Option.bind_eq_some_iff, Option.pure_def,
            Option.some.injEq, List.cons.injEq, Prod.mk.injEq, List.forall₂_cons]
          constructor
          · rintro ⟨first, found, others, found', ⟨rfl, rfl⟩, rfl⟩
            exact ⟨⟨rfl, found⟩, ih.mp found'⟩
          · rintro ⟨⟨rfl, found⟩, found'⟩
            exact ⟨value, found, fields, ih.mpr found', ⟨rfl, rfl⟩, rfl⟩

theorem mem_addresses {cell : Cell} {address : Nat} :
    address ∈ cell.addresses ↔ ∃ entry ∈ cell, address ∈ entry.2.addresses := by
  simp [addresses, List.mem_flatMap]

theorem trees?_congr {cell : Cell} (alike : ∀ address ∈ cell.addresses, follow address = later address) :
    cell.trees? follow = cell.trees? later := by
  induction cell with
  | nil => rfl
  | cons entry rest ih =>
      obtain ⟨key, slot⟩ := entry
      simp only [addresses, List.flatMap_cons, List.mem_append] at alike
      rw [trees?, trees?, Slot.tree?_congr fun address named => alike address (.inl named),
        ih fun address named => alike address (.inr named)]

theorem isSome_of_trees? (cell : Cell) :
    (cell.trees? follow).isSome = true ↔ ∀ address ∈ cell.addresses, (follow address).isSome = true := by
  induction cell with
  | nil => simp [trees?, addresses]
  | cons entry rest ih =>
      obtain ⟨key, slot⟩ := entry
      have both : (trees? follow ((key, slot) :: rest)).isSome = true ↔
          (slot.tree? follow).isSome = true ∧ (trees? follow rest).isSome = true := by
        simp only [trees?, Option.bind_eq_bind]
        cases slot.tree? follow <;> cases trees? follow rest <;> simp
      rw [both, ih, Slot.isSome_of_tree?]
      simp only [addresses, List.flatMap_cons, List.mem_append]
      constructor
      · rintro ⟨first, later⟩ address (named | named)
        · exact first address named
        · exact later address named
      · intro all
        exact ⟨fun address named => all address (.inl named), fun address named => all address (.inr named)⟩

end Cell

namespace Store

variable {store later : Store}

theorem isSome_treeWithin_succ (steps address : Nat) :
    (store.treeWithin (steps + 1) address).isSome = true ↔
      ∀ other ∈ (store.cell address).addresses, (store.treeWithin steps other).isSome = true := by
  rw [treeWithin, Option.isSome_map, Cell.isSome_of_trees?]

/-- What is read to a depth is read to any greater depth. -/
theorem treeWithin_mono {steps more : Nat} (less : steps ≤ more) :
    ∀ address value, store.treeWithin steps address = some value →
      store.treeWithin more address = some value := by
  induction steps generalizing more with
  | zero => intro address value read; simp [treeWithin] at read
  | succ steps ih =>
      obtain ⟨more, rfl⟩ : ∃ rest, more = rest + 1 := ⟨more - 1, by omega⟩
      intro address value read
      simp only [treeWithin, Option.map_eq_some_iff, Cell.trees?_eq_some] at read ⊢
      obtain ⟨fields, each, rfl⟩ := read
      refine ⟨fields, each.imp fun entry field read => ⟨read.1, ?_⟩, rfl⟩
      exact Slot.tree?_of_follow entry.2 (fun other _ => ih (by omega) other) _ read.2

theorem isSome_treeWithin_mono {steps more : Nat} (less : steps ≤ more) {address : Nat}
    (read : (store.treeWithin steps address).isSome = true) :
    (store.treeWithin more address).isSome = true := by
  obtain ⟨value, read⟩ := Option.isSome_iff_exists.mp read
  rw [treeWithin_mono less address value read]
  rfl

/-- Every object names objects of the store only. -/
def Closed (store : Store) : Prop :=
  ∀ address, ∀ other ∈ (store.cell address).addresses, other < store.size

/-- An object is read to one more step than a number and not to that number. -/
def HasDepth (store : Store) (address steps : Nat) : Prop :=
  store.treeWithin steps address = none ∧ (store.treeWithin (steps + 1) address).isSome = true

theorem HasDepth.unique {address steps steps' : Nat} (first : store.HasDepth address steps)
    (second : store.HasDepth address steps') : steps = steps' := by
  rcases Nat.lt_trichotomy steps steps' with less | same | less
  · have := isSome_treeWithin_mono (show steps + 1 ≤ steps' by omega) first.2
    simp [second.1] at this
  · exact same
  · have := isSome_treeWithin_mono (show steps' + 1 ≤ steps by omega) second.2
    simp [first.1] at this

theorem HasDepth.below {address steps : Nat} (deep : store.HasDepth address (steps + 1)) :
    ∃ other ∈ (store.cell address).addresses, store.HasDepth other steps := by
  have all := (isSome_treeWithin_succ _ _).mp deep.2
  have some : ¬ ∀ other ∈ (store.cell address).addresses, (store.treeWithin steps other).isSome = true := by
    rw [← isSome_treeWithin_succ, deep.1]
    simp
  push Not at some
  obtain ⟨other, named, missing⟩ := some
  exact ⟨other, named, by simpa using missing, all other named⟩

theorem HasDepth.each {address steps : Nat} (closed : store.Closed) (inside : address < store.size)
    (deep : store.HasDepth address steps) :
    ∀ less ≤ steps, ∃ other < store.size, store.HasDepth other less := by
  induction steps generalizing address with
  | zero =>
      intro less bound
      obtain rfl : less = 0 := by omega
      exact ⟨address, inside, deep⟩
  | succ steps ih =>
      intro less bound
      rcases Nat.lt_or_ge steps less with top | lower
      · obtain rfl : less = steps + 1 := by omega
        exact ⟨address, inside, deep⟩
      · obtain ⟨other, named, deep'⟩ := deep.below
        exact ih (closed address other named) deep' less lower

/-- An object is no deeper than the store is large: all objects on the way down differ. -/
theorem HasDepth.lt_size {address steps : Nat} (closed : store.Closed) (inside : address < store.size)
    (deep : store.HasDepth address steps) : steps < store.size := by
  have each := deep.each closed inside
  choose chosen within has using each
  have injective : Function.Injective fun less : Fin (steps + 1) =>
      (⟨chosen less (by omega), within less (by omega)⟩ : Fin store.size) := by
    intro first second same
    have same' : chosen first (by omega) = chosen second (by omega) := congrArg Fin.val same
    have depth := has second (by omega)
    rw [← same'] at depth
    exact Fin.ext ((has first (by omega)).unique depth)
  have few := Fintype.card_le_of_injective _ injective
  rwa [Fintype.card_fin, Fintype.card_fin] at few

theorem treeWithin_size {address steps : Nat} {value : Json} (closed : store.Closed)
    (inside : address < store.size) (read : store.treeWithin steps address = some value) :
    store.treeWithin store.size address = some value := by
  rcases Nat.le_total steps store.size with less | more
  · exact treeWithin_mono less address value read
  · have deep : ∀ steps ≥ store.size, (store.treeWithin steps address).isSome = true →
        (store.treeWithin store.size address).isSome = true := by
      intro steps more
      induction steps, more using Nat.le_induction with
      | base => exact id
      | succ steps more ih =>
          intro read
          refine ih ?_
          by_contra missing
          have none : store.treeWithin steps address = none := by simpa using missing
          have := HasDepth.lt_size closed inside ⟨none, read⟩
          omega
    obtain ⟨value', read'⟩ := Option.isSome_iff_exists.mp (deep steps more (by simp [read]))
    rw [read', ← read, treeWithin_mono more address value' read']

end Store

end SchemaAlgebra
