import SchemaAlgebra.Proofs.Json.Tree
import SchemaAlgebra.Proofs.Store.Denotation

/-!
Putting values into the store. New objects are added for the objects of the value, nothing else changes, and
the slot that comes out denotes the value.
-/

namespace SchemaAlgebra

/-- A later store is closed and extends an earlier one. -/
structure Store.Grows (store later : Store) : Prop where
  closed : later.Closed
  extends' : store.Extends later

theorem Store.Grows.trans {store later last : Store} (first : store.Grows later) (second : later.Grows last) :
    store.Grows last :=
  ⟨second.closed, first.extends'.trans second.extends'⟩

theorem Store.Closed.grows {store : Store} (closed : store.Closed) : store.Grows store :=
  ⟨closed, .refl store⟩

theorem Store.Closed.grows_push {store : Store} (closed : store.Closed) {cell : Cell}
    (within : cell.Within store.size) : store.Grows (store.push cell) :=
  ⟨closed.push within, .push store cell⟩

/-- What a slot denotes in a store that has grown, it denoted before. -/
theorem Store.Grows.denotes_iff {store later : Store} (grows : store.Grows later) (closed : store.Closed)
    {slot : Slot} (within : slot.Within store.size) {value : Json} :
    later.Denotes slot value ↔ store.Denotes slot value := by
  rw [← grows.closed.tree?_eq_some_iff (within.mono grows.extends'.size), ← closed.tree?_eq_some_iff within,
    grows.extends'.tree? closed grows.closed within]

/-- What a key is as a value needs no new object. -/
theorem Key.place_toJson (key : Key) (store : Store) : key.toJson.place store = (key.toSlot, store) := by
  cases key <;> rfl

namespace Json

theorem place_object (fields : List (Key × Json)) (store : Store) :
    (Json.object fields).place store = (.node (placeFields fields store).2.size,
      (placeFields fields store).2.push (placeFields fields store).1) :=
  rfl

theorem placeItems_extends_of {items : List Json}
    (each : ∀ item ∈ items, ∀ store : Store, store.Extends (item.place store).2) :
    ∀ store : Store, store.Extends (placeItems items store).2 := by
  induction items with
  | nil => exact .refl
  | cons item rest ih =>
      obtain ⟨first, later⟩ := List.forall_mem_cons.mp each
      exact fun store => (first store).trans (ih later _)

theorem placeFields_extends_of {fields : List (Key × Json)}
    (each : ∀ entry ∈ fields, ∀ store : Store, store.Extends (entry.2.place store).2) :
    ∀ store : Store, store.Extends (placeFields fields store).2 := by
  induction fields with
  | nil => exact .refl
  | cons entry rest ih =>
      obtain ⟨first, later⟩ := List.forall_mem_cons.mp each
      exact fun store => (first store).trans (ih later _)

theorem place_extends (value : Json) : ∀ store : Store, store.Extends (value.place store).2 := by
  induction value using Json.treeInduction with
  | array items ih => exact placeItems_extends_of ih
  | object fields ih => exact fun store => (placeFields_extends_of ih store).trans (.push _ _)
  | scalar value notArray notObject =>
      intro store
      cases value with
      | array _ => simp [Json.isArray] at notArray
      | object _ => simp [Json.isObject] at notObject
      | _ => exact .refl store

theorem placeFields_extends (fields : List (Key × Json)) :
    ∀ store : Store, store.Extends (placeFields fields store).2 :=
  placeFields_extends_of fun entry _ => entry.2.place_extends

/-- What putting a value into a store brings about. -/
structure Placed (store : Store) (value : Json) : Prop where
  grows : store.Grows (value.place store).2
  within : (value.place store).1.Within (value.place store).2.size
  denotes : (value.place store).2.Denotes (value.place store).1 value

structure ItemsPlaced (store : Store) (items : List Json) : Prop where
  grows : store.Grows (placeItems items store).2
  within : ∀ slot ∈ (placeItems items store).1, slot.Within (placeItems items store).2.size
  denotes : List.Forall₂ (placeItems items store).2.Denotes (placeItems items store).1 items

structure FieldsPlaced (store : Store) (fields : List (Key × Json)) : Prop where
  grows : store.Grows (placeFields fields store).2
  within : (placeFields fields store).1.Within (placeFields fields store).2.size
  denotes : (placeFields fields store).2.DenotesAll (placeFields fields store).1 fields

theorem itemsPlaced {items : List Json} (each : ∀ item ∈ items, ∀ store : Store, store.Closed → Placed store item) :
    ∀ store : Store, store.Closed → ItemsPlaced store items := by
  induction items with
  | nil => exact fun store closed => ⟨closed.grows, fun _ member => absurd member List.not_mem_nil, .nil⟩
  | cons item rest ih =>
      intro store closed
      have first := each item (by simp) store closed
      have later := ih (fun other member => each other (by simp [member])) (item.place store).2
        first.grows.closed
      have size := later.grows.extends'.size
      refine ⟨first.grows.trans later.grows, fun slot member => ?_, .cons ?_ later.denotes⟩
      · rcases List.mem_cons.mp member with rfl | member
        · exact first.within.mono size
        · exact later.within slot member
      · exact first.denotes.extend first.grows.closed first.within later.grows.extends'

theorem fieldsPlaced {fields : List (Key × Json)}
    (each : ∀ entry ∈ fields, ∀ store : Store, store.Closed → Placed store entry.2) :
    ∀ store : Store, store.Closed → FieldsPlaced store fields := by
  induction fields with
  | nil => exact fun store closed => ⟨closed.grows, fun _ member => absurd member List.not_mem_nil, .nil⟩
  | cons entry rest ih =>
      obtain ⟨key, value⟩ := entry
      intro store closed
      have first := each (key, value) (by simp) store closed
      have later := ih (fun other member => each other (by simp [member])) (value.place store).2
        first.grows.closed
      have size := later.grows.extends'.size
      refine ⟨first.grows.trans later.grows, fun entry member => ?_, .cons ⟨rfl, ?_⟩ later.denotes⟩
      · rcases List.mem_cons.mp member with rfl | member
        · exact first.within.mono size
        · exact later.within entry member
      · exact first.denotes.extend first.grows.closed first.within later.grows.extends'

/-- Putting a value into a closed store gives a slot that denotes it. -/
theorem placed (value : Json) : ∀ store : Store, store.Closed → Placed store value := by
  induction value using Json.treeInduction with
  | array items ih =>
      intro store closed
      have each := itemsPlaced ih store closed
      exact ⟨each.grows, Slot.within_array.mpr each.within, Store.denotes_array.mpr ⟨items, rfl, each.denotes⟩⟩
  | object fields ih =>
      intro store closed
      have each := fieldsPlaced ih store closed
      have pushed := each.grows.closed.grows_push each.within
      constructor
      · exact each.grows.trans pushed
      · simp [place_object]
      · rw [place_object, Store.denotes_node]
        refine ⟨fields, rfl, ?_⟩
        rw [Store.cell_push, if_pos rfl]
        exact each.denotes.extend each.grows.closed each.within pushed.extends'
  | scalar value notArray notObject =>
      intro store closed
      cases value with
      | array _ => simp [Json.isArray] at notArray
      | object _ => simp [Json.isObject] at notObject
      | _ =>
          exact ⟨closed.grows, Slot.within_of_addresses rfl, (Store.denotes_scalar fun _ => rfl).mpr rfl⟩

/-- A value that was put into the store is read back. -/
theorem tree?_place {store : Store} (closed : store.Closed) (value : Json) :
    (value.place store).2.tree? (value.place store).1 = some value :=
  have put := placed value store closed
  (put.grows.closed.tree?_eq_some_iff put.within).mpr put.denotes

end Json

end SchemaAlgebra
