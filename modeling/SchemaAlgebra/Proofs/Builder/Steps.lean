import SchemaAlgebra.Builder.Edit
import SchemaAlgebra.Proofs.Running
import SchemaAlgebra.Proofs.Store.Placing

/-!
The small changes of the store, each by what it gives. Later proofs read a call off these equations and do
not open the changes themselves.
-/

namespace SchemaAlgebra

namespace Change

variable {α : Type}

@[simp] theorem outcome_refuse (refusal : Refusal) (store : Store) :
    outcome (refuse refusal : Change α) store = (.error (.refused refusal), store) :=
  rfl

@[simp] theorem outcome_cell (address : Nat) (store : Store) :
    outcome (cell address) store = (.ok (store.cell address), store) :=
  rfl

@[simp] theorem outcome_put (address : Nat) (key : Key) (slot : Slot) (store : Store) :
    outcome (put address key slot) store =
      (.ok (), store.replace address (Fields.put (store.cell address) key slot)) :=
  rfl

@[simp] theorem outcome_drop (address : Nat) (key : Key) (store : Store) :
    outcome (drop address key) store =
      (.ok (), store.replace address (Fields.erase (store.cell address) key)) :=
  rfl

@[simp] theorem outcome_push (cell : Cell) (store : Store) :
    outcome (push cell) store = (.ok store.size, store.push cell) :=
  rfl

@[simp] theorem outcome_place (value : Json) (store : Store) :
    outcome (place value) store = (.ok (value.place store).1, (value.place store).2) :=
  rfl

@[simp] theorem outcome_placeFields (fields : List (Key × Json)) (store : Store) :
    outcome (placeFields fields) store =
      (.ok (Json.placeFields fields store).1, (Json.placeFields fields store).2) :=
  rfl

theorem outcome_present? (address : Nat) (key : Key) (store : Store) :
    outcome (present? address key) store =
      (.ok ((Fields.get? (store.cell address) key).filter store.isTruthy), store) := by
  rw [present?, outcome_bind_ok (outcome_get store)]
  cases found : Fields.get? (store.cell address) key with
  | none => simp only [outcome_pure, Option.filter]
  | some slot => simp only [outcome_pure, Option.filter]

theorem outcome_keyOf (name : Json) (store : Store) :
    outcome (keyOf name) store =
      match name.key? with
      | some key => (.ok key, store)
      | none => (.error .unusable, store) := by
  unfold keyOf
  cases name.key? <;> rfl

theorem key?_of_keyOf {name : Json} {key : Key} {store : Store}
    (ran : outcome (keyOf name) store = (.ok key, store)) : name.key? = some key := by
  rw [outcome_keyOf] at ran
  cases found : name.key? with
  | none => simp [found] at ran
  | some key' =>
      rw [found] at ran
      exact congrArg some (Except.ok.inj (congrArg Prod.fst ran))

/-- Whether a slot is read as a value that is plainly equal to another. -/
def isLike (store : Store) (value : Json) (slot : Slot) : Bool :=
  (store.tree? slot).any fun found => found.agrees value

theorem outcome_agrees (slot : Slot) (value : Json) (store : Store) :
    outcome (agrees slot value) store = (.ok (isLike store value slot), store) :=
  rfl

theorem outcome_lists (slots : List Slot) (value : Json) (store : Store) :
    outcome (lists slots value) store = (.ok (slots.any (isLike store value)), store) :=
  outcome_anyM fun slot _ => outcome_agrees slot value store

end Change

namespace Builder

theorem outcome_others (name : Json) (slots : List Slot) (store : Store) :
    outcome (others name slots) store =
      (.ok (slots.filter fun slot => !Change.isLike store name slot), store) :=
  outcome_filterM fun _ _ => rfl

theorem outcome_among (names : List Json) (slots : List Slot) (store : Store) :
    outcome (among names slots) store =
      (.ok (slots.filter fun slot => names.any fun name => Change.isLike store name slot), store) :=
  outcome_filterM fun slot _ => outcome_anyM fun name _ => Change.outcome_agrees slot name store

theorem outcome_adopt (address : Nat) (store : Store) :
    outcome (adopt address) store =
      match store.tree? (.node address) with
      | none => (.error .endless, store)
      | some schema =>
          match Walk.firstReference? schema with
          | some (pointer, reference) => (.error (.refused (.reference pointer reference.literal)), store)
          | none => (.ok address, store) := by
  rw [adopt, outcome_bind_ok (outcome_get store)]
  cases store.tree? (.node address) with
  | none => rfl
  | some schema =>
      simp only
      cases Walk.firstReference? schema <;> rfl

/-- An object is made the schema of a builder exactly if no node of it holds a reference. -/
theorem outcome_wrap {store : Store} (closed : store.Closed) {document : Json}
    (isObject : document.isObject = true) :
    ∃ address, (document.place store).1 = .node address ∧
      outcome (wrap document) store =
        match Walk.firstReference? document with
        | some (pointer, reference) =>
            (.error (.refused (.reference pointer reference.literal)), (document.place store).2)
        | none => (.ok address, (document.place store).2) := by
  cases document with
  | object fields =>
      refine ⟨_, rfl, ?_⟩
      have read := Json.tree?_place closed (.object fields)
      rw [wrap, if_pos isObject, outcome_bind_ok (Change.outcome_place _ _)]
      rw [Json.place_object] at read ⊢
      simp only [outcome_adopt, read]
  | _ => simp [Json.isObject] at isObject

/-- An object whose list of required names is set. -/
def withRequired (cell : Cell) (names : List Slot) : Cell :=
  if names.isEmpty then Fields.erase cell "required" else Fields.put cell "required" (.array names)

theorem get?_withRequired (cell : Cell) (names : List Slot) (key : Key) :
    Fields.get? (withRequired cell names) key =
      if .text "required" = key then if names.isEmpty then none else some (.array names)
      else Fields.get? cell key := by
  unfold withRequired
  split
  · rw [Fields.get?_erase]
  · rw [Fields.get?_put]

theorem outcome_setRequired (address : Nat) (names : List Slot) (store : Store) :
    outcome (setRequired address names) store =
      (.ok (), store.replace address (withRequired (store.cell address) names)) := by
  unfold setRequired withRequired
  split <;> rfl

theorem outcome_properties (address : Nat) (store : Store) :
    outcome (properties address) store =
      (.ok ((Fields.get? (store.cell address) "properties").filter store.isTruthy), store) :=
  Change.outcome_present? address "properties" store

@[simp] theorem outcome_shape (address : Nat) (store : Store) :
    outcome (shape address) store = (.ok (Cell.face (store.cell address)), store) :=
  rfl

@[simp] theorem outcome_copied (slot : Slot) (store : Store) :
    outcome (copied slot) store = (.ok (store.copy slot).1, (store.copy slot).2) :=
  rfl

end Builder

end SchemaAlgebra
