import SchemaAlgebra.Proofs.Builder.Steps

/-!
Kinds of effects. A change is still if it alters nothing, it looks if moreover it refuses nothing, it adds if
all objects of the store stay as they are, and it is atomic if a refusal leaves them so. A change that looks
and refuses first and writes afterwards, without refusing any more, is atomic.
-/

namespace SchemaAlgebra

namespace Change

variable {α β : Type}

/-- The change never ends in a refusal. -/
def Unrefusing (change : Change α) : Prop :=
  ∀ (store later : Store) (refusal : Refusal), outcome change store ≠ (.error (.refused refusal), later)

/-- All objects of the store stay as they are. -/
def Adds (change : Change α) : Prop :=
  ∀ store : Store, store.Extends (outcome change store).2

/-- If the change is refused, all objects of the store stay as they are. -/
def Atomic (change : Change α) : Prop :=
  ∀ (store later : Store) (refusal : Refusal),
    outcome change store = (.error (.refused refusal), later) → store.Extends later

/-- The store stays the same. -/
def Still (change : Change α) : Prop :=
  ∀ store : Store, (outcome change store).2 = store

/-- The store stays the same and nothing is refused. -/
structure Looks (change : Change α) : Prop where
  same : Still change
  unrefusing : Unrefusing change

theorem Unrefusing.bind {change : Change α} {next : α → Change β} (first : Unrefusing change)
    (then' : ∀ a, Unrefusing (next a)) : Unrefusing (change >>= next) := by
  intro store later refusal refused
  rcases outcome_bind_eq_error.mp refused with refused | ⟨a, middle, -, refused⟩
  · exact first store later refusal refused
  · exact then' a middle later refusal refused

theorem Adds.bind {change : Change α} {next : α → Change β} (first : Adds change)
    (then' : ∀ a, Adds (next a)) : Adds (change >>= next) := by
  intro store
  have before := first store
  rw [outcome_bind]
  rcases ran : outcome change store with ⟨failure | a, later⟩ <;> rw [ran] at before
  · exact before
  · exact before.trans (then' a later)

/-- What only adds may come before an atomic change. -/
theorem Adds.bind_atomic {change : Change α} {next : α → Change β} (first : Adds change)
    (then' : ∀ a, Atomic (next a)) : Atomic (change >>= next) := by
  intro store later refusal refused
  have before := first store
  rcases outcome_bind_eq_error.mp refused with refused | ⟨a, middle, ran, refused⟩
  · rwa [refused] at before
  · rw [ran] at before
    exact before.trans (then' a middle later refusal refused)

/-- What never refuses may come after an atomic change. -/
theorem Atomic.bind {change : Change α} {next : α → Change β} (first : Atomic change)
    (then' : ∀ a, Unrefusing (next a)) : Atomic (change >>= next) := by
  intro store later refusal refused
  rcases outcome_bind_eq_error.mp refused with refused | ⟨a, middle, -, refused⟩
  · exact first store later refusal refused
  · exact absurd refused (then' a middle later refusal)

theorem Still.bind {change : Change α} {next : α → Change β} (first : Still change)
    (then' : ∀ a, Still (next a)) : Still (change >>= next) := by
  intro store
  have before := first store
  rw [outcome_bind]
  rcases ran : outcome change store with ⟨failure | a, later⟩ <;> rw [ran] at before
  · exact before
  · exact (then' a later).trans before

theorem Still.bind_eq_ok {change : Change α} {next : α → Change β} {store last : Store} {b : β}
    (still : Still change) : outcome (change >>= next) store = (.ok b, last) ↔
      ∃ a, outcome change store = (.ok a, store) ∧ outcome (next a) store = (.ok b, last) := by
  rw [outcome_bind_eq_ok]
  refine exists_congr fun a => ⟨?_, fun ⟨here, then'⟩ => ⟨store, here, then'⟩⟩
  rintro ⟨later, here, then'⟩
  obtain rfl : later = store := by rw [← still store, here]
  exact ⟨here, then'⟩

theorem Still.bind_eq_error {change : Change α} {next : α → Change β} {store last : Store} {failure : Failure}
    (still : Still change) (failed : outcome (change >>= next) store = (.error failure, last)) :
    last = store ∨ ∃ a, outcome change store = (.ok a, store) ∧ outcome (next a) store = (.error failure, last) := by
  have same := still store
  rcases outcome_bind_eq_error.mp failed with here | ⟨a, later, here, then'⟩
  · rw [here] at same
    exact .inl same
  · rw [here] at same
    obtain rfl : later = store := same
    exact .inr ⟨a, here, then'⟩

theorem Looks.bind {change : Change α} {next : α → Change β} (first : Looks change)
    (then' : ∀ a, Looks (next a)) : Looks (change >>= next) :=
  ⟨first.same.bind fun a => (then' a).same, first.unrefusing.bind fun a => (then' a).unrefusing⟩

theorem Looks.bind_still {change : Change α} {next : α → Change β} (first : Looks change)
    (then' : ∀ a, Still (next a)) : Still (change >>= next) :=
  first.same.bind then'

theorem Still.adds {change : Change α} (still : Still change) : Adds change := by
  intro store
  rw [still]
  exact .refl store

theorem Still.bind_atomic {change : Change α} {next : α → Change β} (first : Still change)
    (then' : ∀ a, Atomic (next a)) : Atomic (change >>= next) :=
  first.adds.bind_atomic then'

theorem Adds.atomic {change : Change α} (adds : Adds change) : Atomic change := by
  intro store later refusal refused
  have before := adds store
  rwa [refused] at before

theorem Unrefusing.atomic {change : Change α} (unrefusing : Unrefusing change) : Atomic change :=
  fun store later refusal refused => absurd refused (unrefusing store later refusal)

theorem Looks.bind_adds {change : Change α} {next : α → Change β} (first : Looks change)
    (then' : ∀ a, Adds (next a)) : Adds (change >>= next) :=
  first.same.adds.bind then'

theorem Looks.bind_atomic {change : Change α} {next : α → Change β} (first : Looks change)
    (then' : ∀ a, Atomic (next a)) : Atomic (change >>= next) :=
  first.same.bind_atomic then'

theorem looks_pure (a : α) : Looks (pure a : Change α) :=
  ⟨fun _ => rfl, fun _ _ _ => by simp⟩

theorem looks_throw {failure : Failure} (other : ∀ refusal, failure ≠ .refused refusal) :
    Looks (throw failure : Change α) :=
  ⟨fun _ => rfl, fun _ _ refusal => by simp [other refusal]⟩

theorem looks_unusable : Looks (throw .unusable : Change α) :=
  looks_throw fun _ => by simp

theorem looks_cell (address : Nat) : Looks (cell address) :=
  ⟨fun _ => rfl, fun _ _ _ => by simp⟩

theorem looks_get : Looks (get : Change Store) :=
  ⟨fun _ => rfl, fun _ _ _ => by simp⟩

theorem looks_present? (address : Nat) (key : Key) : Looks (present? address key) :=
  ⟨fun store => by rw [outcome_present?], fun store _ _ => by rw [outcome_present?]; simp⟩

theorem still_refuse (refusal : Refusal) : Still (refuse refusal : Change α) :=
  fun _ => rfl

theorem unrefusing_put (address : Nat) (key : Key) (slot : Slot) : Unrefusing (put address key slot) :=
  fun _ _ _ => by simp

theorem unrefusing_drop (address : Nat) (key : Key) : Unrefusing (drop address key) :=
  fun _ _ _ => by simp

theorem unrefusing_push (cell : Cell) : Unrefusing (push cell) :=
  fun _ _ _ => by simp

theorem unrefusing_place (value : Json) : Unrefusing (place value) :=
  fun _ _ _ => by simp

theorem adds_push (cell : Cell) : Adds (push cell) :=
  fun store => .push store cell

/-- Changes for the items of a list, one after the other. -/
theorem looks_mapM {next : α → Change β} (each : ∀ a, Looks (next a)) (items : List α) :
    Looks (items.mapM next) := by
  induction items with
  | nil => exact looks_pure []
  | cons item rest ih =>
      rw [List.mapM_cons]
      exact (each item).bind fun first => ih.bind fun later => looks_pure _

theorem looks_filterM {next : α → Change Bool} (each : ∀ a, Looks (next a)) (items : List α) :
    Looks (items.filterM next) := by
  have listed : ∀ kept, Looks (items.filterAuxM next kept) := by
    induction items with
    | nil => exact looks_pure
    | cons item rest ih =>
        intro kept
        rw [List.filterAuxM]
        exact (each item).bind fun found => ih _
  exact (listed []).bind fun kept => looks_pure kept.reverse

theorem looks_anyM {next : α → Change Bool} (each : ∀ a, Looks (next a)) (items : List α) :
    Looks (items.anyM next) := by
  induction items with
  | nil => exact looks_pure false
  | cons item rest ih =>
      rw [List.anyM]
      refine (each item).bind fun found => ?_
      split
      · exact looks_pure true
      · exact ih

theorem unrefusing_forM {next : α → Change PUnit} (each : ∀ a, Unrefusing (next a)) (items : List α) :
    Unrefusing (items.forM next) := by
  induction items with
  | nil => exact (looks_pure _).unrefusing
  | cons item rest ih => exact (each item).bind fun _ => ih

end Change

/-!
Changes that keep a store closed. Each starts on a closed store of some size and ends, with success or without,
on a closed store that is no smaller; what it gives names objects of that store.
-/

namespace Cell

variable {bound : Nat} {cell : Cell} {key : Key} {slot : Slot}

theorem Within.put (within : cell.Within bound) (slotWithin : slot.Within bound) :
    Cell.Within bound (Fields.put cell key slot) := by
  intro entry member
  rcases Fields.mem_put member with rfl | member
  · exact slotWithin
  · exact within entry member

theorem Within.erase (within : cell.Within bound) : Cell.Within bound (Fields.erase cell key) :=
  fun entry member => within entry (Fields.mem_erase member)

theorem Within.relabel {old new : Key} (within : cell.Within bound) :
    Cell.Within bound (Fields.relabel cell old new) := by
  intro entry member
  obtain ⟨original, listed, rfl⟩ := List.mem_map.mp member
  exact within original listed

theorem Within.get? (within : cell.Within bound) (found : Fields.get? cell key = some slot) :
    slot.Within bound :=
  within (key, slot) (Fields.mem_of_get? found)

theorem within_nil : Cell.Within bound [] :=
  fun _ member => absurd member List.not_mem_nil

end Cell

theorem Key.within_toSlot (key : Key) (bound : Nat) : key.toSlot.Within bound := by
  cases key <;> exact Slot.within_of_addresses rfl

namespace Change

variable {α β : Type} {bound : Nat}

/-- Started on a closed store of some size, the change leaves a closed store that is no smaller, and what it
gives fits the size of that store. -/
def Stays (bound : Nat) (change : Change α) (fits : Nat → α → Prop) : Prop :=
  ∀ store : Store, store.Closed → bound ≤ store.size →
    (outcome change store).2.Closed ∧ store.size ≤ (outcome change store).2.size ∧
      ∀ a, (outcome change store).1 = .ok a → fits (outcome change store).2.size a

/-- Nothing is said of what is given. -/
def anything (_ : Nat) (_ : α) : Prop := True

theorem Stays.mono {change : Change α} {fits : Nat → α → Prop} {more : Nat}
    (stays : Stays bound change fits) (less : bound ≤ more) : Stays more change fits :=
  fun store closed enough => stays store closed (Nat.le_trans less enough)

theorem Stays.bind {change : Change α} {next : α → Change β} {fits : Nat → α → Prop}
    {fits' : Nat → β → Prop} (first : Stays bound change fits)
    (then' : ∀ a more, bound ≤ more → fits more a → Stays more (next a) fits') :
    Stays bound (change >>= next) fits' := by
  intro store closed enough
  obtain ⟨closed', size, fit⟩ := first store closed enough
  rw [outcome_bind]
  rcases ran : outcome change store with ⟨failure | a, later⟩ <;> rw [ran] at closed' size fit
  · exact ⟨closed', size, fun _ given => by simp at given⟩
  · have more := Nat.le_trans enough size
    obtain ⟨closed'', size', fit'⟩ := then' a later.size more (fit a rfl) later closed' (Nat.le_refl _)
    exact ⟨closed'', Nat.le_trans size size', fit'⟩

/-- What is still changes no store, so all that is left to show is that what it gives fits. -/
theorem Still.stays {change : Change α} {fits : Nat → α → Prop} (still : Still change)
    (fit : ∀ store : Store, store.Closed → bound ≤ store.size →
      ∀ a, outcome change store = (.ok a, store) → fits store.size a) : Stays bound change fits := by
  intro store closed enough
  rw [still]
  refine ⟨closed, Nat.le_refl _, fun a given => fit store closed enough a ?_⟩
  exact Prod.ext given (still store)

theorem Still.bind_stays {change : Change α} {next : α → Change β} {fits : Nat → β → Prop}
    (still : Still change) (then' : ∀ a, Stays bound (next a) fits) : Stays bound (change >>= next) fits := by
  have stays : Stays bound change anything := still.stays fun _ _ _ _ _ => trivial
  exact stays.bind fun a _ less _ => (then' a).mono less

theorem Looks.bind_stays {change : Change α} {next : α → Change β} {fits : Nat → β → Prop}
    (looks : Looks change) (then' : ∀ a, Stays bound (next a) fits) : Stays bound (change >>= next) fits :=
  looks.same.bind_stays then'

theorem stays_pure {fits : Nat → α → Prop} {a : α} (fit : ∀ size, bound ≤ size → fits size a) :
    Stays bound (pure a : Change α) fits :=
  (looks_pure a).same.stays fun store _ enough b given => by
    obtain rfl : a = b := by simpa using given
    exact fit _ enough

theorem stays_throw {fits : Nat → α → Prop} (failure : Failure) :
    Stays bound (throw failure : Change α) fits :=
  fun _ closed _ => ⟨closed, Nat.le_refl _, fun _ given => by simp at given⟩

theorem stays_refuse {fits : Nat → α → Prop} (refusal : Refusal) :
    Stays bound (refuse refusal : Change α) fits :=
  stays_throw (.refused refusal)

theorem stays_refuse_bind {next : α → Change β} {fits : Nat → β → Prop} {refusal : Refusal} :
    Stays bound (refuse refusal >>= next) fits :=
  stays_refuse refusal

theorem stays_ite {condition : Prop} [Decidable condition] {first second : Change α}
    {fits : Nat → α → Prop} (stays : Stays bound first fits) (stays' : Stays bound second fits) :
    Stays bound (if condition then first else second) fits := by
  split
  · exact stays
  · exact stays'

theorem stays_cell (address : Nat) : Stays bound (cell address) Cell.Within :=
  (looks_cell address).same.stays fun store closed _ cell given => by
    obtain rfl : store.cell address = cell := by simpa using given
    exact Store.closed_iff.mp closed address

theorem stays_put (address : Nat) (key : Key) {slot : Slot} (within : slot.Within bound) :
    Stays bound (put address key slot) anything := by
  intro store closed enough
  rw [outcome_put]
  refine ⟨closed.replace ?_, by rw [Store.size_replace], fun _ _ => trivial⟩
  exact (Store.closed_iff.mp closed address).put (within.mono enough)

theorem stays_drop (address : Nat) (key : Key) : Stays bound (drop address key) anything := by
  intro store closed _
  rw [outcome_drop]
  refine ⟨closed.replace ?_, by rw [Store.size_replace], fun _ _ => trivial⟩
  exact (Store.closed_iff.mp closed address).erase

theorem stays_push {cell : Cell} (within : cell.Within bound) :
    Stays bound (push cell) fun size address => address < size := by
  intro store closed enough
  rw [outcome_push]
  refine ⟨closed.push (within.mono enough), by rw [Store.size_push]; omega, fun address given => ?_⟩
  obtain rfl : store.size = address := by simpa using given
  rw [Store.size_push]
  omega

theorem stays_place (value : Json) : Stays bound (place value) fun size slot => slot.Within size := by
  intro store closed _
  have placed := Json.placed value store closed
  rw [outcome_place]
  refine ⟨placed.grows.closed, placed.grows.extends'.size, fun slot given => ?_⟩
  obtain rfl : (value.place store).1 = slot := by simpa using given
  exact placed.within

theorem stays_placeFields (fields : List (Key × Json)) : Stays bound (placeFields fields) Cell.Within := by
  intro store closed _
  have placed : Json.FieldsPlaced store fields :=
    Json.fieldsPlaced (fun entry _ => Json.placed entry.2) store closed
  rw [outcome_placeFields]
  refine ⟨placed.grows.closed, placed.grows.extends'.size, fun cell given => ?_⟩
  obtain rfl : (Json.placeFields fields store).1 = cell := by simpa using given
  exact placed.within

theorem stays_present? (address : Nat) (key : Key) :
    Stays bound (present? address key) fun size slot? => ∀ slot ∈ slot?, slot.Within size := by
  refine (looks_present? address key).same.stays fun store closed _ slot? given slot member => ?_
  rw [outcome_present?] at given
  obtain rfl := Except.ok.inj (congrArg Prod.fst given)
  have found := (Option.mem_filter_iff.mp member).1
  exact (Store.closed_iff.mp closed address).get? found

theorem stays_metadata (kind : Metadata.Kind) (factory : String) (operand : Operand) :
    Stays bound (metadata kind factory operand) Cell.Within := by
  unfold metadata
  split
  · split
    · exact stays_placeFields _
    · exact stays_refuse _
  · exact stays_refuse _

/-- The node of an argument is that of a builder. -/
theorem stays_nodeOf (operation : String) {operand : Operand}
    (within : ∀ address, operand = .builder address → address < bound) :
    Stays bound (nodeOf operation operand) fun size address => address < size := by
  unfold nodeOf
  split
  · next address => exact stays_pure fun size less => Nat.lt_of_lt_of_le (within address rfl) less
  · exact stays_refuse _

theorem stays_forM {next : α → Change PUnit} {items : List α}
    (each : ∀ item ∈ items, Stays bound (next item) anything) : Stays bound (items.forM next) anything := by
  induction items with
  | nil => exact stays_pure fun _ _ => trivial
  | cons item rest ih =>
      obtain ⟨first, later⟩ := List.forall_mem_cons.mp each
      exact first.bind fun _ _ less _ => (ih later).mono less

end Change

end SchemaAlgebra
