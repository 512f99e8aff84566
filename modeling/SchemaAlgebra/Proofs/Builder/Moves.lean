import SchemaAlgebra.Proofs.Builder.Atomicity
import SchemaAlgebra.Store.Walk

/-!
The moves that calls consist of. In the course of a call some slots are at hand: those of its arguments, what is
found in objects at hand, and what is made on the way; others are lent to it, for it to copy. Each move adds or
writes only what is at hand, and writes only into the object that the call is about, or into its properties.
Whatever holds before a call and is kept by each move holds after the call, whether this succeeds or not.
-/

namespace SchemaAlgebra

/-- What an object stands for: a schema, the members of the schema that owns it, or data. -/
inductive Standing
  | schema
  | members (owner : Nat)
  | data
  deriving DecidableEq

namespace Standing

/-- What the values stand for that an object holds under a key. -/
def under (self : Nat) (key : Key) : Standing → Standing
  | .schema =>
      match key.text?.bind fun keyword => Walk.keywords.lookup keyword with
      | some .members => .members self
      | some _ => .schema
      | none => .data
  | .members _ => .schema
  | .data => .data

/-- What the items of a list stand for: those in the place of members are schemas. -/
def item : Standing → Standing
  | .members _ => .schema
  | standing => standing

/-- What the copy of an object stands for. -/
def relocate (place : Nat → Nat) : Standing → Standing
  | .members owner => .members (place owner)
  | standing => standing

@[simp] theorem item_item (standing : Standing) : standing.item.item = standing.item := by
  cases standing <;> rfl

theorem item_relocate (place : Nat → Nat) (standing : Standing) :
    (standing.relocate place).item = standing.item := by
  cases standing <;> rfl

theorem under_relocate (place : Nat → Nat) (self : Nat) (key : Key) (standing : Standing) :
    (standing.relocate place).under (place self) key = (standing.under self key).relocate place := by
  cases standing with
  | schema =>
      simp only [under, relocate]
      split <;> rfl
  | members owner => rfl
  | data => rfl

end Standing

/-- Slots at hand, each with what it stands for. -/
abbrev Hand := List (Standing × Slot)

/-- What can be seen in a store from what is at hand. -/
inductive Seen (store : Store) (hand : Hand) : Standing → Slot → Prop
  | held {standing : Standing} {slot : Slot} : (standing, slot) ∈ hand → Seen store hand standing slot
  | plain {standing : Standing} {slot : Slot} : slot.addresses = [] → Seen store hand standing slot
  | entry {standing : Standing} {address : Nat} {entry : Key × Slot} : Seen store hand standing (.node address) →
      entry ∈ store.cell address → Seen store hand (standing.under address entry.1) entry.2
  | item {standing : Standing} {items : List Slot} {slot : Slot} : Seen store hand standing (.array items) →
      slot ∈ items → Seen store hand standing.item slot
  | list {standing : Standing} {items : List Slot} : (∀ slot ∈ items, Seen store hand standing.item slot) →
      Seen store hand standing (.array items)

/-- A store in the course of a call, and the slots at hand. -/
structure Scene where
  hand : Hand
  store : Store

/-- A move of a call that is about the schema at an address, to which some slots are lent. -/
inductive Move (lent : Hand) (address : Nat) : Scene → Scene → Prop
  /-- Look around: what is seen is taken to hand. -/
  | look {hand more : Hand} {store : Store} : (∀ held ∈ more, Seen store hand held.1 held.2) →
      Move lent address ⟨hand, store⟩ ⟨more, store⟩
  /-- Put a value into the store. -/
  | place {hand : Hand} {store : Store} (value : Json) :
      Move lent address ⟨hand, store⟩ ⟨(.data, (value.place store).1) :: hand, (value.place store).2⟩
  /-- Copy what is seen, be it at hand or lent. -/
  | copy {hand : Hand} {store : Store} {standing : Standing} {slot : Slot} :
      Seen store (lent ++ hand) standing slot →
      Move lent address ⟨hand, store⟩
        ⟨(standing.relocate (store.copyPlace (store.reach slot)), (store.copy slot).1) :: hand, (store.copy slot).2⟩
  /-- Make a new schema of what is seen. -/
  | push {hand : Hand} {store : Store} {cell : Cell} :
      (∀ entry ∈ cell, entry.1 ≠ "$ref" ∧
        Seen store hand (Standing.schema.under store.size entry.1) entry.2) →
      Move lent address ⟨hand, store⟩ ⟨(.schema, .node store.size) :: hand, store.push cell⟩
  /-- Give the schema new properties, of what is seen. -/
  | found {hand : Hand} {store : Store} {cell : Cell} : Seen store hand .schema (.node address) →
      (∀ entry ∈ cell, Seen store hand .schema entry.2) →
      Move lent address ⟨hand, store⟩ ⟨(.members address, .node store.size) :: hand,
        (store.push cell).replace address
          (Fields.put ((store.push cell).cell address) "properties" (.node store.size))⟩
  /-- Set a property of the schema to what is seen. -/
  | assign {hand : Hand} {store : Store} {place : Nat} {slot : Slot} (key : Key) :
      Seen store hand .schema (.node address) →
      Fields.get? (store.cell address) "properties" = some (.node place) → Seen store hand .schema slot →
      Move lent address ⟨hand, store⟩ ⟨hand, store.replace place (Fields.put (store.cell place) key slot)⟩
  /-- Set a keyword of the schema to what is seen. -/
  | put {hand : Hand} {store : Store} {key : Key} {slot : Slot} : Seen store hand .schema (.node address) →
      key ≠ "$ref" → Seen store hand (Standing.schema.under address key) slot →
      Move lent address ⟨hand, store⟩ ⟨hand, store.replace address (Fields.put (store.cell address) key slot)⟩
  /-- Require nothing any more in a schema that is seen. -/
  | drop {hand : Hand} {store : Store} {other : Nat} : Seen store hand .schema (.node other) →
      Move lent address ⟨hand, store⟩ ⟨hand, store.replace other (Fields.erase (store.cell other) "required")⟩

/-- Moves one after the other. -/
abbrev Moves (lent : Hand) (address : Nat) : Scene → Scene → Prop :=
  Relation.ReflTransGen (Move lent address)

/-- If a failure is that a reference was found, then in a finite schema at hand there is one. -/
def Failure.Blames (failure : Failure) (store : Store) (hand : Hand) : Prop :=
  ∀ pointer shown, failure = .refused (.reference pointer shown) → ∃ root schema,
    (Standing.schema, Slot.node root) ∈ hand ∧ store.tree? (.node root) = some schema ∧
      Walk.firstReference? schema ≠ none

namespace Change

variable {α β : Type} {address : Nat} {lent hand more : Hand} {store : Store} {gives : Hand → α → Prop}

/-- What is given when a call ends is at hand, or its failure is accounted for. -/
def Ends (store : Store) (hand : Hand) (gives : Hand → α → Prop) : Except Failure α → Prop
  | .ok a => gives hand a
  | .error failure => failure.Blames store hand

/-- From a scene the change goes by moves. -/
def GoesFrom (lent : Hand) (address : Nat) (scene : Scene) (change : Change α) (gives : Hand → α → Prop) : Prop :=
  ∃ later : Hand, scene.hand ⊆ later ∧ Moves lent address scene ⟨later, (outcome change scene.store).2⟩ ∧
    Ends (outcome change scene.store).2 later gives (outcome change scene.store).1

/-- With some slots at hand the change goes by moves. -/
def Goes (lent : Hand) (address : Nat) (hand : Hand) (change : Change α) (gives : Hand → α → Prop) : Prop :=
  ∀ (more : Hand) (store : Store), hand ⊆ more → GoesFrom lent address ⟨more, store⟩ change gives

/-- Nothing is at hand of what is given. -/
def nothing (_ : Hand) (_ : α) : Prop := True

/-- A store that stays the same, and no reference that is found. -/
structure Quiet (change : Change α) : Prop where
  same : Still change
  silent : ∀ (store later : Store) (pointer shown : String),
    outcome change store ≠ (.error (.refused (.reference pointer shown)), later)

theorem Looks.quiet {change : Change α} (looks : Looks change) : Quiet change :=
  ⟨looks.same, fun store later _ _ => looks.unrefusing store later _⟩

theorem Quiet.bind {change : Change α} {next : α → Change β} (first : Quiet change) (then' : ∀ a, Quiet (next a)) :
    Quiet (change >>= next) := by
  refine ⟨first.same.bind fun a => (then' a).same, fun store later pointer shown refused => ?_⟩
  rcases outcome_bind_eq_error.mp refused with refused | ⟨a, middle, -, refused⟩
  · exact first.silent store later pointer shown refused
  · exact (then' a).silent middle later pointer shown refused

theorem quiet_refuse {refusal : Refusal} (other : ∀ pointer shown, refusal ≠ .reference pointer shown) :
    Quiet (refuse refusal : Change α) :=
  ⟨still_refuse refusal, fun _ _ pointer shown refused =>
    other pointer shown (by simpa using congrArg Prod.fst refused)⟩

theorem quiet_ite {condition : Prop} [Decidable condition] {first second : Change α} (quiet : Quiet first)
    (quiet' : Quiet second) : Quiet (if condition then first else second) := by
  split
  · exact quiet
  · exact quiet'

theorem Goes.mono {change : Change α} (goes : Goes lent address hand change gives) (less : hand ⊆ more) :
    Goes lent address more change gives :=
  fun further store enough => goes further store fun _ held => enough (less held)

/-- What only looks goes by a look, at whatever is seen of what it gives. -/
theorem Quiet.goesFrom {change : Change α} {scene : Scene} (quiet : Quiet change)
    (fit : ∀ a, outcome change scene.store = (.ok a, scene.store) → ∃ later : Hand, scene.hand ⊆ later ∧
      (∀ held ∈ later, Seen scene.store scene.hand held.1 held.2) ∧ gives later a) :
    GoesFrom lent address scene change gives := by
  have same := quiet.same scene.store
  rcases ran : outcome change scene.store with ⟨failure | a, later⟩ <;> rw [ran] at same
  · obtain rfl : later = scene.store := same
    have blames : failure.Blames scene.store scene.hand := by
      rintro pointer shown rfl
      exact absurd ran (quiet.silent _ _ pointer shown)
    rw [GoesFrom, ran]
    exact ⟨scene.hand, fun _ held => held, .refl, blames⟩
  · obtain rfl : later = scene.store := same
    obtain ⟨later, more, seen, fit⟩ := fit a ran
    rw [GoesFrom, ran]
    exact ⟨later, more, .single (.look seen), fit⟩

theorem Quiet.goes {change : Change α} (quiet : Quiet change)
    (fit : ∀ more store, hand ⊆ more → ∀ a, outcome change store = (.ok a, store) → ∃ later : Hand, more ⊆ later ∧
      (∀ held ∈ later, Seen store more held.1 held.2) ∧ gives later a) : Goes lent address hand change gives :=
  fun more store enough => quiet.goesFrom (fit more store enough)

theorem GoesFrom.bind {change : Change α} {next : α → Change β} {gives' : Hand → β → Prop} {scene : Scene}
    (first : GoesFrom lent address scene change gives)
    (then' : ∀ a (more : Hand), scene.hand ⊆ more → gives more a → Goes lent address more (next a) gives') :
    GoesFrom lent address scene (change >>= next) gives' := by
  obtain ⟨later, less, moves, ends⟩ := first
  rw [GoesFrom, outcome_bind]
  rcases ran : outcome change scene.store with ⟨failure | a, middle⟩ <;> rw [ran] at moves ends
  · exact ⟨later, less, moves, ends⟩
  · obtain ⟨last, less', moves', ends'⟩ := then' a later less ends later middle fun _ held => held
    exact ⟨last, fun _ held => less' (less held), moves.trans moves', ends'⟩

theorem Goes.bind {change : Change α} {next : α → Change β} {gives' : Hand → β → Prop}
    (first : Goes lent address hand change gives)
    (then' : ∀ a more, hand ⊆ more → gives more a → Goes lent address more (next a) gives') :
    Goes lent address hand (change >>= next) gives' :=
  fun more store enough => (first more store enough).bind fun a further less given =>
    then' a further (fun _ held => less (enough held)) given

/-- After a quiet change the scene is the same, and what it gives is what the store shows. -/
theorem Quiet.bind_goesFrom {change : Change α} {next : α → Change β} {gives' : Hand → β → Prop} {scene : Scene}
    (quiet : Quiet change)
    (then' : ∀ a, outcome change scene.store = (.ok a, scene.store) → GoesFrom lent address scene (next a) gives') :
    GoesFrom lent address scene (change >>= next) gives' := by
  have same := quiet.same scene.store
  rw [GoesFrom, outcome_bind]
  rcases ran : outcome change scene.store with ⟨failure | a, later⟩ <;> rw [ran] at same
  · obtain rfl : later = scene.store := same
    refine ⟨scene.hand, fun _ held => held, .refl, ?_⟩
    rintro pointer shown rfl
    exact absurd ran (quiet.silent _ _ pointer shown)
  · obtain rfl : later = scene.store := same
    exact then' a ran

theorem Quiet.bind_goes {change : Change α} {next : α → Change β} {gives' : Hand → β → Prop} (quiet : Quiet change)
    (then' : ∀ a, Goes lent address hand (next a) gives') : Goes lent address hand (change >>= next) gives' :=
  fun more store enough => quiet.bind_goesFrom fun a _ => then' a more store enough

theorem Looks.bind_goes {change : Change α} {next : α → Change β} {gives' : Hand → β → Prop} (looks : Looks change)
    (then' : ∀ a, Goes lent address hand (next a) gives') : Goes lent address hand (change >>= next) gives' :=
  looks.quiet.bind_goes then'

theorem goes_pure {a : α} (given : ∀ more, hand ⊆ more → gives more a) :
    Goes lent address hand (pure a : Change α) gives :=
  (looks_pure a).quiet.goes fun more store enough b ran => by
    obtain rfl : a = b := by simpa using ran
    exact ⟨more, fun _ held => held, fun _ held => .held held, given more enough⟩

theorem goes_throw {failure : Failure} (other : ∀ refusal, failure ≠ .refused refusal) :
    Goes lent address hand (throw failure : Change α) gives :=
  (looks_throw other).quiet.goes fun _ _ _ _ ran => by simp at ran

theorem goes_refuse {refusal : Refusal} (other : ∀ pointer shown, refusal ≠ .reference pointer shown) :
    Goes lent address hand (refuse refusal : Change α) gives :=
  (quiet_refuse other).goes fun _ _ _ _ ran => by simp at ran

theorem goes_ite {condition : Prop} [Decidable condition] {first second : Change α}
    (goes : Goes lent address hand first gives) (goes' : Goes lent address hand second gives) :
    Goes lent address hand (if condition then first else second) gives := by
  split
  · exact goes
  · exact goes'

/-- A single move. -/
theorem goesFrom_move {change : Change α} {scene : Scene} {later : Hand} {last : Store} {a : α}
    (ran : outcome change scene.store = (.ok a, last)) (less : scene.hand ⊆ later)
    (move : Move lent address scene ⟨later, last⟩) (given : gives later a) :
    GoesFrom lent address scene change gives := by
  rw [GoesFrom, ran]
  exact ⟨later, less, .single move, given⟩

theorem goes_place (value : Json) :
    Goes lent address hand (place value) fun later slot => (Standing.data, slot) ∈ later :=
  fun _ store _ => goesFrom_move (outcome_place value store) (List.subset_cons_self _ _) (.place value)
    List.mem_cons_self

theorem goes_push {cell : Cell} (named : ∀ entry ∈ cell, entry.1 ≠ "$ref")
    (held : ∀ (store : Store), ∀ more, hand ⊆ more → ∀ entry ∈ cell,
      Seen store more (Standing.schema.under store.size entry.1) entry.2) :
    Goes lent address hand (push cell) fun later root => (Standing.schema, .node root) ∈ later :=
  fun more store enough => goesFrom_move (outcome_push cell store) (List.subset_cons_self _ more)
    (.push fun entry listed => ⟨named entry listed, held store more enough entry listed⟩) List.mem_cons_self

theorem goes_put {key : Key} {slot : Slot} (own : (Standing.schema, .node address) ∈ hand) (named : key ≠ "$ref")
    (seen : ∀ (store : Store), ∀ more, hand ⊆ more → Seen store more (Standing.schema.under address key) slot) :
    Goes lent address hand (put address key slot) nothing :=
  fun more store enough => goesFrom_move (outcome_put address key slot store) (fun _ held => held)
    (.put (.held (enough own)) named (seen store more enough)) trivial

theorem goes_drop {other : Nat} (held : (Standing.schema, .node other) ∈ hand) :
    Goes lent address hand (drop other "required") nothing :=
  fun _ store enough => goesFrom_move (outcome_drop other "required" store) (fun _ held => held)
    (.drop (.held (enough held))) trivial

theorem goes_forM {next : α → Change PUnit} {items : List α}
    (each : ∀ item ∈ items, Goes lent address hand (next item) nothing) :
    Goes lent address hand (items.forM next) nothing := by
  induction items with
  | nil => exact goes_pure fun _ _ => trivial
  | cons item rest ih =>
      obtain ⟨first, later⟩ := List.forall_mem_cons.mp each
      exact first.bind fun _ _ less _ => (ih later).mono less

end Change

end SchemaAlgebra
