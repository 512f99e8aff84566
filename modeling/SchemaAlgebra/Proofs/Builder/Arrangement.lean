import SchemaAlgebra.Proofs.Builder.Calling

/-!
Arranged stores. Each object stands for a schema, for the members of one schema, or for data, and holds only what one
that stands for this may hold. So the members of a schema are named by that schema alone, and what is data is never
taken for a schema. Every move keeps a store arranged; if moreover no schema holds a reference, none gets one.
-/

namespace SchemaAlgebra

/-- A slot names what it stands for: an object of this standing, or a list of such. -/
def Slot.Stands (standings : Nat → Standing) (standing : Standing) : Slot → Prop
  | .node address => standings address = standing
  | slot => ∀ address ∈ slot.addresses, standings address = standing.item

/-- Every object of a closed store holds what its standing allows; in a clean store no schema holds a reference. -/
structure Store.Arranged (clean : Prop) (store : Store) (standings : Nat → Standing) : Prop where
  closed : store.Closed
  inside : ∀ {address}, standings address ≠ .data → address < store.size
  holds : ∀ address, ∀ entry ∈ store.cell address,
    entry.2.Stands standings ((standings address).under address entry.1)
  free : clean → ∀ address, standings address = .schema → Fields.has (store.cell address) "$ref" = false

/-- A later store has all objects of an earlier one, in the same standing. -/
structure Store.Advances (store : Store) (standings : Nat → Standing) (later : Store) (standings' : Nat → Standing) :
    Prop where
  size : store.size ≤ later.size
  same : ∀ address < store.size, standings' address = standings address

/-- What is at hand stands for what it is at hand as. -/
def Hand.Stands (hand : Hand) (store : Store) (standings : Nat → Standing) : Prop :=
  ∀ held ∈ hand, held.2.Stands standings held.1 ∧ held.2.Within store.size

variable {clean : Prop} {store later last : Store} {standings standings' standings'' : Nat → Standing}
  {standing : Standing} {slot : Slot} {hand : Hand}

namespace Slot

@[simp] theorem stands_node {address : Nat} :
    (Slot.node address).Stands standings standing ↔ standings address = standing :=
  Iff.rfl

theorem stands_of_addresses (none : slot.addresses = []) : slot.Stands standings standing := by
  cases slot with
  | node address => simp [addresses] at none
  | _ => intro address named; simp [none] at named

theorem Stands.item_of_mem (stands : slot.Stands standings standing.item) {address : Nat}
    (named : address ∈ slot.addresses) : standings address = standing.item := by
  cases slot with
  | node other =>
      obtain rfl := List.mem_singleton.mp named
      exact stands
  | _ => simpa using stands address named

@[simp] theorem stands_array {items : List Slot} :
    (Slot.array items).Stands standings standing ↔ ∀ item ∈ items, item.Stands standings standing.item := by
  constructor
  · intro stands item listed
    have each : ∀ address ∈ item.addresses, standings address = standing.item := fun address named =>
      stands address (mem_itemAddresses.mpr ⟨item, listed, named⟩)
    cases item with
    | node other => exact each other List.mem_cons_self
    | _ => intro address named; simpa using each address named
  · intro each address named
    obtain ⟨item, listed, named⟩ := mem_itemAddresses.mp named
    exact (each item listed).item_of_mem named

theorem Stands.advance (stands : slot.Stands standings standing) (within : slot.Within store.size)
    (advances : store.Advances standings later standings') : slot.Stands standings' standing := by
  cases slot with
  | node address => exact (advances.same address (within_node.mp within)).trans stands
  | _ => exact fun address named => (advances.same address (within address named)).trans (stands address named)

theorem Stands.relocate {place : Nat → Nat} (stands : slot.Stands standings standing)
    (same : ∀ address ∈ slot.addresses, standings' (place address) = (standings address).relocate place) :
    (slot.relocate place).Stands standings' (standing.relocate place) := by
  have fixed (standing : Standing) : standing.item.relocate place = standing.item := by cases standing <;> rfl
  cases slot with
  | node address => exact (same address List.mem_cons_self).trans (congrArg _ stands)
  | array items =>
      intro address named
      rw [addresses_relocate] at named
      obtain ⟨original, held, rfl⟩ := List.mem_map.mp named
      rw [same original held, stands original held, fixed, Standing.item_relocate]
  | _ => exact stands_of_addresses rfl

end Slot

theorem Hand.stands_nil : Hand.Stands [] store standings :=
  fun _ listed => absurd listed List.not_mem_nil

theorem Hand.Stands.advance (stands : hand.Stands store standings)
    (advances : store.Advances standings later standings') :
    hand.Stands later standings' :=
  fun held listed => ⟨(stands held listed).1.advance (stands held listed).2 advances,
    (stands held listed).2.mono advances.size⟩

theorem Hand.Stands.cons {held : Standing × Slot} (stands : hand.Stands store standings)
    (first : held.2.Stands standings held.1) (within : held.2.Within store.size) :
    Hand.Stands (held :: hand) store standings :=
  List.forall_mem_cons.mpr ⟨⟨first, within⟩, stands⟩

namespace Store

theorem Advances.refl : store.Advances standings store standings :=
  ⟨Nat.le_refl _, fun _ _ => rfl⟩

theorem Advances.trans (first : store.Advances standings later standings')
    (second : later.Advances standings' last standings'') : store.Advances standings last standings'' where
  size := Nat.le_trans first.size second.size
  same address inside := (second.same address (Nat.lt_of_lt_of_le inside first.size)).trans
    (first.same address inside)

namespace Arranged

variable (arranged : store.Arranged clean standings)

include arranged

theorem outside {address : Nat} (outside : store.size ≤ address) : standings address = .data := by
  by_contra other
  exact Nat.not_lt_of_le outside (arranged.inside other)

theorem within (address : Nat) : (store.cell address).Within store.size :=
  closed_iff.mp arranged.closed address

/-- What is seen from what is at hand stands for what it is seen as. -/
theorem seen (stands : hand.Stands store standings) (seen : Seen store hand standing slot) :
    slot.Stands standings standing ∧ slot.Within store.size := by
  induction seen with
  | held listed => exact stands _ listed
  | plain none => exact ⟨Slot.stands_of_addresses none, Slot.within_of_addresses none⟩
  | entry _ listed ih =>
      obtain ⟨own, -⟩ := ih
      have holds := arranged.holds _ _ listed
      rw [Slot.stands_node.mp own] at holds
      exact ⟨holds, arranged.within _ _ listed⟩
  | item _ listed ih => exact ⟨Slot.stands_array.mp ih.1 _ listed, Slot.within_array.mp ih.2 _ listed⟩
  | list _ ih =>
      exact ⟨Slot.stands_array.mpr fun item listed => (ih item listed).1,
        Slot.within_array.mpr fun item listed => (ih item listed).2⟩

/-- The members of a schema are its own. -/
theorem members {address place : Nat} (schema : standings address = .schema)
    (found : Fields.get? (store.cell address) "properties" = some (.node place)) :
    standings place = .members address := by
  have holds := arranged.holds address _ (Fields.mem_of_get? found)
  rw [schema] at holds
  exact holds

/-- An object may be replaced by one that holds what its standing allows. -/
theorem replace {address : Nat} {cell : Cell}
    (holds : ∀ entry ∈ cell, entry.2.Stands standings ((standings address).under address entry.1))
    (within : cell.Within store.size)
    (free : clean → standings address = .schema → Fields.has cell "$ref" = false) :
    (store.replace address cell).Arranged clean standings where
  closed := arranged.closed.replace within
  inside other := by
    rw [size_replace]
    exact arranged.inside other
  holds other := by
    rw [cell_replace_eq]
    split
    · next same =>
        obtain ⟨rfl, -⟩ := same
        exact holds
    · exact arranged.holds other
  free isClean other schema := by
    rw [cell_replace_eq]
    split
    · next same =>
        obtain ⟨rfl, -⟩ := same
        exact free isClean schema
    · exact arranged.free isClean other schema

/-- An object may get another entry of what its standing allows. -/
theorem put (address : Nat) (key : Key)
    (stands : slot.Stands standings ((standings address).under address key)) (within : slot.Within store.size)
    (named : standings address = .schema → key ≠ "$ref") :
    (store.replace address (Fields.put (store.cell address) key slot)).Arranged clean standings := by
  refine arranged.replace (fun entry listed => ?_) ((arranged.within address).put within) fun isClean schema => ?_
  · rcases Fields.mem_put listed with rfl | listed
    · exact stands
    · exact arranged.holds address entry listed
  · have before := arranged.free isClean address schema
    rw [Fields.has, Fields.get?_put, if_neg (named schema)]
    exact before

theorem erase {address : Nat} (key : Key) :
    (store.replace address (Fields.erase (store.cell address) key)).Arranged clean standings := by
  refine arranged.replace (fun entry listed => arranged.holds address entry (Fields.mem_erase listed))
    (arranged.within address).erase fun isClean schema => ?_
  have before := arranged.free isClean address schema
  rw [Fields.has, Fields.get?_erase]
  split
  · rfl
  · exact before

/-- Objects may be added that hold what their standing allows. -/
theorem extend (extends' : store.Extends later) (closed : later.Closed)
    (same : ∀ address < store.size, standings' address = standings address)
    (inside : ∀ {address}, standings' address ≠ .data → address < later.size)
    (holds : ∀ address, store.size ≤ address → ∀ entry ∈ later.cell address,
      entry.2.Stands standings' ((standings' address).under address entry.1))
    (free : clean → ∀ address, store.size ≤ address → standings' address = .schema →
      Fields.has (later.cell address) "$ref" = false) :
    later.Arranged clean standings' ∧ store.Advances standings later standings' := by
  have advances : store.Advances standings later standings' := ⟨extends'.size, same⟩
  refine ⟨⟨closed, inside, fun address => ?_, fun isClean address schema => ?_⟩, advances⟩
  · rcases Nat.lt_or_ge address store.size with old | new
    · rw [extends'.cells address old, same address old]
      exact fun entry listed => (arranged.holds address entry listed).advance
        (arranged.within address entry listed) advances
    · exact holds address new
  · rcases Nat.lt_or_ge address store.size with old | new
    · rw [extends'.cells address old]
      exact arranged.free isClean address ((same address old).symm.trans schema)
    · exact free isClean address new schema

/-- A new object may stand for anything that it holds what is needed for. -/
theorem push (standing : Standing) {cell : Cell} (within : cell.Within store.size)
    (holds : ∀ entry ∈ cell, entry.2.Stands standings (standing.under store.size entry.1))
    (free : clean → standing = .schema → Fields.has cell "$ref" = false) :
    (store.push cell).Arranged clean (Function.update standings store.size standing) ∧
      store.Advances standings (store.push cell) (Function.update standings store.size standing) := by
  have same : ∀ address < store.size, Function.update standings store.size standing address = standings address :=
    fun address old => Function.update_of_ne (Nat.ne_of_lt old) _ _
  have advances : store.Advances standings (store.push cell) (Function.update standings store.size standing) :=
    ⟨by simp, same⟩
  have beyond {address : Nat} (new : store.size ≤ address) (other : address ≠ store.size) :
      Function.update standings store.size standing address = .data ∧ (store.push cell).cell address = [] := by
    refine ⟨by rw [Function.update_of_ne other, arranged.outside new], cell_of_size_le ?_⟩
    rw [size_push]
    omega
  refine arranged.extend (.push store cell) (arranged.closed.push within) same (fun {address} other => ?_)
    (fun address new => ?_) fun isClean address new schema => ?_
  · rw [size_push]
    by_contra outside
    exact other (beyond (by omega) (by omega)).1
  · by_cases last : address = store.size
    · subst last
      rw [cell_push, if_pos rfl, Function.update_self]
      exact fun entry listed => (holds entry listed).advance (within entry listed) advances
    · rw [(beyond new last).2]
      exact fun _ listed => absurd listed List.not_mem_nil
  · by_cases last : address = store.size
    · subst last
      rw [Function.update_self] at schema
      rw [cell_push, if_pos rfl]
      exact free isClean schema
    · rw [(beyond new last).2]
      rfl

/-- The copies of objects stand for what these stand for. -/
theorem copy (within : slot.Within store.size) : ∃ standings', (store.copy slot).2.Arranged clean standings' ∧
    store.Advances standings (store.copy slot).2 standings' ∧ ∀ address ∈ store.reach slot,
      standings' (store.copyPlace (store.reach slot) address) =
        (standings address).relocate (store.copyPlace (store.reach slot)) := by
  have gathered := gathered_reach arranged.closed within
  let place := store.copyPlace (store.reach slot)
  let standings' : Nat → Standing := fun address =>
    if address < store.size then standings address
    else ((store.reach slot)[address - store.size]?.map fun original => (standings original).relocate place).getD
      .data
  have copied : ∀ address ∈ store.reach slot, standings' (place address) = (standings address).relocate place := by
    intro address member
    have bound := List.idxOf_lt_length_iff.mpr member
    simp [standings', place, copyPlace, List.getElem?_eq_getElem bound]
  have beyond {address : Nat} (outside : (store.copy slot).2.size ≤ address) : standings' address = .data := by
    rw [size_copy] at outside
    have old : ¬ address < store.size := by omega
    have none : (store.reach slot).length ≤ address - store.size := by omega
    simp [standings', old, List.getElem?_eq_none none]
  have result : (store.copy slot).2.Arranged clean standings' ∧
    store.Advances standings (store.copy slot).2 standings' :=
    arranged.extend (store.copy_extends slot) (closed_copy arranged.closed within) (fun address old => if_pos old)
      (fun {address} other => ?_)
    (fun address new => ?_) fun isClean address new schema => ?_
  · exact ⟨standings', result.1, result.2, copied⟩
  · by_contra outside
    exact other (beyond (Nat.le_of_not_lt outside))
  · rcases Nat.lt_or_ge address (store.copy slot).2.size with inside | outside
    · obtain ⟨original, member, rfl⟩ := exists_copyPlace new inside gathered.nodup
      rw [cell_copy member, copied original member]
      intro entry listed
      obtain ⟨held, among, rfl⟩ := List.mem_map.mp listed
      rw [Standing.under_relocate]
      refine (arranged.holds original held among).relocate fun other named => copied other ?_
      exact gathered.closed original member other (Cell.mem_addresses.mpr ⟨held, among, named⟩)
    · rw [cell_of_size_le outside]
      exact fun _ listed => absurd listed List.not_mem_nil
  · rcases Nat.lt_or_ge address (store.copy slot).2.size with inside | outside
    · obtain ⟨original, member, rfl⟩ := exists_copyPlace new inside gathered.nodup
      rw [copied original member] at schema
      have schema : standings original = .schema := by
        cases same : standings original <;> simp_all [Standing.relocate]
      rw [cell_copy member, Fields.has, Cell.get?_relocate, Option.isSome_map]
      exact arranged.free isClean original schema
    · rw [cell_of_size_le outside]
      rfl

end Arranged

end Store

/-- A value may be put into a store to stand for something: in a clean store, if no schema of it holds a
reference. -/
inductive Json.Suits (clean : Prop) : Standing → Json → Prop
  | data {value : Json} : Suits clean .data value
  | array {standing : Standing} {items : List Json} : (∀ item ∈ items, Suits clean standing.item item) →
      Suits clean standing (.array items)
  | object {standing : Standing} {fields : List (Key × Json)} :
      (clean → standing = .schema → Fields.has fields "$ref" = false) →
      (∀ entry ∈ fields, ∀ self, Suits clean (standing.under self entry.1) entry.2) →
        Suits clean standing (.object fields)
  | scalar {standing : Standing} {value : Json} : value.isArray = false → value.isObject = false →
      Suits clean standing value

namespace Json

theorem Suits.item {items : List Json} {item : Json} (suits : (Json.array items).Suits clean standing)
    (listed : item ∈ items) : item.Suits clean standing.item := by
  cases suits with
  | data => exact .data
  | array each => exact each item listed
  | scalar notArray => simp [isArray] at notArray

theorem Suits.entry {fields : List (Key × Json)} {entry : Key × Json}
    (suits : (Json.object fields).Suits clean standing)
    (listed : entry ∈ fields) (self : Nat) : entry.2.Suits clean (standing.under self entry.1) := by
  cases suits with
  | data => exact .data
  | object _ each => exact each entry listed self
  | scalar _ notObject => simp [isObject] at notObject

theorem Suits.noReference {fields : List (Key × Json)} (suits : (Json.object fields).Suits clean standing)
    (isClean : clean) (schema : standing = .schema) : Fields.has fields "$ref" = false := by
  cases suits with
  | data => cases schema
  | object free _ => exact free isClean schema
  | scalar _ notObject => simp [isObject] at notObject

/-- Without a claim to be clean, every value may stand for everything. -/
theorem suits_of_not (unclean : ¬ clean) (value : Json) : ∀ standing, value.Suits clean standing := by
  induction value using Json.treeInduction with
  | array items ih => exact fun standing => .array fun item listed => ih item listed standing.item
  | object fields ih =>
      exact fun standing => .object (fun isClean => absurd isClean unclean) fun entry listed self =>
        ih entry listed (standing.under self entry.1)
  | scalar value notArray notObject => exact fun standing => .scalar notArray notObject

/-- Putting the value into any arranged store gives an arranged store, in which its slot has the standing. -/
def Arranges (clean : Prop) (standing : Standing) (value : Json) : Prop :=
  ∀ {store : Store} {standings : Nat → Standing}, store.Arranged clean standings →
    ∃ standings', (value.place store).2.Arranged clean standings' ∧
      store.Advances standings (value.place store).2 standings' ∧ (value.place store).1.Stands standings' standing

theorem arranged_placeItems {items : List Json} (each : ∀ item ∈ items, item.Arranges clean standing)
    (arranged : store.Arranged clean standings) :
    ∃ standings', (placeItems items store).2.Arranged clean standings' ∧
      store.Advances standings (placeItems items store).2 standings' ∧
      ∀ slot ∈ (placeItems items store).1, slot.Stands standings' standing := by
  induction items generalizing store standings with
  | nil => exact ⟨standings, arranged, .refl, fun _ listed => absurd listed List.not_mem_nil⟩
  | cons item rest ih =>
      obtain ⟨here, others⟩ := List.forall_mem_cons.mp each
      have within := (Json.placed item store arranged.closed).within
      obtain ⟨standings', arranged', advances, stands⟩ := here arranged
      obtain ⟨standings'', arranged'', advances', all⟩ := ih others arranged'
      refine ⟨standings'', arranged'', advances.trans advances', fun slot listed => ?_⟩
      rcases List.mem_cons.mp listed with rfl | listed
      · exact stands.advance within advances'
      · exact all slot listed

theorem arranged_placeFields {fields : List (Key × Json)} (under : Key → Standing)
    (each : ∀ entry ∈ fields, entry.2.Arranges clean (under entry.1)) (arranged : store.Arranged clean standings) :
    ∃ standings', (placeFields fields store).2.Arranged clean standings' ∧
      store.Advances standings (placeFields fields store).2 standings' ∧
      ∀ entry ∈ (placeFields fields store).1, entry.2.Stands standings' (under entry.1) := by
  induction fields generalizing store standings with
  | nil => exact ⟨standings, arranged, .refl, fun _ listed => absurd listed List.not_mem_nil⟩
  | cons entry rest ih =>
      obtain ⟨key, value⟩ := entry
      obtain ⟨here, others⟩ := List.forall_mem_cons.mp each
      have within := (Json.placed value store arranged.closed).within
      obtain ⟨standings', arranged', advances, stands⟩ := here arranged
      obtain ⟨standings'', arranged'', advances', all⟩ := ih others arranged'
      refine ⟨standings'', arranged'', advances.trans advances', fun entry listed => ?_⟩
      rcases List.mem_cons.mp listed with rfl | listed
      · exact stands.advance within advances'
      · exact all entry listed

theorem has_placeFields (fields : List (Key × Json)) (store : Store) (key : Key) :
    Fields.has (placeFields fields store).1 key = Fields.has fields key := by
  rw [Fields.has_eq_decide, Fields.has_eq_decide, keys_placeFields]

/-- A value that may stand for something is put into a store to stand for that. -/
theorem arranges_of_suits (value : Json) : ∀ standing, value.Suits clean standing →
    value.Arranges clean standing := by
  induction value using Json.treeInduction with
  | array items ih =>
      intro standing suits store standings arranged
      obtain ⟨standings', arranged', advances, stands⟩ := arranged_placeItems
        (fun item listed => ih item listed standing.item (suits.item listed)) arranged
      exact ⟨standings', arranged', advances, Slot.stands_array.mpr stands⟩
  | object fields ih =>
      intro standing suits store standings arranged
      let self := (placeFields fields store).2.size
      obtain ⟨standings', arranged', advances, stands⟩ := arranged_placeFields (fun key => standing.under self key)
        (fun entry listed => ih entry listed _ (suits.entry listed self)) arranged
      have placed : FieldsPlaced store fields :=
        fieldsPlaced (fun entry _ => Json.placed entry.2) store arranged.closed
      obtain ⟨pushed, advances'⟩ := arranged'.push standing placed.within stands fun isClean schema => by
        rw [has_placeFields]
        exact suits.noReference isClean schema
      rw [place_object]
      exact ⟨_, pushed, advances.trans advances', Function.update_self ..⟩
  | scalar value notArray notObject =>
      intro standing _ store standings arranged
      refine ⟨standings, ?_⟩
      cases value with
      | array items => simp [isArray] at notArray
      | object fields => simp [isObject] at notObject
      | _ => exact ⟨arranged, .refl, Slot.stands_of_addresses rfl⟩

end Json

/-- What a call that is about an address may do to the objects that were there: only this object and its members name
more than before. -/
def Store.Spares (store : Store) (standings : Nat → Standing) (later : Store) (address : Nat) : Prop :=
  ∀ other < store.size, other = address ∨ standings other = .members address ∨
    (later.cell other).addresses ⊆ (store.cell other).addresses

/-- A scene in an arranged store, in which all that is at hand stands for what it is at hand as. -/
structure Scene.Arranged (clean : Prop) (scene : Scene) (standings : Nat → Standing) : Prop where
  store : scene.store.Arranged clean standings
  hand : scene.hand.Stands scene.store standings

variable {address : Nat} {lent : Hand} {scene after : Scene}

theorem Store.Extends.spares (extends' : store.Extends later) : store.Spares standings later address :=
  fun other inside => .inr (.inr fun named => by rw [extends'.cells other inside]; exact id)

theorem Store.spares_replace {place : Nat} {cell : Cell}
    (own : place = address ∨ standings place = .members address) :
    store.Spares standings (store.replace place cell) address := by
  intro other inside
  by_cases same : place = other
  · subst same
    exact own.imp_right .inl
  · refine .inr (.inr ?_)
    rw [cell_replace_eq, if_neg fun both => same both.1]
    exact fun _ named => named

/-- Every move keeps an arranged scene arranged, and spares what it is not about. -/
theorem Move.arranged (move : Move lent address scene after) (arranged : scene.Arranged clean standings)
    (lends : lent.Stands scene.store standings) :
    ∃ standings', after.Arranged clean standings' ∧ scene.store.Advances standings after.store standings' ∧
      scene.store.Spares standings after.store address := by
  obtain ⟨arranged, stands⟩ := arranged
  cases move with
  | look seen =>
      exact ⟨standings, ⟨arranged, fun held listed => arranged.seen stands (seen held listed)⟩, .refl,
        (Store.Extends.refl _).spares⟩
  | place value =>
      obtain ⟨standings', arranged', advances, stands'⟩ :=
        Json.arranges_of_suits value .data (.data : value.Suits clean .data) arranged
      have placed := Json.placed value _ arranged.closed
      exact ⟨standings', ⟨arranged', (stands.advance advances).cons stands' placed.within⟩, advances,
        placed.grows.extends'.spares⟩
  | @copy hand store standing slot seen =>
      obtain ⟨stood, within⟩ := arranged.seen (List.forall_mem_append.mpr ⟨lends, stands⟩) seen
      obtain ⟨standings', arranged', advances, copied⟩ := arranged.copy within
      have gathered := Store.gathered_reach arranged.closed within
      refine ⟨standings', ⟨arranged', (stands.advance advances).cons ?_ (Store.copy_within arranged.closed within)⟩,
        advances, (Store.copy_extends store slot).spares⟩
      exact stood.relocate fun address named => copied address (gathered.begins named)
  | @push hand store cell makes =>
      have within : cell.Within store.size := fun entry listed => (arranged.seen stands (makes entry listed).2).2
      obtain ⟨pushed, advances⟩ := arranged.push .schema within
        (fun entry listed => (arranged.seen stands (makes entry listed).2).1) fun _ _ => by
          rw [Fields.has_eq_decide, decide_eq_false_iff_not]
          intro listed
          obtain ⟨entry, among, same⟩ := List.mem_map.mp listed
          exact (makes entry among).1 same
      refine ⟨_, ⟨pushed, (stands.advance advances).cons ?_ ?_⟩, advances, (Store.Extends.push store cell).spares⟩
      · exact Function.update_self ..
      · simp
  | @found hand store cell own held =>
      have schema := (arranged.seen stands own).1
      have inside : address < store.size := arranged.inside (by simp [Slot.stands_node.mp schema])
      have within : cell.Within store.size := fun entry listed => (arranged.seen stands (held entry listed)).2
      obtain ⟨pushed, advances⟩ := arranged.push (.members address) within
        (fun entry listed => (arranged.seen stands (held entry listed)).1) fun _ same => by cases same
      have schema' := (schema.advance (Slot.within_node.mpr inside) advances)
      have placed := pushed.put address "properties"
        (show (Slot.node store.size).Stands _ _ by rw [Slot.stands_node.mp schema']; exact Function.update_self ..)
          (by simp) (by simp)
      refine ⟨_, ⟨placed, (stands.advance ⟨by simp, advances.same⟩).cons ?_ ?_⟩, ⟨by simp, advances.same⟩, ?_⟩
      · exact Function.update_self ..
      · simp
      · intro other old
        by_cases same : address = other
        · exact .inl same.symm
        · refine .inr (.inr ?_)
          rw [Store.cell_replace_eq, if_neg fun both => same both.1, Store.cell_push, if_neg (Nat.ne_of_lt old)]
          exact fun _ named => named
  | @assign hand store place slot key own found seen =>
      have schema := (arranged.seen stands own).1
      have members := arranged.members (Slot.stands_node.mp schema) found
      obtain ⟨stood, within⟩ := arranged.seen stands seen
      refine ⟨standings, ⟨arranged.put place key (by rwa [members]) within (by simp [members]), ?_⟩,
        ⟨by simp, fun _ _ => rfl⟩,
        Store.spares_replace (.inr members)⟩
      exact stands.advance ⟨by simp, fun _ _ => rfl⟩
  | @put hand store key slot own named seen =>
      have schema := Slot.stands_node.mp (arranged.seen stands own).1
      obtain ⟨stood, within⟩ := arranged.seen stands seen
      refine ⟨standings, ⟨arranged.put address key (by rwa [schema]) within fun _ => named, ?_⟩,
        ⟨by simp, fun _ _ => rfl⟩,
        Store.spares_replace (.inl rfl)⟩
      exact stands.advance ⟨by simp, fun _ _ => rfl⟩
  | @drop hand store other seen =>
      refine ⟨standings, ⟨arranged.erase "required", stands.advance ⟨by simp, fun _ _ => rfl⟩⟩,
        ⟨by simp, fun _ _ => rfl⟩, fun place _ => .inr (.inr ?_)⟩
      rw [Store.cell_replace_eq]
      split
      · next same =>
          obtain ⟨rfl, -⟩ := same
          intro address named
          obtain ⟨entry, listed, named⟩ := Cell.mem_addresses.mp named
          exact Cell.mem_addresses.mpr ⟨entry, Fields.mem_erase listed, named⟩
      · exact fun _ named => named

/-- All moves of a call keep an arranged scene arranged: only the object that the call is about, and its members,
come to name new objects. -/
theorem Moves.arranged (moves : Moves lent address scene after) (arranged : scene.Arranged clean standings)
    (lends : lent.Stands scene.store standings) :
    ∃ standings', after.Arranged clean standings' ∧ scene.store.Advances standings after.store standings' ∧
      ∀ other < scene.store.size, ∀ place ∈ (after.store.cell other).addresses, scene.store.size ≤ place →
        other = address ∨ standings other = .members address := by
  induction moves with
  | refl =>
      refine ⟨standings, arranged, .refl, fun other _ place named new => ?_⟩
      exact absurd (arranged.store.closed other place named) (Nat.not_lt_of_le new)
  | tail _ move ih =>
      obtain ⟨standings', arranged', advances, names⟩ := ih
      obtain ⟨standings'', arranged'', advances', spares⟩ := move.arranged arranged' (lends.advance advances)
      refine ⟨standings'', arranged'', advances.trans advances', fun other old place named new => ?_⟩
      rcases spares other (Nat.lt_of_lt_of_le old advances.size) with own | members | fewer
      · exact .inl own
      · exact .inr ((advances.same other old).symm.trans members)
      · exact names other old place (fewer named) new

/-- Every node of a value that a slot of an arranged store denotes is what a schema of the store holds. -/
theorem Store.Arranged.nodes {role : Walk.Role} {value : Json} {node : List (Key × Json)}
    (arranged : store.Arranged clean standings) (isNode : Walk.IsNode role value node) :
    ∀ {standing : Standing} {slot : Slot}, standing.Serves role → slot.Stands standings standing →
      store.Denotes slot value → ∃ address, standings address = .schema ∧
        store.DenotesAll (store.cell address) node := by
  induction isNode with
  | @here role fields own =>
      intro standing slot serves stands denotes
      obtain rfl := serves.eq_schema (by rintro rfl; simp [Walk.Role.isNode] at own)
      obtain ⟨address, rfl, entries⟩ := denotes.eq_node
      exact ⟨address, stands, entries⟩
  | @keyword role under fields node keyword value own listed found _ ih =>
      intro standing slot serves stands denotes
      obtain rfl := serves.eq_schema (by rintro rfl; simp [Walk.Role.isNode] at own)
      obtain ⟨address, rfl, entries⟩ := denotes.eq_node
      obtain ⟨-, missing⟩ | ⟨held, other, among, given, denotes'⟩ := entries.get? (.text keyword)
      · rw [missing] at found
        cases found
      · obtain rfl := Option.some.inj (given.symm.trans found)
        have holds := arranged.holds address _ (Fields.mem_of_get? among)
        rw [Slot.stands_node.mp stands] at holds
        exact ih (Standing.serves_under address listed) holds denotes'
  | @member fields node entry listed _ ih =>
      intro standing slot serves stands denotes
      obtain ⟨owner, rfl⟩ := serves
      obtain ⟨place, rfl, entries⟩ := denotes.eq_node
      obtain ⟨held, among, -, denotes'⟩ := exists_of_forall₂ entries listed
      have holds := arranged.holds place _ among
      rw [Slot.stands_node.mp stands] at holds
      exact ih rfl holds denotes'
  | @item role items node item own listed _ ih =>
      intro standing slot serves stands denotes
      obtain rfl := serves.eq_schema (by rintro rfl; simp [Walk.Role.isList] at own)
      obtain ⟨slots, rfl, each⟩ := denotes.eq_array
      obtain ⟨held, among, denotes'⟩ := exists_of_forall₂ each listed
      exact ih rfl (Slot.stands_array.mp stands held among) denotes'

/-- Whatever a walk of an arranged store visits is a schema. -/
theorem Store.Arranged.visits {role : Walk.Role} {node : Nat} (arranged : store.Arranged clean standings)
    (serves : standing.Serves role) (stands : slot.Stands standings standing) (within : slot.Within store.size)
    (visits : store.Visits role slot node) : standings node = .schema := by
  have held : Hand.Stands [(standing, slot)] store standings := fun held listed => by
    obtain rfl := List.mem_singleton.mp listed
    exact ⟨stands, within⟩
  exact (arranged.seen held (visits.seen serves (.held List.mem_cons_self))).1

/-- In a clean store no node of a finite schema holds a reference. -/
theorem Store.Arranged.noReference {root : Nat} {schema : Json} (arranged : store.Arranged clean standings)
    (isClean : clean)
    (stands : standings root = .schema) (finite : store.tree? (.node root) = some schema) :
    Walk.firstReference? schema = none := by
  rw [Walk.firstReference?_eq_none_iff]
  rintro ⟨node, isNode, has⟩
  obtain ⟨address, schema, entries⟩ :=
    arranged.nodes isNode Standing.serves_schema (Slot.stands_node.mpr stands) ⟨_, finite⟩
  have free := arranged.free isClean address schema
  rw [Fields.has_eq_decide, entries.keys, ← Fields.has_eq_decide, has] at free
  cases free

/-- A change that goes by moves keeps the store arranged; in a clean store it comes upon no reference. -/
theorem Change.GoesFrom.arranged {α : Type} {change : Change α} {gives : Hand → α → Prop} {result : Except Failure α}
    (goes : GoesFrom lent address ⟨hand, store⟩ change gives) (arranged : store.Arranged clean standings)
    (stands : hand.Stands store standings) (lends : lent.Stands store standings)
    (ran : outcome change store = (result, later)) :
    ∃ standings' last, later.Arranged clean standings' ∧ store.Advances standings later standings' ∧
      last.Stands later standings' ∧ Ends later last gives result ∧
      ∀ other < store.size, ∀ place ∈ (later.cell other).addresses, store.size ≤ place →
        other = address ∨ standings other = .members address := by
  obtain ⟨last, -, moves, ends⟩ := goes
  rw [ran] at moves ends
  obtain ⟨standings', arranged', advances, names⟩ := moves.arranged ⟨arranged, stands⟩ lends
  exact ⟨standings', last, arranged'.store, advances, arranged'.hand, ends, names⟩

/-- In a clean store no reference is to blame. -/
theorem Failure.Blames.ne_reference {failure : Failure} (blames : failure.Blames store hand)
    (arranged : store.Arranged clean standings) (isClean : clean) (stands : hand.Stands store standings)
    (pointer shown : String) : failure ≠ .refused (.reference pointer shown) := by
  intro same
  obtain ⟨root, schema, held, finite, found⟩ := blames pointer shown same
  exact found (arranged.noReference isClean (stands _ held).1 finite)

end SchemaAlgebra
