import SchemaAlgebra.Proofs.Builder.Arrangement
import SchemaAlgebra.Proofs.Store.Separation

/-!
Separation in the course of calls. What all that is at hand is apart from stays as it is, and whatever else is
apart from it stays so. A copy is apart from all that was there; and new objects that an edit makes are found only
by way of what the edit is about.
-/

namespace SchemaAlgebra

variable {clean : Prop} {kept : Nat → Prop} {store later : Store} {standings standings' : Nat → Standing}
  {standing : Standing} {slot : Slot} {lent hand : Hand} {address : Nat} {scene after : Scene}

/-- All that is at hand is apart from what is kept. -/
def Scene.Apart (kept : Nat → Prop) (scene : Scene) : Prop :=
  ∀ held ∈ scene.hand, scene.store.Apart kept held.2

theorem Seen.apart (seen : Seen store hand standing slot) (apart : ∀ held ∈ hand, store.Apart kept held.2) :
    store.Apart kept slot := by
  induction seen with
  | held listed => exact apart _ listed
  | plain none => exact Store.apart_of_addresses none
  | entry _ listed ih => exact ih.entry listed
  | item _ listed ih => exact ih.item listed
  | list _ ih => exact Store.apart_array.mpr ih

/-- All that is at hand stays apart, if what is kept is. -/
theorem Scene.Apart.keeps (apart : scene.Apart kept) (arranged : scene.Arranged clean standings)
    (keeps : Store.Keeps kept scene.store later) : Scene.Apart kept ⟨scene.hand, later⟩ :=
  fun held listed => keeps.apart (arranged.hand held listed).2 (apart held listed)

/-- Every move keeps what all that is at hand is apart from. -/
theorem Move.keeps (move : Move lent address scene after) (arranged : scene.Arranged clean standings)
    (lends : lent.Stands scene.store standings)
    (inside : ∀ address, kept address → address < scene.store.size) (apart : scene.Apart kept) :
    Store.Keeps kept scene.store after.store ∧ after.Apart kept := by
  have closed := arranged.store.closed
  have remains {later : Store} {held : Standing × Slot} (keeps : Store.Keeps kept scene.store later)
      (apart' : later.Apart kept held.2) : Scene.Apart kept ⟨held :: scene.hand, later⟩ :=
    List.forall_mem_cons.mpr ⟨apart', apart.keeps arranged keeps⟩
  cases move with
  | look seen => exact ⟨.refl, fun held listed => (seen held listed).apart apart⟩
  | place value =>
      have keeps := (Json.placed value _ closed).grows.extends'.keeps closed inside
      exact ⟨keeps, remains keeps (value.place_apart closed inside)⟩
  | @copy hand store standing slot seen =>
      have within := (arranged.store.seen (List.forall_mem_append.mpr ⟨lends, arranged.hand⟩) seen).2
      have keeps := (store.copy_extends slot).keeps closed inside
      exact ⟨keeps, remains keeps fun address named other leads same =>
        Store.copy_apart closed within address named other leads (inside other same)⟩
  | @push hand store cell makes =>
      have within : cell.Within store.size := fun entry listed =>
        (arranged.store.seen arranged.hand (makes entry listed).2).2
      have keeps := (Store.Extends.push store cell).keeps closed inside
      exact ⟨keeps, remains keeps (Store.apart_push closed inside within fun entry listed =>
        (makes entry listed).2.apart apart)⟩
  | @found hand store cell own held =>
      have within : cell.Within store.size := fun entry listed =>
        (arranged.store.seen arranged.hand (held entry listed)).2
      have keeps := (Store.Extends.push store cell).keeps closed inside
      have own' := keeps.apart (arranged.store.seen arranged.hand own).2 (own.apart apart)
      have fresh := Store.apart_push closed inside within fun entry listed => (held entry listed).apart apart
      have put : Store.Keeps kept (store.push cell) ((store.push cell).replace address
          (Fields.put ((store.push cell).cell address) "properties" (.node store.size))) := by
        refine Store.keeps_replace own' fun entry listed => ?_
        rcases Fields.mem_put listed with rfl | listed
        · exact fresh
        · exact own'.entry listed
      exact ⟨keeps.trans put, remains (keeps.trans put) (put.apart (by simp) fresh)⟩
  | @assign hand store place slot key own found seen =>
      have members : store.Apart kept (.node place) := (own.apart apart).entry (Fields.mem_of_get? found)
      have keeps : Store.Keeps kept store (store.replace place (Fields.put (store.cell place) key slot)) := by
        refine Store.keeps_replace members fun entry listed => ?_
        rcases Fields.mem_put listed with rfl | listed
        · exact seen.apart apart
        · exact members.entry listed
      exact ⟨keeps, apart.keeps arranged keeps⟩
  | @put hand store key slot own named seen =>
      have keeps : Store.Keeps kept store (store.replace address (Fields.put (store.cell address) key slot)) := by
        refine Store.keeps_replace (own.apart apart) fun entry listed => ?_
        rcases Fields.mem_put listed with rfl | listed
        · exact seen.apart apart
        · exact (own.apart apart).entry listed
      exact ⟨keeps, apart.keeps arranged keeps⟩
  | @drop hand store other seen =>
      have keeps : Store.Keeps kept store (store.replace other (Fields.erase (store.cell other) "required")) :=
        Store.keeps_replace (seen.apart apart) fun entry listed => (seen.apart apart).entry (Fields.mem_erase listed)
      exact ⟨keeps, apart.keeps arranged keeps⟩

/-- All moves of a call keep what all that is at hand is apart from. -/
theorem Moves.keeps (moves : Moves lent address scene after) (arranged : scene.Arranged clean standings)
    (lends : lent.Stands scene.store standings)
    (inside : ∀ address, kept address → address < scene.store.size) (apart : scene.Apart kept) :
    Store.Keeps kept scene.store after.store ∧ after.Apart kept := by
  induction moves with
  | refl => exact ⟨.refl, apart⟩
  | @tail middle after before move ih =>
      obtain ⟨standings', arranged', advances, -⟩ := Moves.arranged before arranged lends
      obtain ⟨keeps, apart'⟩ := ih
      obtain ⟨keeps', apart''⟩ := move.keeps arranged' (lends.advance advances)
        (fun address same => Nat.lt_of_lt_of_le (inside address same) keeps.size) apart'
      exact ⟨keeps.trans keeps', apart''⟩

namespace Change

/-- A change that goes by moves keeps what all that is at hand is apart from, and what it gives is apart from it. -/
theorem GoesFrom.keeps {α : Type} {change : Change α} {gives : Hand → α → Prop} {result : Except Failure α}
    (goes : GoesFrom lent address ⟨hand, store⟩ change gives) (arranged : store.Arranged clean standings)
    (stands : hand.Stands store standings) (lends : lent.Stands store standings)
    (inside : ∀ address, kept address → address < store.size) (apart : ∀ held ∈ hand, store.Apart kept held.2)
    (ran : outcome change store = (result, later)) :
    Store.Keeps kept store later ∧ ∃ last : Hand, Ends later last gives result ∧ ∀ held ∈ last,
      later.Apart kept held.2 := by
  obtain ⟨last, -, moves, ends⟩ := goes
  rw [ran] at moves ends
  obtain ⟨keeps, apart'⟩ := moves.keeps ⟨arranged, stands⟩ lends inside apart
  exact ⟨keeps, last, ends, apart'⟩

end Change

/-- A copy leaves all that was there as it was, and is apart from it. -/
theorem Builder.clone_apart {root : Nat} {metadata : Operand} {result : Except Failure Nat}
    (arranged : store.Arranged clean standings) (schema : standings root = .schema)
    (ran : outcome (clone root metadata) store = (result, later)) :
    store.Extends later ∧ ∀ copy, result = .ok copy →
      later.Apart (fun address => address < store.size) (.node copy) := by
  have lends : Hand.Stands [(.schema, .node root)] store standings :=
    List.forall_mem_singleton.mpr ⟨schema, Slot.within_node.mpr (arranged.inside (by simp [schema]))⟩
  have held : (Standing.schema, Slot.node root) ∈ ([(.schema, .node root)] : Hand) := List.mem_cons_self
  obtain ⟨fresh, -, goes⟩ := goesFrom_clone store held metadata
  obtain ⟨keeps, last, ends, apart⟩ := goes.keeps arranged Hand.stands_nil lends (fun _ old => old)
    (fun _ listed => absurd listed List.not_mem_nil) ran
  refine ⟨⟨keeps.size, keeps.cells⟩, ?_⟩
  rintro copy rfl
  exact apart _ ends

/-- A copy of a schema stands for one in an arranged store. -/
theorem Builder.arranged_clone {root copy : Nat} {metadata : Operand} (arranged : store.Arranged clean standings)
    (schema : standings root = .schema) (ran : outcome (clone root metadata) store = (.ok copy, later)) :
    ∃ standings', later.Arranged clean standings' ∧ standings' copy = .schema := by
  have lends : Hand.Stands [(.schema, .node root)] store standings :=
    List.forall_mem_singleton.mpr ⟨schema, Slot.within_node.mpr (arranged.inside (by simp [schema]))⟩
  have held : (Standing.schema, Slot.node root) ∈ ([(.schema, .node root)] : Hand) := List.mem_cons_self
  obtain ⟨fresh, -, goes⟩ := goesFrom_clone store held metadata
  obtain ⟨standings', last, arranged', -, stands, ends, -⟩ := goes.arranged arranged Hand.stands_nil lends ran
  exact ⟨standings', arranged', (stands _ ends).1⟩

theorem Standing.eq_properties_of_under {owner self : Nat} {key : Key} {standing : Standing}
    (under : standing.under self key = .members owner) : self = owner ∧ key = "properties" := by
  cases standing with
  | schema =>
      by_cases walked : ∃ keyword role, (keyword, role) ∈ Walk.keywords ∧ key = .text keyword
      · obtain ⟨keyword, role, listed, rfl⟩ := walked
        have serves := Standing.serves_under self listed
        rw [under] at serves
        cases role with
        | members =>
            refine ⟨?_, congrArg Key.text (Walk.eq_properties_of_members listed)⟩
            obtain rfl := Walk.eq_properties_of_members listed
            exact Standing.members.inj under
        | _ => cases serves
      · have none := Standing.under_of_unwalked self fun keyword role listed same => walked ⟨keyword, role, listed, same⟩
        cases none.symm.trans under
  | _ => cases under

/-- An object that is the members of a schema is named by this schema alone, for its properties. -/
theorem Store.Arranged.owner_entry {owner place other : Nat} {entry : Key × Slot}
    (arranged : store.Arranged clean standings) (members : standings place = .members owner)
    (listed : entry ∈ store.cell other) (named : place ∈ entry.2.addresses) : other = owner ∧ entry.1 = "properties" := by
  have holds := arranged.holds other entry listed
  have plain : ∀ standing : Standing, standing.item ≠ .members owner :=
    fun standing => by cases standing <;> simp [Standing.item]
  cases same : entry.2 with
  | node address =>
      rw [same] at holds named
      obtain rfl := List.mem_singleton.mp named
      rw [Slot.stands_node, members] at holds
      exact Standing.eq_properties_of_under holds.symm
  | _ =>
      rw [same] at holds named
      exact absurd ((holds place named).symm.trans members) (plain _)

theorem Store.Arranged.owner {owner place other : Nat} (arranged : store.Arranged clean standings)
    (members : standings place = .members owner) (named : place ∈ (store.cell other).addresses) : other = owner := by
  obtain ⟨entry, listed, named⟩ := Cell.mem_addresses.mp named
  exact (arranged.owner_entry members listed named).1

end SchemaAlgebra
