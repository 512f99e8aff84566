import SchemaAlgebra.Proofs.Builder.Rounds
import SchemaAlgebra.Proofs.Builder.Surrounding
import SchemaAlgebra.Proofs.Store.Separation

/-!
Alternatives, one after the other. Each round puts a choice in the place of one property: between what it was and a copy
of the alternative as this is then. All else stays as it was. So the alternative of every property is what the given one
was before, exactly if there is at most one property, or the given one does not lead to the properties that are amended:
else the second copy holds the first.
-/

namespace SchemaAlgebra

namespace Fields

variable {κ α : Type} [DecidableEq κ]

/-- An entry is still there after a key gets a value, unless it is the one that is found under the key. -/
theorem mem_put_or {fields : Fields κ α} {entry : κ × α} (listed : entry ∈ fields) (key : κ) (value : α) :
    entry ∈ fields.put key value ∨ fields.get? key = some entry.2 := by
  induction fields with
  | nil => cases listed
  | cons first rest ih =>
      obtain ⟨k, v⟩ := first
      rw [put, get?_cons]
      by_cases same : k = key
      · rw [if_pos same, if_pos same]
        rcases List.mem_cons.mp listed with rfl | listed
        · exact .inr rfl
        · exact .inl (List.mem_cons_of_mem _ listed)
      · rw [if_neg same, if_neg same]
        rcases List.mem_cons.mp listed with rfl | listed
        · exact .inl List.mem_cons_self
        · exact (ih listed).imp_left (List.mem_cons_of_mem _)

end Fields

namespace Store

open Builder

variable {store later last : Store} {address place root : Nat} {name : String} {names names' : List String}
  {first second : Slot}

/-- Under a name stands the choice between two schemas. -/
def Chooses (store : Store) (cell : Cell) (name : String) (first second : Slot) : Prop :=
  ∃ node, Fields.get? cell (.text name) = some (.node node) ∧ store.cell node = choice first second

/-- The properties of a schema, as they stand. -/
def propertiesAt (store : Store) (address : Nat) : Cell :=
  match Fields.get? (store.cell address) "properties" with
  | some (.node place) => store.cell place
  | _ => []

/-- A schema is as it was, except that some properties have the choice between what they were and something else. -/
structure Varies (store later : Store) (address : Nat) (names : List String) : Prop where
  own : later.cell address = store.cell address
  keywords : ∀ entry ∈ store.cell address, entry.1 ≠ "properties" → later.tree? entry.2 = store.tree? entry.2
  keys : Fields.keys (later.propertiesAt address) = Fields.keys (store.propertiesAt address)
  others : ∀ key, (∀ name ∈ names, key ≠ .text name) →
    Fields.get? (later.propertiesAt address) key = Fields.get? (store.propertiesAt address) key
  members : ∀ entry ∈ store.propertiesAt address, later.tree? entry.2 = store.tree? entry.2
  chosen : ∀ name ∈ names, ∃ old other, Fields.get? (store.propertiesAt address) (.text name) = some old ∧
    later.Chooses (later.propertiesAt address) name old other

/-- The store after a round: a name has the choice between what it was and a copy of the alternative. -/
def offered (place alternative : Nat) (store : Store) (name : String) : Store :=
  ((store.copy (.node alternative)).2.push (choice ((Fields.get? (store.cell place) (.text name)).getD .null)
    (store.copy (.node alternative)).1)).withMember place name (.node (store.copy (.node alternative)).2.size)

/-- An object is amended under some names only, and keeps its keys. -/
structure Reworks (place : Nat) (names : List String) (store later : Store) : Prop where
  amends : Amends place store later
  keys : Fields.keys (later.cell place) = Fields.keys (store.cell place)
  others : ∀ key, (∀ name ∈ names, key ≠ .text name) →
    Fields.get? (later.cell place) key = Fields.get? (store.cell place) key

theorem Reworks.refl (closed : store.Closed) : Reworks place [] store store :=
  ⟨.refl closed, rfl, fun _ _ => rfl⟩

theorem Reworks.trans (reworks : Reworks place names store later) (reworks' : Reworks place names' later last) :
    Reworks place (names ++ names') store last where
  amends := reworks.amends.trans reworks'.amends
  keys := reworks'.keys.trans reworks.keys
  others key other := by
    rw [reworks'.others key fun name listed => other name (List.mem_append_right _ listed),
      reworks.others key fun name listed => other name (List.mem_append_left _ listed)]

theorem Reworks.has (reworks : Reworks place names store later) (key : Key) :
    Fields.has (later.cell place) key = Fields.has (store.cell place) key := by
  rw [Fields.has_eq_decide, Fields.has_eq_decide, reworks.keys]

/-- A choice under another name is kept. -/
theorem Chooses.keep (chooses : store.Chooses (store.cell place) name first second) (closed : store.Closed)
    (reworks : Reworks place names store later) (other : name ∉ names) :
    later.Chooses (later.cell place) name first second := by
  obtain ⟨node, found, cell⟩ := chooses
  have apart : node ≠ place := by
    rintro rfl
    rw [cell, choice, Fields.get?_cons] at found
    split at found <;> cases found
  refine ⟨node, ?_, ?_⟩
  · rw [reworks.others _ fun name' listed same => other (by cases same; exact listed), found]
  · have named : node ∈ (store.cell place).addresses :=
      Cell.mem_addresses.mpr ⟨_, Fields.mem_of_get? found, List.mem_singleton_self _⟩
    rw [reworks.amends.cells node (closed place node named) apart, cell]

/-- A name has one choice. -/
theorem Chooses.unique {cell : Cell} {first' second' : Slot} (chooses : store.Chooses cell name first second)
    (chooses' : store.Chooses cell name first' second') : first = first' ∧ second = second' := by
  obtain ⟨node, found, cell⟩ := chooses
  obtain ⟨node', found', cell'⟩ := chooses'
  obtain rfl := Slot.node.inj (Option.some.inj (found.symm.trans found'))
  simpa [choice] using cell.symm.trans cell'

theorem Extends.reworks (grown : store.Extends later) (closed : later.Closed) (inside : place < store.size) :
    Reworks place [] store later where
  amends := ⟨closed, grown.size, fun other old _ => grown.cells other old, fun other named =>
    ⟨other, by rwa [grown.cells place inside], .refl⟩⟩
  keys := by rw [grown.cells place inside]
  others key _ := by rw [grown.cells place inside]

/-- A name of an object gets the choice between what it was and something else. -/
theorem reworks_choice {old other : Slot} (closed : store.Closed) (inside : place < store.size)
    (held : Fields.get? (store.cell place) (.text name) = some old) (within : other.Within store.size) :
    Reworks place [name] store ((store.push (choice old other)).withMember place name (.node store.size)) ∧
      ((store.push (choice old other)).withMember place name (.node store.size)).Chooses
        (((store.push (choice old other)).withMember place name (.node store.size)).cell place) name old other := by
  have within' : old.Within store.size := closed_iff.mp closed place _ (Fields.mem_of_get? held)
  have pushed := closed.push (within_choice within' within)
  have inside' : place < (store.push (choice old other)).size := by rw [size_push]; omega
  have apart : store.size ≠ place := Nat.ne_of_gt inside
  set later := (store.push (choice old other)).withMember place name (.node store.size) with same
  have cell (address : Nat) : later.cell address = if place = address then
      Fields.put (store.cell place) (.text name) (.node store.size)
      else if address = store.size then choice old other else store.cell address := by
    rw [same, cell_withMember inside', cell_push, cell_push, if_neg (Nat.ne_of_lt inside)]
  have own : later.cell place = Fields.put (store.cell place) (.text name) (.node store.size) := by rw [cell, if_pos rfl]
  have chosen : later.cell store.size = choice old other := by rw [cell, if_neg apart.symm, if_pos rfl]
  have size : later.size = store.size + 1 := by rw [same, size_withMember, size_push]
  have found : Fields.get? (later.cell place) (.text name) = some (.node store.size) := by rw [own, Fields.get?_put_self]
  have node : store.size ∈ (later.cell place).addresses :=
    Cell.mem_addresses.mpr ⟨_, Fields.mem_of_get? found, List.mem_singleton_self _⟩
  refine ⟨⟨⟨?_, by omega, fun address old different => ?_, fun address named => ?_⟩, ?_, fun key other => ?_⟩,
    store.size, found, chosen⟩
  · refine pushed.replace fun entry listed => ?_
    rcases Fields.mem_put listed with rfl | listed
    · exact Slot.within_node.mpr (by rw [size_push]; omega)
    · exact closed_iff.mp pushed place entry listed
  · rw [cell, if_neg different.symm, if_neg (Nat.ne_of_lt old)]
  · obtain ⟨entry, listed, named⟩ := Cell.mem_addresses.mp named
    rcases Fields.mem_put_or listed (.text name) (.node store.size) with kept | found
    · exact ⟨address, Cell.mem_addresses.mpr ⟨entry, own ▸ kept, named⟩, .refl⟩
    · -- what the name held is held by the choice
      obtain rfl : old = entry.2 := Option.some.inj (held.symm.trans found)
      refine ⟨store.size, node, .single ?_⟩
      rw [chosen]
      exact Cell.mem_addresses.mpr ⟨_, List.mem_singleton_self _,
        Slot.mem_itemAddresses.mpr ⟨entry.2, List.mem_cons_self, named⟩⟩
  · rw [own, Fields.keys_put, if_pos (by rw [Fields.has, held]; rfl)]
  · rw [own, Fields.get?_put, if_neg (other name List.mem_cons_self).symm]

section

variable (closed : store.Closed) (inside : place < store.size) (root_inside : root < store.size)

include closed inside root_inside

/-- A round reworks the object. Its name gets the choice between what it was and a copy that is apart from the object and
is read as the alternative is. -/
theorem offered_reworks {old : Slot} (held : Fields.get? (store.cell place) (.text name) = some old) :
    Reworks place [name] store (offered place root store name) ∧ ∃ copy,
      (offered place root store name).Chooses ((offered place root store name).cell place) name old (.node copy) ∧
        copy < (offered place root store name).size ∧ (offered place root store name).Apart (· = place) (.node copy) ∧
        (offered place root store name).tree? (.node copy) = store.tree? (.node root) := by
  have within : (Slot.node root).Within store.size := Slot.within_node.mpr root_inside
  have grown := store.copy_extends (.node root)
  have closed' := closed_copy closed within
  have apart : (store.copy (.node root)).2.Apart (· = place) (store.copy (.node root)).1 :=
    fun address named other leads same => copy_apart closed within address named other leads (same ▸ inside)
  obtain ⟨reworks, chooses⟩ := reworks_choice closed' (Nat.lt_of_lt_of_le inside grown.size)
    (by rw [grown.cells place inside, held]) (copy_within closed within)
  have read := reworks.amends.tree?_of_apart closed' (copy_within closed within) apart
  rw [tree?_copy closed within] at read
  rw [offered, held]
  exact ⟨(grown.reworks closed' inside).trans reworks, _, chooses,
    Slot.within_node.mp ((copy_within closed within).mono reworks.amends.size),
    reworks.amends.apart closed' (copy_within closed within) apart, read⟩

/-- The rounds under some names rework the object under these. -/
theorem foldl_reworks (names : List String) :
    (∀ name ∈ names, Fields.has (store.cell place) (.text name) = true) →
      Reworks place names store (names.foldl (offered place root) store) := by
  induction names generalizing store with
  | nil => exact fun _ => .refl closed
  | cons name rest ih =>
      intro present
      obtain ⟨here, present⟩ := List.forall_mem_cons.mp present
      obtain ⟨old, held⟩ := Option.isSome_iff_exists.mp here
      obtain ⟨reworks, -⟩ := offered_reworks closed inside root_inside held
      have size := reworks.amends.size
      exact reworks.trans (ih reworks.amends.closed (Nat.lt_of_lt_of_le inside size) (Nat.lt_of_lt_of_le root_inside size)
        fun other listed => (reworks.has _).trans (present other listed))

/-- After all rounds a name has the choice between what it was and what the alternative was read as in its round. -/
theorem foldl_chooses {before rest : List String} (distinct : (before ++ name :: rest).Nodup)
    (present : ∀ other ∈ before ++ name :: rest, Fields.has (store.cell place) (.text other) = true) :
    ∃ old copy, Fields.get? (store.cell place) (.text name) = some old ∧
      ((before ++ name :: rest).foldl (offered place root) store).Chooses
        (((before ++ name :: rest).foldl (offered place root) store).cell place) name old (.node copy) ∧
      ((before ++ name :: rest).foldl (offered place root) store).tree? (.node copy) =
        (before.foldl (offered place root) store).tree? (.node root) := by
  obtain ⟨here, rest_present⟩ := List.forall_mem_cons.mp (List.forall_mem_append.mp present).2
  obtain ⟨old, held⟩ := Option.isSome_iff_exists.mp here
  have before_free : name ∉ before := fun listed =>
    (List.nodup_append.mp distinct).2.2 name listed name List.mem_cons_self rfl
  have rest_free : name ∉ rest := (List.nodup_cons.mp (List.nodup_append.mp distinct).2.1).1
  have earlier := foldl_reworks closed inside root_inside before (List.forall_mem_append.mp present).1
  rw [List.foldl_append, List.foldl_cons]
  set middle := before.foldl (offered place root) store
  have inside' := Nat.lt_of_lt_of_le inside earlier.amends.size
  have root_inside' := Nat.lt_of_lt_of_le root_inside earlier.amends.size
  have held' : Fields.get? (middle.cell place) (.text name) = some old := by
    rw [earlier.others _ fun other listed same => before_free (by cases same; exact listed), held]
  obtain ⟨round, copy, chooses, copied, apart, read⟩ :=
    offered_reworks earlier.amends.closed inside' root_inside' held'
  have later := foldl_reworks round.amends.closed (Nat.lt_of_lt_of_le inside' round.amends.size)
    (Nat.lt_of_lt_of_le root_inside' round.amends.size) rest fun other listed => by
      rw [round.has, earlier.has, rest_present other listed]
  refine ⟨old, copy, held, chooses.keep round.amends.closed later rest_free, ?_⟩
  rw [later.amends.tree?_of_apart round.amends.closed (Slot.within_node.mpr copied) apart, read]

/-- The first round makes the alternative larger, if it leads to the object that is reworked. -/
theorem offered_read_ne {alternative : Json} (read : store.tree? (.node root) = some alternative)
    (present : Fields.has (store.cell place) (.text name) = true) (leads : store.Leads root place) :
    (offered place root store name).tree? (.node root) ≠ some alternative := by
  obtain ⟨old, held⟩ := Option.isSome_iff_exists.mp present
  obtain ⟨round, copy, ⟨node, found, cell⟩, copied, -, same⟩ := offered_reworks closed inside root_inside held
  set later := offered place root store name
  have node_named : node ∈ (later.cell place).addresses :=
    Cell.mem_addresses.mpr ⟨_, Fields.mem_of_get? found, List.mem_singleton_self _⟩
  have copy_named : copy ∈ (later.cell node).addresses := by
    rw [cell]
    exact Cell.mem_addresses.mpr ⟨_, List.mem_singleton_self _, Slot.mem_itemAddresses.mpr
      ⟨.node copy, by simp, List.mem_singleton_self _⟩⟩
  intro read'
  have whole : later.Denotes (.node root) alternative := ⟨_, read'⟩
  have part : later.Denotes (.node copy) alternative := ⟨_, same.trans read⟩
  exact Nat.lt_irrefl _ (whole.sizeOf_lt_of_leads ((round.amends.leads leads).tail node_named) copy_named part)

/-- Every name has the alternative that was given, exactly if there is at most one, or the alternative does not lead to
the object that is reworked. -/
theorem alternatives_iff {alternative : Json} (read : store.tree? (.node root) = some alternative) (distinct : names.Nodup)
    (present : ∀ name ∈ names, Fields.has (store.cell place) (.text name) = true) :
    (∀ name ∈ names, ∃ old copy, (names.foldl (offered place root) store).Chooses
        ((names.foldl (offered place root) store).cell place) name old copy ∧
        (names.foldl (offered place root) store).tree? copy = some alternative) ↔
      names.length ≤ 1 ∨ ¬ store.Leads root place := by
  constructor
  · intro each
    rw [or_iff_not_imp_left, Nat.not_le]
    intro several leads
    obtain ⟨first, second, rest, rfl⟩ : ∃ first second rest, names = first :: second :: rest := by
      match names, several with
      | first :: second :: rest, _ => exact ⟨first, second, rest, rfl⟩
    obtain ⟨old, copy, -, chooses, same⟩ := foldl_chooses closed inside root_inside
      (show ([first] ++ second :: rest).Nodup from distinct) present
    obtain ⟨old', copy', chooses', read'⟩ := each second (by simp)
    obtain ⟨-, rfl⟩ := chooses.unique chooses'
    exact offered_read_ne closed inside root_inside read (present first (by simp)) leads (same.symm.trans read')
  · intro either name listed
    obtain ⟨before, rest, rfl⟩ := List.append_of_mem listed
    obtain ⟨old, copy, -, chooses, same⟩ := foldl_chooses closed inside root_inside distinct present
    refine ⟨old, .node copy, chooses, same.trans ?_⟩
    rcases either with few | apart
    · obtain rfl : before = [] := by
        rw [List.length_append, List.length_cons] at few
        exact List.eq_nil_of_length_eq_zero (by omega)
      exact read
    · have earlier := foldl_reworks closed inside root_inside before (List.forall_mem_append.mp present).1
      rw [earlier.amends.tree?_of_apart closed (Slot.within_node.mpr root_inside), read]
      rintro address named other leads rfl
      exact apart (List.mem_singleton.mp named ▸ leads)

end

end Store

namespace Builder

variable {clean : Prop} {store : Store} {standings : Nat → Standing} {address place root : Nat} {names : List String}
  {operand : Operand}

/-- The rounds come to an end. -/
theorem outcome_offer_foldl (closed : store.Closed) (inside : address < store.size)
    (found : Fields.get? (store.cell address) "properties" = some (.node place)) (apart : address ≠ place)
    (root_inside : root < store.size) (present : ∀ name ∈ names, Fields.has (store.cell place) (.text name) = true) :
    outcome (offer address root (names.map .string)) store = (.ok (), names.foldl (Store.offered place root) store) := by
  induction names generalizing store with
  | nil => rfl
  | cons name rest ih =>
      obtain ⟨here, present⟩ := List.forall_mem_cons.mp present
      obtain ⟨old, held⟩ := Option.isSome_iff_exists.mp here
      have place_inside : place < store.size :=
        Slot.within_node.mp (Store.closed_iff.mp closed address _ (Fields.mem_of_get? found))
      obtain ⟨reworks, -⟩ := Store.offered_reworks closed place_inside root_inside held
      have size := reworks.amends.size
      rw [List.map_cons, outcome_offer_node inside found held, List.foldl_cons]
      have next : ((store.copy (.node root)).2.push (choice old (store.copy (.node root)).1)).withMember place name
          (.node (store.copy (.node root)).2.size) = Store.offered place root store name := by
        rw [Store.offered, held, Option.getD_some]
      rw [next]
      refine ih reworks.amends.closed (Nat.lt_of_lt_of_le inside size) ?_ (Nat.lt_of_lt_of_le root_inside size)
        fun other listed => (reworks.has _).trans (present other listed)
      rw [reworks.amends.cells address inside apart, found]

/-- What comes of the rounds, told of the schema: it varies as it is told, and every property has the alternative that
was given, exactly if there is at most one, or the alternative does not lead to the schema. -/
theorem foldl_varies (arranged : store.Arranged clean standings) (schema : standings address = .schema)
    (schema' : standings root = .schema)
    (found : Fields.get? (store.cell address) "properties" = some (.node place)) {alternative : Json}
    (read : store.tree? (.node root) = some alternative) (distinct : names.Nodup)
    (present : ∀ name ∈ names, Fields.has (store.cell place) (.text name) = true) :
    store.Varies (names.foldl (Store.offered place root) store) address names ∧
      ((∀ name ∈ names, ∃ old other, (names.foldl (Store.offered place root) store).Chooses
          ((names.foldl (Store.offered place root) store).propertiesAt address) name old other ∧
          (names.foldl (Store.offered place root) store).tree? other = some alternative) ↔
        names.length ≤ 1 ∨ ¬ store.Leads root address) := by
  have closed := arranged.closed
  have members := arranged.members schema found
  have inside : address < store.size := arranged.inside (by simp [schema])
  have place_inside : place < store.size := arranged.inside (by simp [members])
  have root_inside : root < store.size := arranged.inside (by simp [schema'])
  have apart : address ≠ place := by
    rintro rfl
    cases schema.symm.trans members
  have root_apart : root ≠ place := by
    rintro rfl
    cases schema'.symm.trans members
  have named : place ∈ (store.cell address).addresses :=
    Cell.mem_addresses.mpr ⟨_, Fields.mem_of_get? found, List.mem_singleton_self _⟩
  have leads : store.Leads root place ↔ store.Leads root address :=
    ⟨fun leads => arranged.leads_owner members leads root_apart, fun leads => leads.tail named⟩
  have reworks := Store.foldl_reworks closed place_inside root_inside names present
  set later := names.foldl (Store.offered place root) store
  have own : later.cell address = store.cell address := reworks.amends.cells address inside apart
  have before : store.propertiesAt address = store.cell place := by rw [Store.propertiesAt, found]
  have after : later.propertiesAt address = later.cell place := by rw [Store.propertiesAt, own, found]
  rw [after, ← leads]
  refine ⟨⟨own, fun entry listed other => ?_, ?_, fun key other => ?_, fun entry listed => ?_, fun name listed => ?_⟩,
    Store.alternatives_iff closed place_inside root_inside read distinct present⟩
  · -- what leads to the properties from elsewhere leads to the schema first
    refine reworks.amends.tree?_of_turn closed listed fun turns back => turns ?_
    intro start held last comes same
    subst same
    refine back start held address (arranged.leads_owner members comes ?_) rfl
    rintro rfl
    exact other (arranged.owner_entry members listed held).2
  · rw [before, after, reworks.keys]
  · rw [before, after, reworks.others key other]
  · exact reworks.amends.tree?_of_turn closed (before ▸ listed) id
  · obtain ⟨former, rest, rfl⟩ := List.append_of_mem listed
    obtain ⟨old, copy, held, chooses, -⟩ := Store.foldl_chooses closed place_inside root_inside distinct present
    exact ⟨old, .node copy, before ▸ held, after ▸ chooses⟩

/-- Properties of a simple schema in an arranged store can be given an alternative. -/
theorem outcome_transform_named (arranged : store.Arranged clean standings) (schema : standings address = .schema)
    (schema' : standings root = .schema) (simple : Shape.isSimpleObjectSchema (Cell.face (store.cell address)) = true)
    {alternative : Json} (read : store.tree? (.node root) = some alternative) (listed : operand.Lists names)
    (distinct : names.Nodup) (declared : ∀ name ∈ names, Fields.has (store.propertiesAt address) (.text name) = true) :
    ∃ later, outcome (transform address (.builder root) operand) store = (.ok (), later) ∧
      store.Varies later address names ∧
      ((∀ name ∈ names, ∃ old other, later.Chooses (later.propertiesAt address) name old other ∧
          later.tree? other = some alternative) ↔ names.length ≤ 1 ∨ ¬ store.Leads root address) := by
  cases names with
  | nil =>
      refine ⟨store, outcome_transform simple listed (outcome_properties address store) (by simp), ?_, by simp⟩
      exact ⟨rfl, fun _ _ _ => rfl, rfl, fun _ _ => rfl, fun _ _ => rfl, by simp⟩
  | cons name rest =>
      obtain ⟨place, found⟩ : ∃ place, Fields.get? (store.cell address) "properties" = some (.node place) := by
        have here := declared name List.mem_cons_self
        unfold Store.propertiesAt at here
        split at here
        · next place found => exact ⟨place, found⟩
        · cases here
      have before : store.propertiesAt address = store.cell place := by rw [Store.propertiesAt, found]
      rw [before] at declared
      have inside : address < store.size := arranged.inside (by simp [schema])
      have apart : address ≠ place := by
        rintro rfl
        cases schema.symm.trans (arranged.members schema found)
      have ran : outcome (transform address (.builder root) operand) store = _ :=
        outcome_transform simple listed (outcome_properties_node found (declared name List.mem_cons_self))
          fun other among => (outcome_holds_node place other store).trans (by rw [declared other among])
      rw [outcome_offer_foldl arranged.closed inside found apart (arranged.inside (by simp [schema'])) declared] at ran
      exact ⟨_, ran, foldl_varies arranged schema schema' found read distinct declared⟩

end Builder

end SchemaAlgebra
