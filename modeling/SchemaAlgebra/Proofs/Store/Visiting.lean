import SchemaAlgebra.Proofs.Builder.Order
import SchemaAlgebra.Proofs.Schema.Nodes

/-!
The objects that a walk visits, by position. Whatever the traversal of the store has seen, also one that comes to no
end, stands at such a position; in an orderly store it is a schema.
-/

namespace SchemaAlgebra

/-- Whether a walk enters a list in a role. -/
def Walk.Role.entersList : Walk.Role → Bool
  | .schema | .branches | .schemaOrList => true
  | .members | .objectOnly => false

/-- A walk through a slot in a role visits the object at an address. -/
inductive Store.Visits (store : Store) : Walk.Role → Slot → Nat → Prop
  | here {role : Walk.Role} {address : Nat} : role.isNode = true → Visits store role (.node address) address
  | keyword {role under : Walk.Role} {address node : Nat} {keyword : String} {slot : Slot} :
      role.isNode = true → (keyword, under) ∈ Walk.keywords → Fields.get? (store.cell address) keyword = some slot →
        Visits store under slot node → Visits store role (.node address) node
  | member {place node : Nat} {entry : Key × Slot} :
      entry ∈ store.cell place → Visits store .schema entry.2 node → Visits store .members (.node place) node
  | item {role : Walk.Role} {items : List Slot} {item : Slot} {node : Nat} :
      role.entersList = true → item ∈ items → Visits store .schema item node → Visits store role (.array items) node

variable {store : Store} {follow : Walk.Role → Nat → Trail} {node : Nat} {duties : Nat → Duty}

theorem Trail.mem_andThen {first next : Trail} (seen : node ∈ (first.andThen next).seen) :
    node ∈ first.seen ∨ node ∈ next.seen := by
  rw [andThen] at seen
  split at seen
  · exact List.mem_append.mp seen
  · exact .inl seen

mutual

theorem Slot.visits_of_mem_trail
    (each : ∀ role address, node ∈ (follow role address).seen → store.Visits role (.node address) node)
    (role : Walk.Role) : ∀ slot : Slot, node ∈ (slot.trail follow role).seen → store.Visits role slot node
  | .node address, seen => each role address seen
  | .array items, seen => by
      cases role with
      | schema | branches | schemaOrList =>
          obtain ⟨item, member, visits⟩ := Slot.visits_of_mem_itemsTrail each items seen
          exact .item rfl member visits
      | members | objectOnly => simp [trail, Trail.nothing] at seen
  | .null, seen | .bool _, seen | .int _, seen | .double _, seen | .string _, seen | .foreign _, seen => by
      simp [trail, Trail.nothing] at seen

theorem Slot.visits_of_mem_itemsTrail
    (each : ∀ role address, node ∈ (follow role address).seen → store.Visits role (.node address) node) :
    ∀ items : List Slot, node ∈ (itemsTrail follow items).seen → ∃ item ∈ items, store.Visits .schema item node
  | [], seen => by simp [itemsTrail, Trail.nothing] at seen
  | item :: rest, seen => by
      rcases Trail.mem_andThen seen with seen | seen
      · exact ⟨item, List.mem_cons_self, Slot.visits_of_mem_trail each .schema item seen⟩
      · obtain ⟨other, member, visits⟩ := Slot.visits_of_mem_itemsTrail each rest seen
        exact ⟨other, List.mem_cons_of_mem item member, visits⟩

end

theorem Cell.visits_of_mem_membersTrail
    (each : ∀ role address, node ∈ (follow role address).seen → store.Visits role (.node address) node) {cell : Cell}
    (seen : node ∈ (cell.membersTrail follow).seen) : ∃ entry ∈ cell, store.Visits .schema entry.2 node := by
  induction cell with
  | nil => simp [membersTrail, Trail.nothing] at seen
  | cons entry rest ih =>
      rcases Trail.mem_andThen seen with seen | seen
      · exact ⟨entry, List.mem_cons_self, Slot.visits_of_mem_trail each .schema entry.2 seen⟩
      · obtain ⟨other, member, visits⟩ := ih seen
        exact ⟨other, List.mem_cons_of_mem entry member, visits⟩

theorem Cell.visits_of_mem_keywordsTrail
    (each : ∀ role address, node ∈ (follow role address).seen → store.Visits role (.node address) node) {cell : Cell}
    {listed : List (String × Walk.Role)} (seen : node ∈ (cell.keywordsTrail follow listed).seen) :
    ∃ entry ∈ listed, ∃ slot, Fields.get? cell (.text entry.1) = some slot ∧ store.Visits entry.2 slot node := by
  induction listed with
  | nil => simp [keywordsTrail, Trail.nothing] at seen
  | cons entry rest ih =>
      rcases Trail.mem_andThen seen with seen | seen
      · cases found : Fields.get? cell (.text entry.1) with
        | none => simp [found, Trail.nothing] at seen
        | some slot =>
            rw [found] at seen
            exact ⟨entry, List.mem_cons_self, slot, found, Slot.visits_of_mem_trail each entry.2 slot seen⟩
      · obtain ⟨other, member, visits⟩ := ih seen
        exact ⟨other, List.mem_cons_of_mem entry member, visits⟩

namespace Store

theorem visits_of_mem_trailWithin (steps : Nat) : ∀ role address,
    node ∈ (store.trailWithin steps role address).seen → store.Visits role (.node address) node := by
  induction steps with
  | zero => simp [trailWithin]
  | succ steps ih =>
      intro role address seen
      have under (own : role.isNode = true)
          (seen : node ∈ (Trail.andThen ⟨[address], true⟩
            ((store.cell address).keywordsTrail (store.trailWithin steps) Walk.keywords)).seen) :
          store.Visits role (.node address) node := by
        rcases Trail.mem_andThen seen with seen | seen
        · obtain rfl := List.mem_singleton.mp seen
          exact .here own
        · obtain ⟨entry, listed, slot, found, visits⟩ := Cell.visits_of_mem_keywordsTrail ih seen
          exact .keyword own listed found visits
      cases role with
      | members =>
          obtain ⟨entry, member, visits⟩ := Cell.visits_of_mem_membersTrail ih seen
          exact .member member visits
      | branches => simp [trailWithin, Trail.nothing] at seen
      | schema | schemaOrList | objectOnly => exact under rfl seen

theorem visits_of_mem_trail {slot : Slot} (seen : node ∈ (store.trail slot).seen) : store.Visits .schema slot node :=
  Slot.visits_of_mem_trail (visits_of_mem_trailWithin store.size) .schema slot seen

/-- A walk of an orderly store visits schemas only. -/
theorem Orderly.visits (orderly : store.Orderly duties) {role : Walk.Role} {slot : Slot} (fills : slot.Fills duties role)
    (visits : store.Visits role slot node) : duties node = .schema := by
  induction visits with
  | @here role address own => cases role <;> simp_all [Walk.Role.isNode, Slot.Fills]
  | @keyword role under address _ keyword slot own listed found _ ih =>
      have duty : duties address = .schema := by cases role <;> simp_all [Walk.Role.isNode, Slot.Fills]
      exact ih ((orderly.schema duty).fills keyword under listed slot found)
  | @member place _ entry listed _ ih =>
      obtain ⟨_, ⟨⟩, duty⟩ := fills
      obtain ⟨members, cell, -, schematic⟩ := orderly.members duty
      rw [cell] at listed
      obtain ⟨member, listed', rfl⟩ := List.mem_map.mp listed
      exact ih (schematic member listed')
  | @item role items item _ own listed _ ih =>
      have schematic : (Slot.array items).Schematic duties := by
        cases role <;> simp_all [Walk.Role.entersList, Slot.Fills]
      exact ih (Slot.schematic_array.mp schematic item listed)

end Store

/-!
The trail through a slot that denotes a value comes to an end, and then it has seen all that a walk visits: an object
that is too deep for the trail is too deep to be read.
-/

namespace Trail

/-- A trail came to an end and has seen all nodes of a kind. -/
structure Covers (trail : Trail) (visited : Nat → Prop) : Prop where
  finished : trail.finished = true
  sees : ∀ node, visited node → node ∈ trail.seen

variable {first next trail : Trail} {visited visited' : Nat → Prop}

theorem Covers.imp (covers : trail.Covers visited) (less : ∀ node, visited' node → visited node) :
    trail.Covers visited' :=
  ⟨covers.finished, fun node visits => covers.sees node (less node visits)⟩

theorem covers_nothing (none : ∀ node, ¬ visited node) : nothing.Covers visited :=
  ⟨rfl, fun node visits => absurd visits (none node)⟩

theorem covers_single (address : Nat) : (⟨[address], true⟩ : Trail).Covers (· = address) :=
  ⟨rfl, fun _ same => List.mem_singleton.mpr same⟩

theorem Covers.andThen (covers : first.Covers visited) (covers' : next.Covers visited') :
    (first.andThen next).Covers fun node => visited node ∨ visited' node := by
  rw [Trail.andThen, if_pos covers.finished]
  refine ⟨covers'.finished, fun node visits => List.mem_append.mpr ?_⟩
  exact visits.imp (covers.sees node) (covers'.sees node)

end Trail

variable {store : Store} {follow : Walk.Role → Nat → Trail} {slot : Slot} {node : Nat}

mutual

theorem Slot.covers_trail (role : Walk.Role) : ∀ slot : Slot,
    (∀ address ∈ slot.addresses, ∀ role, (follow role address).Covers (store.Visits role (.node address))) →
      (slot.trail follow role).Covers (store.Visits role slot)
  | .node address, each => each address (by simp [addresses]) role
  | .array items, each => by
      cases role with
      | schema | branches | schemaOrList =>
          refine (Slot.covers_itemsTrail items each).imp fun node visits => ?_
          cases visits with
          | item _ listed inside => exact ⟨_, listed, inside⟩
      | members | objectOnly =>
          refine Trail.covers_nothing fun node visits => ?_
          cases visits with
          | item own _ _ => cases own
  | .null, _ | .bool _, _ | .int _, _ | .double _, _ | .string _, _ | .foreign _, _ =>
      Trail.covers_nothing fun node visits => by cases visits

theorem Slot.covers_itemsTrail : ∀ items : List Slot,
    (∀ address ∈ itemAddresses items, ∀ role, (follow role address).Covers (store.Visits role (.node address))) →
      (itemsTrail follow items).Covers fun node => ∃ item ∈ items, store.Visits .schema item node
  | [], _ => Trail.covers_nothing (by simp)
  | item :: rest, each => by
      have here := Slot.covers_trail .schema item fun address named =>
        each address (List.mem_append_left _ named)
      have others := Slot.covers_itemsTrail rest fun address named => each address (List.mem_append_right _ named)
      exact (here.andThen others).imp (by simp)

end

theorem Cell.covers_membersTrail {cell : Cell}
    (each : ∀ address ∈ cell.addresses, ∀ role, (follow role address).Covers (store.Visits role (.node address))) :
    (cell.membersTrail follow).Covers fun node => ∃ entry ∈ cell, store.Visits .schema entry.2 node := by
  induction cell with
  | nil => exact Trail.covers_nothing (by simp)
  | cons entry rest ih =>
      have here := Slot.covers_trail .schema entry.2 fun address named =>
        each address (Cell.mem_addresses.mpr ⟨entry, List.mem_cons_self, named⟩)
      have others := ih fun address named => by
        obtain ⟨other, listed, named⟩ := Cell.mem_addresses.mp named
        exact each address (Cell.mem_addresses.mpr ⟨other, List.mem_cons_of_mem _ listed, named⟩)
      exact (here.andThen others).imp (by simp)

theorem Cell.covers_keywordsTrail {cell : Cell}
    (each : ∀ address ∈ cell.addresses, ∀ role, (follow role address).Covers (store.Visits role (.node address)))
    (listed : List (String × Walk.Role)) : (cell.keywordsTrail follow listed).Covers fun node =>
      ∃ entry ∈ listed, ∃ slot, Fields.get? cell (.text entry.1) = some slot ∧ store.Visits entry.2 slot node := by
  induction listed with
  | nil => exact Trail.covers_nothing (by simp)
  | cons entry rest ih =>
      rw [keywordsTrail]
      cases found : Fields.get? cell (.text entry.1) with
      | none =>
          have under : Trail.nothing.Covers fun _ => False := Trail.covers_nothing fun _ none => none
          exact (under.andThen ih).imp (by simp [found])
      | some slot =>
          have under := Slot.covers_trail entry.2 slot fun address named =>
            each address (Cell.mem_addresses.mpr ⟨_, Fields.mem_of_get? found, named⟩)
          exact (under.andThen ih).imp (by simp [found])

namespace Store

/-- The trail from an object that can be read to some depth does not have to go deeper. -/
theorem covers_trailWithin (steps : Nat) : ∀ role address, (store.treeWithin steps address).isSome = true →
    (store.trailWithin steps role address).Covers (store.Visits role (.node address)) := by
  induction steps with
  | zero => exact fun _ _ read => by simp [treeWithin] at read
  | succ steps ih =>
      intro role address read
      have each : ∀ other ∈ (store.cell address).addresses, ∀ role,
          (store.trailWithin steps role other).Covers (store.Visits role (.node other)) := fun other named role =>
        ih role other ((isSome_treeWithin_succ steps address).mp read other named)
      cases role with
      | members =>
          refine (Cell.covers_membersTrail each).imp fun node visits => ?_
          cases visits with
          | here own => cases own
          | keyword own _ _ _ => cases own
          | member listed inside => exact ⟨_, listed, inside⟩
      | branches =>
          refine Trail.covers_nothing fun node visits => ?_
          cases visits with
          | here own => cases own
          | keyword own _ _ _ => cases own
      | schema | schemaOrList | objectOnly =>
          refine ((Trail.covers_single address).andThen (Cell.covers_keywordsTrail each Walk.keywords)).imp
            fun node visits => ?_
          cases visits with
          | here _ => exact .inl rfl
          | keyword _ listed found inside => exact .inr ⟨_, listed, _, found, inside⟩

/-- The trail through a finite slot comes to an end, and has seen all that a walk visits. -/
theorem covers_trail (read : (store.tree? slot).isSome = true) :
    (store.trail slot).Covers (store.Visits .schema slot) :=
  Slot.covers_trail .schema slot fun address named role =>
    covers_trailWithin store.size role address ((Slot.isSome_of_tree? slot).mp read address named)

theorem mem_trail_iff (read : (store.tree? slot).isSome = true) :
    node ∈ (store.trail slot).seen ↔ store.Visits .schema slot node :=
  ⟨visits_of_mem_trail, (covers_trail read).sees node⟩

end Store

end SchemaAlgebra
