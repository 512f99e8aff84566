import SchemaAlgebra.Proofs.Builder.Members
import SchemaAlgebra.Proofs.Builder.Staying
import SchemaAlgebra.Proofs.Store.Copying

/-!
The duties of objects. An object serves as a schema, as the members of one, or as data. A store is orderly if each
object holds what one with its duty may hold; a schema then requires different names of its properties. The small
changes that edits consist of keep the order.
-/

namespace SchemaAlgebra

/-- What an object is to a walk. -/
inductive Duty
  | schema
  | members
  | data
  deriving DecidableEq

/-- All objects that a slot names are schemas. -/
def Slot.Schematic (duties : Nat → Duty) (slot : Slot) : Prop :=
  ∀ address ∈ slot.addresses, duties address = .schema

/-- A slot names objects with the duties for which a walk in a role takes them. -/
def Slot.Fills (duties : Nat → Duty) (slot : Slot) : Walk.Role → Prop
  | .members => ∃ place, slot = .node place ∧ duties place = .members
  | _ => slot.Schematic duties

/-- What an object requires is a list of different names of its properties. -/
def Cell.RequiresDeclared (store : Store) (cell : Cell) : Prop :=
  ∀ slot, Fields.get? cell "required" = some slot → ∃ names : List String, slot = .array (names.map .string) ∧
    names.Nodup ∧ ∀ name ∈ names, ∃ place, Fields.get? cell "properties" = some (.node place) ∧
      Fields.has (store.cell place) name = true

/-- Under each keyword that a walk follows, an object holds what the walk takes it for, and it requires different
names of its properties. -/
structure Cell.IsSchema (store : Store) (duties : Nat → Duty) (cell : Cell) : Prop where
  fills : ∀ keyword role, (keyword, role) ∈ Walk.keywords → ∀ slot, Fields.get? cell (.text keyword) = some slot →
    slot.Fills duties role
  requires : cell.RequiresDeclared store

/-- An object holds what one with the duty may hold. -/
def Cell.Serves (store : Store) (duties : Nat → Duty) (cell : Cell) : Duty → Prop
  | .schema => cell.IsSchema store duties
  | .members => ∃ members : Fields String Slot, cell = Cell.named members ∧ (Fields.keys members).Nodup ∧
      ∀ member ∈ members, member.2.Schematic duties
  | .data => True

/-- Every object of a closed store serves in its duty. -/
structure Store.Orderly (store : Store) (duties : Nat → Duty) : Prop where
  closed : store.Closed
  inside : ∀ {address}, duties address ≠ .data → address < store.size
  serves : ∀ address, (store.cell address).Serves store duties (duties address)

/-- An orderly store has grown to another, in which every object keeps its duty. -/
structure Store.Progress (store : Store) (duties : Nat → Duty) (later : Store) (duties' : Nat → Duty) : Prop where
  orderly : later.Orderly duties'
  size : store.size ≤ later.size
  same : ∀ address < store.size, duties' address = duties address

variable {store later last : Store} {duties duties' duties'' : Nat → Duty} {slot : Slot} {cell : Cell}

theorem Slot.Schematic.mono (schematic : slot.Schematic duties)
    (same : ∀ address, duties address ≠ .data → duties' address = duties address) : slot.Schematic duties' := by
  intro address named
  have duty := schematic address named
  rw [same address (by simp [duty]), duty]

theorem Slot.Fills.mono {role : Walk.Role} (fills : slot.Fills duties role)
    (same : ∀ address, duties address ≠ .data → duties' address = duties address) : slot.Fills duties' role := by
  cases role with
  | members =>
      obtain ⟨place, rfl, duty⟩ := fills
      exact ⟨place, rfl, by rw [same place (by simp [duty]), duty]⟩
  | schema | branches | schemaOrList | objectOnly => exact Slot.Schematic.mono fills same

/-- An object goes on serving if all objects keep their duties and none loses members. -/
theorem Cell.Serves.mono {duty : Duty} (serves : cell.Serves store duties duty)
    (same : ∀ address, duties address ≠ .data → duties' address = duties address)
    (grows : ∀ place, duties place = .members → ∀ key ∈ Fields.keys (store.cell place), key ∈ Fields.keys (later.cell place)) :
    cell.Serves later duties' duty := by
  cases duty with
  | data => trivial
  | members =>
      obtain ⟨members, rfl, distinct, schematic⟩ := serves
      exact ⟨members, rfl, distinct, fun member listed => (schematic member listed).mono same⟩
  | schema =>
      refine ⟨fun keyword role listed slot found => (serves.fills keyword role listed slot found).mono same, ?_⟩
      intro slot found
      obtain ⟨names, rfl, distinct, declared⟩ := serves.requires slot found
      refine ⟨names, rfl, distinct, fun name listed => ?_⟩
      obtain ⟨place, properties, has⟩ := declared name listed
      obtain ⟨_, ⟨⟩, duty⟩ := serves.fills "properties" .members (by decide) _ properties
      rw [Fields.has_iff_mem_keys] at has
      exact ⟨place, properties, (Fields.has_iff_mem_keys _ _).mpr (grows _ duty _ has)⟩

theorem Slot.schematic_of_addresses (none : slot.addresses = []) : slot.Schematic duties := by
  intro address named
  simp [none] at named

@[simp] theorem Slot.schematic_node {address : Nat} :
    (Slot.node address).Schematic duties ↔ duties address = .schema := by
  simp [Schematic, addresses]

@[simp] theorem Slot.schematic_array {items : List Slot} :
    (Slot.array items).Schematic duties ↔ ∀ item ∈ items, item.Schematic duties := by
  simp only [Schematic, addresses, mem_itemAddresses]
  constructor
  · exact fun all item member address named => all address ⟨item, member, named⟩
  · rintro all address ⟨item, member, named⟩
    exact all item member address named

theorem Slot.Schematic.fills {role : Walk.Role} (schematic : slot.Schematic duties) (plain : role ≠ .members) :
    slot.Fills duties role := by
  cases role with
  | members => exact absurd rfl plain
  | schema | branches | schemaOrList | objectOnly => exact schematic

theorem Slot.Fills.schematic {role : Walk.Role} (fills : slot.Fills duties role) (plain : role ≠ .members) :
    slot.Schematic duties := by
  cases role with
  | members => exact absurd rfl plain
  | schema | branches | schemaOrList | objectOnly => exact fills

namespace Store

theorem Progress.refl (orderly : store.Orderly duties) : store.Progress duties store duties :=
  ⟨orderly, Nat.le_refl _, fun _ _ => rfl⟩

theorem Progress.trans (first : store.Progress duties later duties') (second : later.Progress duties' last duties'') :
    store.Progress duties last duties'' where
  orderly := second.orderly
  size := Nat.le_trans first.size second.size
  same address inside := (second.same address (Nat.lt_of_lt_of_le inside first.size)).trans (first.same address inside)

namespace Orderly

variable (orderly : store.Orderly duties)

include orderly

theorem outside {address : Nat} (outside : store.size ≤ address) : duties address = .data := by
  by_contra duty
  exact Nat.not_lt_of_le outside (orderly.inside duty)

theorem within (schematic : slot.Schematic duties) : slot.Within store.size :=
  fun address named => orderly.inside (by simp [schematic address named])

theorem schema {address : Nat} (duty : duties address = .schema) : (store.cell address).IsSchema store duties := by
  have serves := orderly.serves address
  rwa [duty] at serves

theorem members {address : Nat} (duty : duties address = .members) :
    ∃ members : Fields String Slot, store.cell address = Cell.named members ∧ (Fields.keys members).Nodup ∧
      ∀ member ∈ members, member.2.Schematic duties := by
  have serves := orderly.serves address
  rwa [duty] at serves

theorem place {address place : Nat} (duty : duties address = .schema)
    (found : Fields.get? (store.cell address) "properties" = some (.node place)) : duties place = .members := by
  obtain ⟨_, ⟨⟩, duty'⟩ := (orderly.schema duty).fills "properties" .members (by decide) _ found
  exact duty'

theorem schematic {address : Nat} (duty : duties address = .schema) {keyword : String} {role : Walk.Role}
    (listed : (keyword, role) ∈ Walk.keywords) (plain : role ≠ .members)
    (found : Fields.get? (store.cell address) (.text keyword) = some slot) : slot.Schematic duties :=
  ((orderly.schema duty).fills keyword role listed slot found).schematic plain

/-- An orderly schema has members and requires names. -/
theorem describes {address : Nat} (duty : duties address = .schema) :
    ∃ members names, store.Describes address members names := by
  have isSchema := orderly.schema duty
  have inside : address < store.size := orderly.inside (by simp [duty])
  have apart {place : Nat} (found : Fields.get? (store.cell address) "properties" = some (.node place)) :
      place ≠ address ∧ place < store.size := by
    have duty' := orderly.place duty found
    refine ⟨?_, orderly.inside (by simp [duty'])⟩
    rintro rfl
    simp [duty] at duty'
  obtain ⟨names, required⟩ : ∃ names : List String, Fields.get? (store.cell address) "required" = none ∧ names = [] ∨
      Fields.get? (store.cell address) "required" = some (.array (names.map .string)) := by
    cases found : Fields.get? (store.cell address) "required" with
    | none => exact ⟨[], .inl ⟨rfl, rfl⟩⟩
    | some slot =>
        obtain ⟨names, rfl, -⟩ := isSchema.requires slot found
        exact ⟨names, .inr rfl⟩
  cases found : Fields.get? (store.cell address) "properties" with
  | none =>
      refine ⟨[], names, inside, ?_, apart, required, List.nodup_nil⟩
      rw [found]
      exact .absent rfl
  | some slot =>
      obtain ⟨place, rfl, duty'⟩ := isSchema.fills "properties" .members (by decide) slot found
      obtain ⟨members, cell, distinct, -⟩ := orderly.members duty'
      refine ⟨members, names, inside, ?_, apart, required, distinct⟩
      rw [found]
      exact .node cell

variable {address : Nat} {members : Fields String Slot} {names : List String}

/-- The members of an orderly schema are schemas. -/
theorem member (duty : duties address = .schema) (describes : store.Describes address members names) :
    ∀ member ∈ members, member.2.Schematic duties := by
  intro member listed
  have held : Fields.has members member.1 = true := (Fields.has_iff_mem_keys _ _).mpr (List.mem_map_of_mem listed)
  obtain ⟨place, found⟩ := describes.place held
  obtain ⟨others, cell, -, schematic⟩ := orderly.members (orderly.place duty found)
  have listed' : (Key.text member.1, member.2) ∈ Cell.named others := by
    rw [← cell, describes.cell found]
    exact List.mem_map_of_mem listed
  obtain ⟨other, listed'', same⟩ := List.mem_map.mp listed'
  simp only [Prod.mk.injEq] at same
  exact same.2 ▸ schematic other listed''

/-- An orderly schema requires different names of its members. -/
theorem required (duty : duties address = .schema) (describes : store.Describes address members names) :
    names.Nodup ∧ ∀ name ∈ names, name ∈ Fields.keys members := by
  rcases describes.required with ⟨-, rfl⟩ | found
  · exact ⟨List.nodup_nil, fun _ listed => absurd listed List.not_mem_nil⟩
  · obtain ⟨others, same, distinct, declared⟩ := (orderly.schema duty).requires _ found
    have strings : Function.Injective Slot.string := fun _ _ same => Slot.string.inj same
    obtain rfl : names = others := List.map_injective_iff.mpr strings (Slot.array.inj same)
    refine ⟨distinct, fun name listed => ?_⟩
    obtain ⟨place, properties, has⟩ := declared name listed
    rwa [describes.cell properties, Cell.has_named, Fields.has_iff_mem_keys] at has

/-- An object may be replaced by one that serves as it did and has all its members. -/
theorem replace (duty : duties address ≠ .data) (within : cell.Within store.size)
    (serves : cell.Serves store duties (duties address))
    (grows : duties address = .members → ∀ key ∈ Fields.keys (store.cell address), key ∈ Fields.keys cell) :
    (store.replace address cell).Orderly duties := by
  have inside := orderly.inside duty
  have grows' : ∀ place, duties place = .members → ∀ key ∈ Fields.keys (store.cell place),
      key ∈ Fields.keys ((store.replace address cell).cell place) := by
    intro place duty' key member
    rw [cell_replace store address place cell inside]
    split
    · next same =>
        subst same
        exact grows duty' key member
    · exact member
  constructor
  · exact orderly.closed.replace within
  · intro other duty'
    rw [size_replace]
    exact orderly.inside duty'
  · intro other
    rw [cell_replace store address other cell inside]
    split
    · next same => exact same ▸ serves.mono (fun _ _ => rfl) grows'
    · exact (orderly.serves other).mono (fun _ _ => rfl) grows'

/-- Objects may be added that serve in duties of their own. -/
theorem extend (extends' : store.Extends later) (closed : later.Closed)
    (same : ∀ address < store.size, duties' address = duties address)
    (inside : ∀ {address}, duties' address ≠ .data → address < later.size)
    (serves : ∀ address, store.size ≤ address → (later.cell address).Serves later duties' (duties' address)) :
    store.Progress duties later duties' := by
  refine ⟨⟨closed, inside, fun address => ?_⟩, extends'.size, same⟩
  rcases Nat.lt_or_ge address store.size with old | new
  · rw [extends'.cells address old, same address old]
    refine (orderly.serves address).mono (fun other duty => same other (orderly.inside duty)) fun place duty => ?_
    rw [extends'.cells place (orderly.inside (by simp [duty]))]
    exact fun _ member => member
  · exact serves address new

/-- Whatever is added may be data. -/
theorem extendData (extends' : store.Extends later) (closed : later.Closed) : store.Progress duties later duties := by
  refine orderly.extend extends' closed (fun _ _ => rfl) ?_ fun address new => ?_
  · exact fun duty => Nat.lt_of_lt_of_le (orderly.inside duty) extends'.size
  · rw [orderly.outside new]
    trivial

/-- A new object may serve as it can before it is there. -/
theorem push (within : cell.Within store.size) {duty : Duty} (serves : cell.Serves store duties duty) :
    store.Progress duties (store.push cell) (Function.update duties store.size duty) := by
  have same : ∀ address < store.size, Function.update duties store.size duty address = duties address :=
    fun address old => Function.update_of_ne (Nat.ne_of_lt old) _ _
  refine orderly.extend (.push store cell) (orderly.closed.push within) same (fun {address} duty' => ?_) fun address new => ?_
  · rw [size_push]
    rcases Nat.lt_or_ge address store.size with old | new
    · omega
    · rcases Nat.eq_or_lt_of_le new with rfl | beyond
      · omega
      · rw [Function.update_of_ne (Nat.ne_of_gt beyond), orderly.outside new] at duty'
        exact absurd rfl duty'
  · rw [cell_push]
    split
    · next last =>
        subst last
        rw [Function.update_self]
        refine serves.mono (fun other duty' => same other (orderly.inside duty')) fun place duty' => ?_
        rw [cell_push, if_neg (Nat.ne_of_lt (orderly.inside (by simp [duty'])))]
        exact fun _ member => member
    · next other =>
        rw [Function.update_of_ne other, orderly.outside new]
        trivial

end Orderly

variable {address : Nat}

theorem Progress.duty {duty : Duty} (progress : store.Progress duties later duties') (orderly : store.Orderly duties)
    (structural : duty ≠ .data) (before : duties address = duty) : duties' address = duty :=
  (progress.same address (orderly.inside (before ▸ structural))).trans before

theorem Progress.schematic (progress : store.Progress duties later duties') (orderly : store.Orderly duties)
    (schematic : slot.Schematic duties) : slot.Schematic duties' :=
  fun address named => progress.duty orderly (by simp) (schematic address named)

end Store

end SchemaAlgebra
