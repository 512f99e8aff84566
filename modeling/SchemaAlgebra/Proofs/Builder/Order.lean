import SchemaAlgebra.Proofs.Builder.Duties
import SchemaAlgebra.Proofs.Builder.Rounds

/-!
Small changes of orderly stores. A schema may require other names that it declares, get new properties or one more,
and have keywords set that hold no schemas or schemas; copies and choices of schemas are schemas.
-/

namespace SchemaAlgebra

variable {store later : Store} {duties duties' : Nat → Duty} {slot : Slot} {cell : Cell} {address : Nat}

theorem Walk.eq_properties_of_members {keyword : String} (listed : (keyword, Walk.Role.members) ∈ Walk.keywords) :
    keyword = "properties" := by
  simpa [Walk.keywords] using listed

theorem Walk.role_of_properties {role : Walk.Role} (listed : ("properties", role) ∈ Walk.keywords) :
    role = .members := by
  simpa [Walk.keywords] using listed

theorem Walk.ne_required {keyword : String} {role : Walk.Role} (listed : (keyword, role) ∈ Walk.keywords) :
    keyword ≠ "required" := by
  rintro rfl
  simp [Walk.keywords] at listed

namespace Cell.IsSchema

/-- A keyword that says nothing of the properties may be set, to schemas if it holds schemas. -/
theorem put (isSchema : cell.IsSchema store duties) {key : Key} (notProperties : key ≠ "properties")
    (notRequired : key ≠ "required")
    (schematic : ∀ keyword role, (keyword, role) ∈ Walk.keywords → key = .text keyword → slot.Schematic duties) :
    Cell.IsSchema store duties (Fields.put cell key slot) where
  fills keyword role listed found has := by
    rw [Fields.get?_put] at has
    split at has
    · next same =>
        obtain rfl := Option.some.inj has
        refine (schematic keyword role listed same).fills ?_
        rintro rfl
        exact notProperties (same.trans (congrArg Key.text (Walk.eq_properties_of_members listed)))
    · exact isSchema.fills keyword role listed found has
  requires found has := by
    rw [Fields.get?_put, if_neg notRequired] at has
    obtain ⟨names, rfl, distinct, declared⟩ := isSchema.requires found has
    refine ⟨names, rfl, distinct, fun name listed => ?_⟩
    rw [Fields.get?_put, if_neg notProperties]
    exact declared name listed

/-- A schema may require any different names that it declares. -/
theorem withRequired {names : List String}
    (fills : ∀ keyword role, (keyword, role) ∈ Walk.keywords → ∀ slot, Fields.get? cell (.text keyword) = some slot →
      slot.Fills duties role) (distinct : names.Nodup)
    (declared : ∀ name ∈ names, ∃ place, Fields.get? cell "properties" = some (.node place) ∧
      Fields.has (store.cell place) name = true) :
    Cell.IsSchema store duties (Builder.withRequired cell (names.map .string)) where
  fills keyword role listed found has := by
    rw [Builder.get?_withRequired, if_neg (by simpa using (Walk.ne_required listed).symm)] at has
    exact fills keyword role listed found has
  requires found has := by
    rw [Builder.get?_withRequired, if_pos rfl] at has
    split at has
    · cases has
    · obtain rfl := Option.some.inj has
      refine ⟨names, rfl, distinct, fun name listed => ?_⟩
      rw [Builder.get?_withRequired, if_neg (by simp)]
      exact declared name listed

/-- The properties may be set to members. -/
theorem fills_properties {place : Nat} (isSchema : cell.IsSchema store duties) (duty : duties place = .members)
    (keyword : String) (role : Walk.Role) (listed : (keyword, role) ∈ Walk.keywords) (slot : Slot)
    (found : Fields.get? (Fields.put cell "properties" (.node place)) (.text keyword) = some slot) :
    slot.Fills duties role := by
  rw [Fields.get?_put] at found
  split at found
  · next same =>
      obtain rfl := Option.some.inj found
      obtain rfl : "properties" = keyword := by simpa using same
      obtain rfl := Walk.role_of_properties listed
      exact ⟨place, rfl, duty⟩
  · exact isSchema.fills keyword role listed slot found

theorem erase_required (isSchema : cell.IsSchema store duties) :
    Cell.IsSchema store duties (Fields.erase cell "required") :=
  withRequired isSchema.fills List.nodup_nil fun _ member => absurd member List.not_mem_nil

end Cell.IsSchema

theorem Cell.Within.withRequired {bound : Nat} (within : cell.Within bound) (names : List String) :
    (Builder.withRequired cell (names.map .string)).Within bound := by
  rw [Builder.withRequired]
  split
  · exact within.erase
  · refine within.put (Slot.within_array.mpr fun item member => ?_)
    obtain ⟨name, -, rfl⟩ := List.mem_map.mp member
    exact Slot.within_of_addresses rfl

/-- An object without structure: no keyword that a walk follows, and no names that it requires. -/
def Cell.Plain (cell : Cell) : Prop :=
  ∀ key ∈ Fields.keys cell, key ≠ "required" ∧ ∀ keyword role, (keyword, role) ∈ Walk.keywords → key ≠ .text keyword

theorem Cell.Plain.isSchema (plain : cell.Plain) : cell.IsSchema store duties where
  fills keyword role listed _ has :=
    absurd rfl ((plain _ (List.mem_map_of_mem (Fields.mem_of_get? has))).2 keyword role listed)
  requires _ has := absurd rfl (plain _ (List.mem_map_of_mem (Fields.mem_of_get? has))).1

theorem Cell.isSchema_choice {first second : Slot} (schematic : first.Schematic duties)
    (schematic' : second.Schematic duties) : (Builder.choice first second).IsSchema store duties := by
  have nothing : Cell.Plain [] := fun _ member => absurd member List.not_mem_nil
  refine nothing.isSchema.put (by simp) (by simp) fun _ _ _ _ => ?_
  simp [schematic, schematic']

section Relocation

variable {place : Nat → Nat}

theorem Slot.Schematic.relocate (schematic : slot.Schematic duties)
    (same : ∀ address ∈ slot.addresses, duties' (place address) = duties address) :
    (slot.relocate place).Schematic duties' := by
  intro address named
  rw [Slot.addresses_relocate] at named
  obtain ⟨original, held, rfl⟩ := List.mem_map.mp named
  rw [same original held, schematic original held]

theorem Slot.Fills.relocate {role : Walk.Role} (fills : slot.Fills duties role)
    (same : ∀ address ∈ slot.addresses, duties' (place address) = duties address) :
    (slot.relocate place).Fills duties' role := by
  cases role with
  | members =>
      obtain ⟨inner, rfl, duty⟩ := fills
      exact ⟨place inner, rfl, by rw [same inner (by simp [Slot.addresses]), duty]⟩
  | schema | branches | schemaOrList | objectOnly => exact Slot.Schematic.relocate fills same

theorem Slot.relocate_strings (names : List String) :
    (Slot.array (names.map .string)).relocate place = .array (names.map .string) := by
  rw [Slot.relocate, Slot.relocateItems_eq_map, List.map_map]
  rfl

theorem Cell.get?_relocate (cell : Cell) (key : Key) :
    Fields.get? (cell.relocate place) key = (Fields.get? cell key).map (Slot.relocate place) :=
  Fields.get?_map cell (Slot.relocate place) key

theorem Cell.keys_relocate (cell : Cell) : Fields.keys (cell.relocate place) = Fields.keys cell := by
  simp [Cell.relocate, Fields.keys]

/-- A copy of an object serves as the original does, among copies that keep their duties and their members. -/
theorem Cell.Serves.relocate {duty : Duty} (serves : cell.Serves store duties duty)
    (same : ∀ address ∈ cell.addresses, duties' (place address) = duties address)
    (keys : ∀ address ∈ cell.addresses, Fields.keys (later.cell (place address)) = Fields.keys (store.cell address)) :
    (cell.relocate place).Serves later duties' duty := by
  have named {entry : Key × Slot} (listed : entry ∈ cell) : ∀ address ∈ entry.2.addresses, address ∈ cell.addresses :=
    fun address named => Cell.mem_addresses.mpr ⟨entry, listed, named⟩
  cases duty with
  | data => trivial
  | members =>
      obtain ⟨members, rfl, distinct, schematic⟩ := serves
      refine ⟨members.map fun member => (member.1, member.2.relocate place), ?_, ?_, fun member listed => ?_⟩
      · simp [Cell.relocate, Cell.named]
      · simpa [Fields.keys, Function.comp_def] using distinct
      · obtain ⟨original, held, rfl⟩ := List.mem_map.mp listed
        refine (schematic original held).relocate fun address named' => same address ?_
        exact named (List.mem_map_of_mem held) address named'
  | schema =>
      refine ⟨fun keyword role listed slot found => ?_, fun slot found => ?_⟩
      · rw [Cell.get?_relocate] at found
        obtain ⟨original, held, rfl⟩ := Option.map_eq_some_iff.mp found
        refine (serves.fills keyword role listed original held).relocate fun address named' => same address ?_
        exact named (Fields.mem_of_get? held) address named'
      · rw [Cell.get?_relocate] at found
        obtain ⟨original, held, rfl⟩ := Option.map_eq_some_iff.mp found
        obtain ⟨names, rfl, distinct, declared⟩ := serves.requires original held
        refine ⟨names, Slot.relocate_strings names, distinct, fun name listed => ?_⟩
        obtain ⟨inner, properties, has⟩ := declared name listed
        refine ⟨place inner, by rw [Cell.get?_relocate, properties]; rfl, ?_⟩
        rw [Fields.has_iff_mem_keys] at has ⊢
        rw [keys inner (named (Fields.mem_of_get? properties) inner (by simp [Slot.addresses]))]
        exact has

end Relocation

namespace Store

theorem replace_replace (address : Nat) (cell cell' : Cell) :
    (store.replace address cell).replace address cell' = store.replace address cell' := by
  simp [replace]

theorem withMembers_withNames (inside : address < store.size) (members : Fields String Slot) (names : List String) :
    (store.withMembers address members).withNames address names =
      (store.push (Cell.named members)).replace address
        (Builder.withRequired (Fields.put (store.cell address) "properties" (.node store.size)) (names.map .string)) := by
  have own := cell_withMembers inside members address
  rw [if_pos rfl] at own
  rw [Store.withNames, own, Store.withMembers, replace_replace]

namespace Orderly

variable (orderly : store.Orderly duties)

include orderly

theorem withNames (duty : duties address = .schema) {members : Fields String Slot} {before names : List String}
    (describes : store.Describes address members before) (distinct : names.Nodup)
    (declared : ∀ name ∈ names, name ∈ Fields.keys members) : (store.withNames address names).Orderly duties := by
  have isSchema := orderly.schema duty
  refine orderly.replace (by simp [duty]) ((closed_iff.mp orderly.closed address).withRequired names) ?_ (by simp [duty])
  rw [duty]
  refine .withRequired isSchema.fills distinct fun name listed => ?_
  have held : Fields.has members name = true := (Fields.has_iff_mem_keys _ _).mpr (declared name listed)
  obtain ⟨place, found⟩ := describes.place held
  exact ⟨place, found, by rw [describes.cell found, Cell.has_named, held]⟩

theorem withMember {place : Nat} (duty : duties place = .members) (name : String) (schematic : slot.Schematic duties) :
    (store.withMember place name slot).Orderly duties := by
  obtain ⟨members, cell, distinct, each⟩ := orderly.members duty
  refine orderly.replace (by simp [duty]) ((closed_iff.mp orderly.closed place).put (orderly.within schematic)) ?_ ?_
  · rw [duty, cell, Cell.put_named]
    refine ⟨_, rfl, Fields.nodup_keys_put distinct, fun member listed => ?_⟩
    rcases Fields.mem_put listed with rfl | listed
    · exact schematic
    · exact each member listed
  · intro _ key listed
    rw [Fields.keys_put]
    split
    · exact listed
    · exact List.mem_append_left _ listed

/-- A schema may be replaced by one that has new properties. -/
theorem pushMembers (duty : duties address = .schema) {members : Fields String Slot}
    (keys : (Fields.keys members).Nodup) (schematic : ∀ member ∈ members, member.2.Schematic duties)
    (change : Cell → Cell) (within : ∀ {bound cell}, cell.Within bound → (change cell).Within bound)
    (isSchema : ∀ {grown duties'}, duties' store.size = .members → Store.cell grown store.size = Cell.named members →
      (store.cell address).IsSchema grown duties' →
      (change (Fields.put (store.cell address) "properties" (.node store.size))).IsSchema grown duties') :
    store.Progress duties ((store.push (Cell.named members)).replace address
      (change (Fields.put (store.cell address) "properties" (.node store.size))))
      (Function.update duties store.size .members) := by
  have inside : address < store.size := orderly.inside (by simp [duty])
  have within' : (Cell.named members).Within store.size := by
    intro entry listed
    obtain ⟨member, listed', rfl⟩ := List.mem_map.mp listed
    exact orderly.within (schematic member listed')
  have serves : (Cell.named members).Serves store duties .members := ⟨members, rfl, keys, schematic⟩
  have pushed := orderly.push within' serves
  have duty' := pushed.duty orderly (by simp) duty
  have own := (Extends.push store (Cell.named members)).cells address inside
  have before := pushed.orderly.schema duty'
  have bound := closed_iff.mp pushed.orderly.closed address
  rw [own] at before bound
  have fresh : Slot.Within (store.push (Cell.named members)).size (.node store.size) := by simp
  refine ⟨pushed.orderly.replace (by simp [duty']) (within (bound.put fresh)) ?_ (by simp [duty']), by simp, pushed.same⟩
  rw [duty']
  exact isSchema (Function.update_self ..) (by rw [cell_push, if_pos rfl]) before

/-- A schema may get new properties that are all those that it requires. -/
theorem withMembers (duty : duties address = .schema) {members before : Fields String Slot} {names : List String}
    (describes : store.Describes address before names) (keys : (Fields.keys members).Nodup)
    (schematic : ∀ member ∈ members, member.2.Schematic duties) (declared : ∀ name ∈ names, name ∈ Fields.keys members) :
    store.Progress duties (store.withMembers address members) (Function.update duties store.size .members) := by
  have own := (Extends.push store (Cell.named members)).cells address describes.inside
  rw [Store.withMembers, own]
  refine orderly.pushMembers duty keys schematic id id fun fresh cell isSchema => ?_
  refine ⟨isSchema.fills_properties fresh, fun slot found => ?_⟩
  rw [id, Fields.get?_put, if_neg (by simp)] at found
  rcases describes.required with ⟨missing, -⟩ | required
  · rw [missing] at found
    cases found
  · obtain rfl := Option.some.inj (required.symm.trans found)
    refine ⟨names, rfl, (orderly.required duty describes).1, fun name listed => ⟨store.size, Fields.get?_put_self .., ?_⟩⟩
    rw [cell, Cell.has_named, Fields.has_iff_mem_keys]
    exact declared name listed

/-- A schema may get new properties, of which it requires some. -/
theorem withPicked (duty : duties address = .schema) {members : Fields String Slot} {names : List String}
    (keys : (Fields.keys members).Nodup) (schematic : ∀ member ∈ members, member.2.Schematic duties)
    (distinct : names.Nodup) (declared : ∀ name ∈ names, name ∈ Fields.keys members) :
    store.Progress duties ((store.withMembers address members).withNames address names)
      (Function.update duties store.size .members) := by
  rw [withMembers_withNames (orderly.inside (by simp [duty]))]
  refine orderly.pushMembers duty keys schematic (fun cell => Builder.withRequired cell (names.map .string))
    (fun within => within.withRequired names) fun fresh cell isSchema => ?_
  refine .withRequired (isSchema.fills_properties fresh) distinct fun name listed => ⟨store.size, Fields.get?_put_self .., ?_⟩
  rw [cell, Cell.has_named, Fields.has_iff_mem_keys]
  exact declared name listed

/-- A keyword that says nothing of the properties may be set, to schemas if it holds schemas. -/
theorem put (duty : duties address = .schema) {key : Key} (notProperties : key ≠ "properties")
    (notRequired : key ≠ "required") (within : slot.Within store.size)
    (schematic : ∀ keyword role, (keyword, role) ∈ Walk.keywords → key = .text keyword → slot.Schematic duties) :
    (store.replace address (Fields.put (store.cell address) key slot)).Orderly duties := by
  refine orderly.replace (by simp [duty]) ((closed_iff.mp orderly.closed address).put within) ?_ (by simp [duty])
  rw [duty]
  exact (orderly.schema duty).put notProperties notRequired schematic

theorem dropRequired (duty : duties address = .schema) :
    (store.replace address (Fields.erase (store.cell address) "required")).Orderly duties := by
  refine orderly.replace (by simp [duty]) (closed_iff.mp orderly.closed address).erase ?_ (by simp [duty])
  rw [duty]
  exact (orderly.schema duty).erase_required

/-- The copies of objects have the duties of these. -/
theorem copy (within : slot.Within store.size) : ∃ duties', store.Progress duties (store.copy slot).2 duties' ∧
    ∀ address ∈ store.reach slot, duties' (store.copyPlace (store.reach slot) address) = duties address := by
  have gathered := gathered_reach orderly.closed within
  let duties' : Nat → Duty := fun address =>
    if address < store.size then duties address
    else ((store.reach slot)[address - store.size]?.map duties).getD .data
  have same : ∀ address < store.size, duties' address = duties address := fun address old => if_pos old
  have copied : ∀ address ∈ store.reach slot, duties' (store.copyPlace (store.reach slot) address) = duties address := by
    intro address member
    have bound := List.idxOf_lt_length_iff.mpr member
    simp [duties', copyPlace, List.getElem?_eq_getElem bound]
  refine ⟨duties', ?_, copied⟩
  refine orderly.extend (store.copy_extends slot) (closed_copy orderly.closed within) same ?_ fun address new => ?_
  · intro address duty
    rw [size_copy]
    by_contra outside
    have old : ¬ address < store.size := by omega
    have beyond : (store.reach slot).length ≤ address - store.size := by omega
    simp [duties', old, List.getElem?_eq_none beyond] at duty
  · rcases Nat.lt_or_ge address (store.copy slot).2.size with inside | outside
    · obtain ⟨original, member, rfl⟩ := exists_copyPlace new inside gathered.nodup
      rw [cell_copy member, copied original member]
      refine (orderly.serves original).relocate (fun other named => ?_) fun other named => ?_
      · exact copied other (gathered.closed original member other named)
      · rw [cell_copy (gathered.closed original member other named), Cell.keys_relocate]
    · rw [size_copy] at outside
      have beyond : (store.reach slot).length ≤ address - store.size := by omega
      have old : ¬ address < store.size := by omega
      simp [duties', old, List.getElem?_eq_none beyond, Cell.Serves]

end Orderly

end Store

end SchemaAlgebra
