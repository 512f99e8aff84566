import SchemaAlgebra.Proofs.Builder.Arrangement
import SchemaAlgebra.Proofs.Schema.Rules

/-!
Stores of schemas that pass the metaschema. A charter says what each object stands for, and which schemas and
members of schemas are sound. In a lawful store what is sound holds under each keyword what the rule of the
keyword asks for, as far as this can be told without going from one schema to the next. So whatever is sound
passes, if it is finite.
-/

namespace SchemaAlgebra

open Metaschema

/-- What the objects of a store stand for, and which are sound schemas, or members of such. -/
structure Charter where
  standings : Nat → Standing
  sound : Nat → Prop

namespace Charter

variable {charter charter' charter'' : Charter}

/-- There is a sound schema at an address. -/
structure IsSchema (charter : Charter) (address : Nat) : Prop where
  sound : charter.sound address
  schema : charter.standings address = .schema

/-- What is sound stays sound, and stands for what it stood for. -/
def Grows (charter charter' : Charter) : Prop :=
  ∀ address, charter.sound address → charter'.sound address ∧ charter'.standings address = charter.standings address

theorem Grows.refl : charter.Grows charter :=
  fun _ sound => ⟨sound, rfl⟩

theorem Grows.trans (first : charter.Grows charter') (second : charter'.Grows charter'') :
    charter.Grows charter'' :=
  fun address sound =>
    have between := first address sound
    have last := second address between.1
    ⟨last.1, last.2.trans between.2⟩

theorem IsSchema.mono {address : Nat} (isSchema : charter.IsSchema address) (grows : charter.Grows charter') :
    charter'.IsSchema address :=
  ⟨(grows address isSchema.sound).1, (grows address isSchema.sound).2.trans isSchema.schema⟩

end Charter

/-- A slot holds what the metaschema asks of a role, with sound objects in it. -/
inductive Slot.Fits (charter : Charter) : Walk.Role → Slot → Prop
  | node {role : Walk.Role} {address : Nat} : role.isNode = true → charter.IsSchema address →
      Fits charter role (.node address)
  | bool {role : Walk.Role} (b : Bool) : role.isNode = true → Fits charter role (.bool b)
  | members {place owner : Nat} : charter.sound place → charter.standings place = .members owner →
      Fits charter .members (.node place)
  | list {role : Walk.Role} {items : List Slot} : role.isList = true → items ≠ [] →
      (∀ item ∈ items, Fits charter .schema item) → Fits charter role (.array items)

/-- A keyword that no walk follows. -/
def Walk.Unwalked (keyword : String) : Prop :=
  ∀ role, (keyword, role) ∉ Walk.keywords

/-- A slot under a key of a schema holds what the rule of the keyword asks for. -/
inductive Slot.Obeys (store : Store) (charter : Charter) : Key → Slot → Prop
  | walked {keyword : String} {role : Walk.Role} {slot : Slot} : (keyword, role) ∈ Walk.keywords →
      slot.Fits charter role →
      Obeys store charter (.text keyword) slot
  | plain {keyword : String} {slot : Slot} {value : Json} : Walk.Unwalked keyword → store.Denotes slot value →
      value.wellFormed = true → (∀ rule, (keyword, rule) ∈ rules → Holds rule value) →
        Obeys store charter (.text keyword) slot

/-- An object holds what is asked of one that is sound and stands for something. -/
def Cell.Upholds (store : Store) (charter : Charter) (cell : Cell) : Standing → Prop
  | .schema => (Fields.keys cell).Nodup ∧ ∀ entry ∈ cell, entry.2.Obeys store charter entry.1
  | .members _ => ∃ members : Fields String Slot, cell = Cell.named members ∧ (Fields.keys members).Nodup ∧
      ∀ member ∈ members, member.2.Fits charter .schema
  | .data => False

/-- In an arranged store all sound objects hold what is asked of them. -/
structure Store.Lawful (store : Store) (charter : Charter) : Prop where
  arranged : store.Arranged False charter.standings
  upholds : ∀ address, charter.sound address →
    (store.cell address).Upholds store charter (charter.standings address)

/-- A store is lawful under a charter that has grown out of another. -/
structure Store.Honours (later : Store) (charter charter' : Charter) : Prop where
  lawful : later.Lawful charter'
  grows : charter.Grows charter'

variable {store later : Store} {charter charter' charter'' : Charter} {slot : Slot} {role : Walk.Role} {cell : Cell}
  {standings : Nat → Standing} {clean : Prop} {standing : Standing} {address : Nat} {value : Json}

theorem Store.Honours.trans (first : store.Honours charter charter') (second : later.Honours charter' charter'') :
    later.Honours charter charter'' :=
  ⟨second.lawful, first.grows.trans second.grows⟩

theorem Store.Lawful.honours (lawful : store.Lawful charter) : store.Honours charter charter :=
  ⟨lawful, .refl⟩

theorem Walk.Unwalked.under {keyword : String} (unwalked : Walk.Unwalked keyword) (self : Nat) :
    Standing.schema.under self keyword = .data :=
  Standing.under_of_unwalked self fun _ role listed same => unwalked role (Key.text.inj same ▸ listed)

theorem Walk.unwalked_required : Walk.Unwalked "required" :=
  fun _ listed => Walk.ne_required listed rfl

theorem Charter.IsSchema.fits (isSchema : charter.IsSchema address) : (Slot.node address).Fits charter .schema :=
  .node rfl isSchema

namespace Slot.Fits

theorem mono (fits : slot.Fits charter role) (grows : charter.Grows charter') : slot.Fits charter' role := by
  induction fits with
  | node own isSchema => exact .node own (isSchema.mono grows)
  | bool b own => exact .bool b own
  | @members place owner sound stands => exact .members (grows place sound).1 ((grows place sound).2.trans stands)
  | list isList some _ each => exact .list isList some each

theorem schema (fits : slot.Fits charter .schema) (own : role.isNode = true) : slot.Fits charter role := by
  cases fits with
  | node _ isSchema => exact .node own isSchema
  | bool b _ => exact .bool b own
  | list isList _ _ => simp [Walk.Role.isList] at isList

theorem stands (fits : slot.Fits charter role) (other : role ≠ .members) :
    slot.Stands charter.standings .schema := by
  cases fits with
  | node _ isSchema => exact isSchema.schema
  | bool b _ => exact stands_of_addresses rfl
  | members _ _ => exact absurd rfl other
  | list _ _ each =>
      refine stands_array.mpr fun item listed => ?_
      cases each item listed with
      | node _ isSchema => exact isSchema.schema
      | bool b _ => exact stands_of_addresses rfl
      | list isList _ _ => simp [Walk.Role.isList] at isList

end Slot.Fits

theorem Slot.Obeys.mono {key : Key} (obeys : slot.Obeys store charter key) (grows : charter.Grows charter')
    (keeps : ∀ keyword, key = .text keyword → Walk.Unwalked keyword → ∀ value, store.Denotes slot value →
      later.Denotes slot value) :
    slot.Obeys later charter' key := by
  cases obeys with
  | walked listed fits => exact .walked listed (fits.mono grows)
  | plain unwalked denotes formed holds => exact .plain unwalked (keeps _ rfl unwalked _ denotes) formed holds

/-- An object goes on holding what is asked of it if its data stay the same. -/
theorem Cell.Upholds.mono (upholds : cell.Upholds store charter standing) (grows : charter.Grows charter')
    (keeps : ∀ entry ∈ cell, ∀ keyword, entry.1 = .text keyword → Walk.Unwalked keyword → standing = .schema →
      ∀ value, store.Denotes entry.2 value → later.Denotes entry.2 value) :
    cell.Upholds later charter' standing := by
  cases standing with
  | schema => exact ⟨upholds.1, fun entry listed =>
      (upholds.2 entry listed).mono grows fun keyword same unwalked => keeps entry listed keyword same unwalked rfl⟩
  | members owner =>
      obtain ⟨members, same, distinct, each⟩ := upholds
      exact ⟨members, same, distinct, fun member listed => (each member listed).mono grows⟩
  | data => exact upholds

namespace Store

/-- What stands for data leads to data only. -/
theorem Arranged.apart_data (arranged : store.Arranged clean standings) (stands : slot.Stands standings .data) :
    store.Apart (fun address => standings address ≠ .data) slot := by
  have names {slot : Slot} (stands : slot.Stands standings Standing.data.item) : ∀ address ∈ slot.addresses,
      standings address = .data := fun _ => stands.item_of_mem
  intro address named other leads
  rw [not_not]
  induction leads with
  | refl => exact names stands address named
  | @tail middle other _ named ih =>
      obtain ⟨entry, listed, named⟩ := Cell.mem_addresses.mp named
      have holds := arranged.holds middle entry listed
      rw [ih] at holds
      exact names holds other named

namespace Lawful

variable (lawful : store.Lawful charter)

include lawful

theorem inside (sound : charter.sound address) : address < store.size := by
  refine lawful.arranged.inside fun data => ?_
  have upholds := lawful.upholds address sound
  rw [data] at upholds
  exact upholds

theorem within (fits : slot.Fits charter role) : slot.Within store.size := by
  cases fits with
  | node _ isSchema => exact Slot.within_node.mpr (lawful.inside isSchema.sound)
  | bool b _ => exact Slot.within_of_addresses rfl
  | members sound _ => exact Slot.within_node.mpr (lawful.inside sound)
  | list _ _ each =>
      refine Slot.within_array.mpr fun item listed => ?_
      cases each item listed with
      | node _ isSchema => exact Slot.within_node.mpr (lawful.inside isSchema.sound)
      | bool b _ => exact Slot.within_of_addresses rfl
      | list isList _ _ => simp [Walk.Role.isList] at isList

/-- A sound schema holds what is asked of it under each keyword. -/
theorem schema (isSchema : charter.IsSchema address) :
    (Fields.keys (store.cell address)).Nodup ∧
      ∀ entry ∈ store.cell address, entry.2.Obeys store charter entry.1 := by
  have upholds := lawful.upholds address isSchema.sound
  rwa [isSchema.schema] at upholds

theorem members {owner : Nat} (sound : charter.sound address)
    (stands : charter.standings address = .members owner) :
    ∃ members : Fields String Slot, store.cell address = Cell.named members ∧ (Fields.keys members).Nodup ∧
      ∀ member ∈ members, member.2.Fits charter .schema := by
  have upholds := lawful.upholds address sound
  rwa [stands] at upholds

theorem fits (isSchema : charter.IsSchema address) {keyword : String} (listed : (keyword, role) ∈ Walk.keywords)
    (found : Fields.get? (store.cell address) (.text keyword) = some slot) : slot.Fits charter role := by
  cases (lawful.schema isSchema).2 _ (Fields.mem_of_get? found) with
  | @walked _ other _ listed' fits =>
      obtain rfl : role = other := Option.some.inj
        ((Walk.lookup_keywords listed).symm.trans (Walk.lookup_keywords listed'))
      exact fits
  | plain unwalked _ _ _ => exact absurd listed (unwalked role)

/-- What is sound and finite passes the metaschema. -/
theorem passes (value : Json) : ∀ {role : Walk.Role} {slot : Slot}, slot.Fits charter role →
    store.Denotes slot value →
    PassesAs role value ∧ value.wellFormed = true := by
  induction value using Json.treeInduction with
  | array items ih =>
      intro role slot fits denotes
      obtain ⟨slots, rfl, each⟩ := denotes.eq_array
      cases fits with
      | list isList some fits =>
          have all : ∀ item ∈ items, PassesAs .schema item ∧ item.wellFormed = true := fun item listed => by
            obtain ⟨slot, among, denotes⟩ := exists_of_forall₂ each listed
            exact ih item listed (fits slot among) denotes
          refine ⟨.list isList ?_ fun item listed => (all item listed).1,
            (Json.wellFormed_array _).mpr fun item listed => (all item listed).2⟩
          rintro rfl
          exact some (List.forall₂_nil_right_iff.mp each)
  | object fields ih =>
      intro role slot fits denotes
      obtain ⟨address, rfl, each⟩ := denotes.eq_node
      cases fits with
      | node own isSchema =>
          obtain ⟨distinct, obeys⟩ := lawful.schema isSchema
          rw [each.keys] at distinct
          have entries : ∀ field ∈ fields, ∃ keyword, field.1 = .text keyword ∧ field.2.wellFormed = true ∧
              ∀ rule, (keyword, rule) ∈ rules → Holds rule field.2 := by
            intro field listed
            obtain ⟨entry, among, same, denotes⟩ := exists_of_forall₂ each listed
            have obeys := obeys entry among
            rw [same] at obeys
            obtain ⟨key, value⟩ := field
            cases obeys with
            | @walked keyword under _ walked fits =>
                obtain ⟨passes, formed⟩ := ih _ listed fits denotes
                refine ⟨keyword, rfl, formed, fun rule ruled => ?_⟩
                rw [eq_of_ruled ruled (ruleOf_mem walked)]
                exact passes
            | @plain keyword _ other _ denotes' formed holds =>
                obtain rfl := denotes.unique denotes'
                exact ⟨keyword, rfl, formed, holds⟩
          refine ⟨.node own (holds_object.mpr fun keyword rule ruled value found => ?_), ?_⟩
          · obtain ⟨other, same, -, holds⟩ := entries _ (Fields.mem_of_get? found)
            obtain rfl := Key.text.inj same
            exact holds rule ruled
          · refine (Json.wellFormed_object _).mpr ⟨fun field listed => ?_, distinct, fun field listed => ?_⟩
            · obtain ⟨keyword, same, -⟩ := entries field listed
              exact ⟨keyword, same⟩
            · obtain ⟨-, -, formed, -⟩ := entries field listed
              exact formed
      | members sound stands =>
          obtain ⟨members, cell, distinct, fits⟩ := lawful.members sound stands
          have keys := each.keys
          rw [cell] at each keys
          have all : ∀ field ∈ fields, (∃ name, field.1 = .text name) ∧ PassesAs .schema field.2 ∧
            field.2.wellFormed = true := by
            intro field listed
            obtain ⟨entry, among, same, denotes⟩ := exists_of_forall₂ each listed
            obtain ⟨member, held, rfl⟩ := List.mem_map.mp among
            exact ⟨⟨member.1, same.symm⟩, ih field listed (fits member held) denotes⟩
          refine ⟨.members fun field listed => (all field listed).2.1, (Json.wellFormed_object _).mpr
            ⟨fun field listed => (all field listed).1, ?_, fun field listed => (all field listed).2.2⟩⟩
          rw [← keys]
          exact Cell.nodup_keys_named.mpr distinct
  | scalar value notArray notObject =>
      intro role slot fits denotes
      cases fits with
      | bool b own =>
          obtain rfl := denotes_bool.mp denotes
          exact ⟨.bool b own, rfl⟩
      | node _ _ | members _ _ =>
          obtain ⟨fields, rfl, -⟩ := denotes_node.mp denotes
          cases notObject
      | list _ _ _ =>
          obtain ⟨items, rfl, -⟩ := denotes_array.mp denotes
          cases notArray

end Lawful

/-- An object is finite and passes as what it stands for. -/
def Passing (store : Store) (standings : Nat → Standing) (address : Nat) : Prop :=
  ∃ role value, (standings address).Serves role ∧ store.Denotes (.node address) value ∧ PassesAs role value ∧
    value.wellFormed = true

/-- A slot that denotes a value which passes fits. -/
theorem fits_of_passes (value : Json) : ∀ {role : Walk.Role} {standing : Standing} {slot : Slot},
    standing.Serves role →
    slot.Stands standings standing → store.Denotes slot value → PassesAs role value → value.wellFormed = true →
      slot.Fits ⟨standings, store.Passing standings⟩ role := by
  induction value using Json.treeInduction with
  | array items ih =>
      intro role standing slot serves stands denotes passes formed
      obtain ⟨slots, rfl, each⟩ := denotes.eq_array
      obtain ⟨isList, all⟩ := passes.array
      refine .list isList ?_ fun item among => ?_
      · rintro rfl
        obtain rfl := List.forall₂_nil_left_iff.mp each
        exact absurd passes not_passesAs_nil
      · obtain ⟨value, listed, denotes⟩ := exists_of_forall₂ each.flip among
        obtain rfl := serves.eq_schema (by rintro rfl; simp [Walk.Role.isList] at isList)
        exact ih value listed Standing.serves_schema (Slot.stands_array.mp stands item among) denotes
          (all value listed)
          ((Json.wellFormed_array _).mp formed value listed)
  | object fields ih =>
      intro role standing slot serves stands denotes passes formed
      obtain ⟨address, rfl, -⟩ := denotes.eq_node
      obtain rfl := Slot.stands_node.mp stands
      have passing : store.Passing standings address := ⟨role, _, serves, denotes, passes, formed⟩
      rcases passes.object with ⟨own, -⟩ | ⟨rfl, -⟩
      · exact .node own ⟨passing, serves.eq_schema (by rintro rfl; simp [Walk.Role.isNode] at own)⟩
      · obtain ⟨owner, stands⟩ := serves
        exact .members passing stands
  | scalar value notArray notObject =>
      intro role standing slot serves stands denotes passes formed
      obtain ⟨own, b, rfl⟩ := passes.scalar notArray notObject
      rw [denotes.eq_bool]
      exact .bool b own

/-- In an arranged store what is finite and passes is sound. -/
theorem Arranged.lawful (arranged : store.Arranged False standings) :
    store.Lawful ⟨standings, store.Passing standings⟩ where
  arranged := arranged
  upholds := by
    rintro address ⟨role, value, serves, denotes, passes, formed⟩
    obtain ⟨fields, rfl, each⟩ := denotes_node.mp denotes
    obtain ⟨textual, distinct, values⟩ := (Json.wellFormed_object _).mp formed
    dsimp only
    rcases passes.object with ⟨own, holds⟩ | ⟨rfl, members⟩
    · have schema := serves.eq_schema (by rintro rfl; simp [Walk.Role.isNode] at own)
      rw [schema]
      refine ⟨each.keys ▸ distinct, fun entry among => ?_⟩
      obtain ⟨field, listed, same, denotes⟩ := exists_of_forall₂ each.flip among
      obtain ⟨keyword, named⟩ := textual field listed
      have stands := arranged.holds address entry among
      rw [schema, same, named] at stands
      have found : Fields.get? fields (.text keyword) = some field.2 := Fields.get?_of_mem distinct (named ▸ listed)
      rw [same, named]
      by_cases walked : ∃ under, (keyword, under) ∈ Walk.keywords
      · obtain ⟨under, walked⟩ := walked
        exact .walked walked (fits_of_passes field.2 (Standing.serves_under address walked) stands denotes
          (holds.keyword walked found) (values field listed))
      · exact .plain (fun under walked' => walked ⟨under, walked'⟩) denotes (values field listed) fun rule ruled =>
          holds.keeps rule ruled found
    · obtain ⟨owner, stands⟩ := serves
      rw [stands]
      obtain ⟨named, same⟩ : ∃ named, store.cell address = Cell.named named := by
        refine Cell.exists_named fun key listed => ?_
        rw [each.keys] at listed
        obtain ⟨field, among, rfl⟩ := List.mem_map.mp listed
        exact textual field among
      refine ⟨named, same, ?_, fun member among => ?_⟩
      · rw [← Cell.nodup_keys_named, ← same, each.keys]
        exact distinct
      · have among : (Key.text member.1, member.2) ∈ store.cell address := by
          rw [same]
          exact List.mem_map_of_mem among
        obtain ⟨field, listed, -, denotes⟩ := exists_of_forall₂ each.flip among
        have stands' := arranged.holds address _ among
        rw [stands] at stands'
        exact fits_of_passes field.2 Standing.serves_schema stands' denotes (members field listed)
          (values field listed)

end Store

end SchemaAlgebra
