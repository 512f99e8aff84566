import SchemaAlgebra.Proofs.Builder.Charter
import SchemaAlgebra.Proofs.Builder.Rounds
import SchemaAlgebra.Proofs.Json.Sorting

/-!
Keeping a store lawful. The small changes that edits consist of lead from a lawful store to a lawful one: a schema
may get what the rule of the keyword asks for under a keyword, new schemas may be made of sound ones, and the
copies of sound objects are sound.
-/

namespace SchemaAlgebra

open Metaschema

variable {store later : Store} {charter charter' : Charter} {slot : Slot} {role : Walk.Role} {cell : Cell}
  {standing : Standing} {address : Nat} {value : Json} {members : Fields String Slot} {names : List String}

/-- A slot may be set under a key of a schema: it holds sound schemas, or a value that no object is part of. -/
inductive Slot.Ready (charter : Charter) : Key → Slot → Prop
  | walked {keyword : String} {role : Walk.Role} {slot : Slot} : (keyword, role) ∈ Walk.keywords → role ≠ .members →
      slot.Fits charter role → Ready charter (.text keyword) slot
  | plain {keyword : String} {slot : Slot} {value : Json} : Walk.Unwalked keyword → slot.addresses = [] →
      (∀ store : Store, store.Denotes slot value) → value.wellFormed = true →
      (∀ rule, (keyword, rule) ∈ rules → Holds rule value) → Ready charter (.text keyword) slot

namespace Slot.Ready

variable {key : Key} (ready : slot.Ready charter key)

include ready

theorem obeys (store : Store) : slot.Obeys store charter key := by
  cases ready with
  | walked listed _ fits => exact .walked listed fits
  | plain unwalked _ denotes formed holds => exact .plain unwalked (denotes store) formed holds

theorem stands (self : Nat) : slot.Stands charter.standings (Standing.schema.under self key) := by
  cases ready with
  | walked listed other fits =>
      rw [(Standing.serves_under self listed).eq_schema other]
      exact fits.stands other
  | plain _ none _ _ _ => exact stands_of_addresses none

theorem within (lawful : store.Lawful charter) : slot.Within store.size := by
  cases ready with
  | walked _ _ fits => exact lawful.within fits
  | plain _ none _ _ _ => exact within_of_addresses none

end Slot.Ready

/-- A value that no object is part of may be set under a keyword of which it holds the rule. -/
theorem Slot.ready_plain {keyword : String} {rule : Rule} (unwalked : Walk.Unwalked keyword)
    (ruled : (keyword, rule) ∈ rules)
    (none : slot.addresses = []) (denotes : ∀ store : Store, store.Denotes slot value)
    (formed : value.wellFormed = true)
    (holds : Holds rule value) : slot.Ready charter keyword :=
  .plain unwalked none denotes formed fun _ ruled' => eq_of_ruled ruled ruled' ▸ holds

theorem Slot.ready_required (distinct : names.Nodup) :
    (Slot.array (names.map .string)).Ready charter "required" := by
  refine ready_plain Walk.unwalked_required (show ("required", Rule.texts) ∈ rules by decide) ?_
    (fun store => ?_) ?_
    (holds_texts.mpr ⟨names, rfl, Json.allDifferent_of_nodup distinct⟩)
  · refine List.eq_nil_iff_forall_not_mem.mpr fun address named => ?_
    obtain ⟨item, listed, named⟩ := Slot.mem_itemAddresses.mp named
    obtain ⟨name, -, rfl⟩ := List.mem_map.mp listed
    cases named
  · refine Store.denotes_array.mpr ⟨_, rfl, ?_⟩
    exact List.forall₂_map_left_iff.mpr (List.forall₂_map_right_iff.mpr
      (List.forall₂_same.mpr fun _ _ => Store.denotes_string.mpr rfl))
  · refine (Json.wellFormed_array _).mpr fun item listed => ?_
    obtain ⟨name, -, rfl⟩ := List.mem_map.mp listed
    rfl

theorem Slot.ready_arrayType : (Slot.string "array").Ready charter "type" :=
  ready_plain (by simp [Walk.Unwalked, Walk.keywords]) (show ("type", Rule.types) ∈ rules by decide) rfl
    (fun _ => Store.denotes_string.mpr rfl) rfl ⟨.toFirst, rfl⟩

theorem Slot.ready_additional (fits : slot.Fits charter .schema) : slot.Ready charter "additionalProperties" :=
  .walked (show ("additionalProperties", Walk.Role.objectOnly) ∈ Walk.keywords by decide) (by decide)
    (fits.schema rfl)

/-- A choice between sound schemas may be made. -/
theorem Cell.ready_choice {first second : Slot} (fits : first.Fits charter .schema)
    (fits' : second.Fits charter .schema) :
    ∀ entry ∈ Builder.choice first second, entry.2.Ready charter entry.1 := by
  have walked : ("oneOf", Walk.Role.branches) ∈ Walk.keywords := by decide
  refine List.forall_mem_singleton.mpr (.walked walked (by decide) (.list rfl (by simp) fun item listed => ?_))
  rcases List.mem_pair.mp listed with rfl | rfl
  · exact fits
  · exact fits'

/-- A schema of lists of what is sound may be made. -/
theorem Cell.ready_listOf (fits : slot.Fits charter .schema) :
    ∀ entry ∈ Builder.listOf slot, entry.2.Ready charter entry.1 := by
  have walked : ("items", Walk.Role.schemaOrList) ∈ Walk.keywords := by decide
  exact List.forall_mem_cons.mpr ⟨Slot.ready_arrayType,
    List.forall_mem_singleton.mpr (.walked walked (by decide) (fits.schema rfl))⟩

/-- The charter in which one more object is sound. -/
def Charter.enlist (charter : Charter) (address : Nat) (standing : Standing) : Charter where
  standings := Function.update charter.standings address standing
  sound := fun other => charter.sound other ∨ other = address

namespace Store.Lawful

variable (lawful : store.Lawful charter)

include lawful

/-- Data stay what they are if something else is replaced. -/
theorem denotes_replace (sound : charter.sound address) (cell : Cell) (stands : slot.Stands charter.standings .data)
    (denotes : store.Denotes slot value) : (store.replace address cell).Denotes slot value := by
  refine denotes.agree (fun other data => ?_) (lawful.arranged.apart_data stands)
  rw [cell_replace_eq, if_neg]
  rintro ⟨rfl, -⟩
  rw [not_not] at data
  have upholds := lawful.upholds address sound
  rw [data] at upholds
  exact upholds

/-- A sound object may be replaced by one that holds what is asked of it. -/
theorem replace (sound : charter.sound address)
    (holds : ∀ entry ∈ cell, entry.2.Stands charter.standings ((charter.standings address).under address entry.1))
    (within : cell.Within store.size) (upholds : cell.Upholds store charter (charter.standings address)) :
    (store.replace address cell).Lawful charter where
  arranged := lawful.arranged.replace holds within fun impossible => impossible.elim
  upholds other sound' := by
    rw [cell_replace_eq]
    split
    · next same =>
        obtain ⟨rfl, -⟩ := same
        refine upholds.mono .refl fun entry listed keyword same unwalked schema value =>
          lawful.denotes_replace sound cell ?_
        have stands := holds entry listed
        rwa [schema, same, unwalked.under] at stands
    · refine (lawful.upholds other sound').mono .refl fun entry listed keyword same unwalked schema value =>
        lawful.denotes_replace sound cell ?_
      have stands := lawful.arranged.holds other entry listed
      rwa [schema, same, unwalked.under] at stands

theorem put {key : Key} (isSchema : charter.IsSchema address) (ready : slot.Ready charter key) :
    (store.replace address (Fields.put (store.cell address) key slot)).Lawful charter := by
  obtain ⟨distinct, obeys⟩ := lawful.schema isSchema
  refine lawful.replace isSchema.sound (fun entry listed => ?_)
    ((lawful.arranged.within address).put (ready.within lawful)) ?_
  · rcases Fields.mem_put listed with rfl | listed
    · rw [isSchema.schema]
      exact ready.stands address
    · exact lawful.arranged.holds address entry listed
  · rw [isSchema.schema]
    refine ⟨Fields.nodup_keys_put distinct, fun entry listed => ?_⟩
    rcases Fields.mem_put listed with rfl | listed
    · exact ready.obeys store
    · exact obeys entry listed

theorem erase (isSchema : charter.IsSchema address) (key : Key) :
    (store.replace address (Fields.erase (store.cell address) key)).Lawful charter := by
  obtain ⟨distinct, obeys⟩ := lawful.schema isSchema
  refine lawful.replace isSchema.sound (fun entry listed =>
    lawful.arranged.holds address entry (Fields.mem_erase listed))
    (lawful.arranged.within address).erase ?_
  rw [isSchema.schema]
  exact ⟨Fields.nodup_keys_erase distinct key, fun entry listed => obeys entry (Fields.mem_erase listed)⟩

/-- A schema may require any different names. -/
theorem withNames (isSchema : charter.IsSchema address) (distinct : names.Nodup) :
    (store.withNames address names).Lawful charter := by
  rw [Store.withNames, Builder.withRequired]
  split
  · exact lawful.erase isSchema "required"
  · exact lawful.put isSchema (Slot.ready_required distinct)

/-- The members of a sound schema are sound. -/
theorem place {place : Nat} (isSchema : charter.IsSchema address)
    (found : Fields.get? (store.cell address) "properties" = some (.node place)) :
    charter.sound place ∧ charter.standings place = .members address := by
  have walked : ("properties", Walk.Role.members) ∈ Walk.keywords := by decide
  refine ⟨?_, lawful.arranged.members isSchema.schema found⟩
  cases lawful.fits isSchema walked found with
  | node own _ => simp [Walk.Role.isNode] at own
  | members sound _ => exact sound

/-- A sound schema has members and requires names. -/
theorem describes (isSchema : charter.IsSchema address) :
    ∃ members names, store.Describes address members names := by
  have inside := lawful.inside isSchema.sound
  have apart {place : Nat} (found : Fields.get? (store.cell address) "properties" = some (.node place)) :
      place ≠ address ∧ place < store.size := by
    obtain ⟨sound, stands⟩ := lawful.place isSchema found
    refine ⟨?_, lawful.inside sound⟩
    rintro rfl
    cases isSchema.schema.symm.trans stands
  obtain ⟨names, required⟩ : ∃ names : List String, Fields.get? (store.cell address) "required" = none ∧
      names = [] ∨ Fields.get? (store.cell address) "required" = some (.array (names.map .string)) := by
    cases found : Fields.get? (store.cell address) "required" with
    | none => exact ⟨[], .inl ⟨rfl, rfl⟩⟩
    | some slot =>
        cases (lawful.schema isSchema).2 _ (Fields.mem_of_get? found) with
        | walked listed _ => exact absurd listed (Walk.unwalked_required _)
        | plain _ denotes _ holds =>
            obtain ⟨names, rfl, -⟩ := holds_texts.mp (holds .texts (by decide))
            exact ⟨names, .inr (congrArg some denotes.eq_strings)⟩
  cases found : Fields.get? (store.cell address) "properties" with
  | none =>
      refine ⟨[], names, inside, ?_, apart, required, List.nodup_nil⟩
      rw [found]
      exact .absent rfl
  | some slot =>
      have walked : ("properties", Walk.Role.members) ∈ Walk.keywords := by decide
      cases lawful.fits isSchema walked found with
      | node own _ | bool _ own => simp [Walk.Role.isNode] at own
      | list isList _ _ => simp [Walk.Role.isList] at isList
      | members sound stands =>
          obtain ⟨members, cell, distinct, -⟩ := lawful.members sound stands
          refine ⟨members, names, inside, ?_, apart, required, distinct⟩
          rw [found]
          exact .node cell

theorem member (isSchema : charter.IsSchema address) (describes : store.Describes address members names) :
    ∀ member ∈ members, member.2.Fits charter .schema := by
  intro member listed
  have held : Fields.has members member.1 = true := (Fields.has_iff_mem_keys _ _).mpr (List.mem_map_of_mem listed)
  obtain ⟨place, found⟩ := describes.place held
  obtain ⟨sound, stands⟩ := lawful.place isSchema found
  obtain ⟨others, cell, -, fits⟩ := lawful.members sound stands
  have listed' : (Key.text member.1, member.2) ∈ Cell.named others := by
    rw [← cell, describes.cell found]
    exact List.mem_map_of_mem listed
  obtain ⟨other, among, same⟩ := List.mem_map.mp listed'
  simp only [Prod.mk.injEq] at same
  exact same.2 ▸ fits other among

/-- A member may be a sound schema. -/
theorem withMember {place owner : Nat} (sound : charter.sound place)
    (stands : charter.standings place = .members owner)
    (name : String) (fits : slot.Fits charter .schema) : (store.withMember place name slot).Lawful charter := by
  obtain ⟨members, cell, distinct, each⟩ := lawful.members sound stands
  refine lawful.replace sound (fun entry listed => ?_) ((lawful.arranged.within place).put (lawful.within fits)) ?_
  · rcases Fields.mem_put listed with rfl | listed
    · rw [stands]
      exact fits.stands (by decide)
    · exact lawful.arranged.holds place entry listed
  · rw [stands, cell, Cell.put_named]
    refine ⟨_, rfl, Fields.nodup_keys_put distinct, fun member listed => ?_⟩
    rcases Fields.mem_put listed with rfl | listed
    · exact fits
    · exact each member listed

/-- Objects may be added that hold what is asked of those that are sound among them. -/
theorem extend (extends' : store.Extends later) (arranged : later.Arranged False charter'.standings)
    (grows : charter.Grows charter')
    (upholds : ∀ address, charter'.sound address → charter.sound address ∨
      (later.cell address).Upholds later charter' (charter'.standings address)) :
    later.Honours charter charter' where
  grows := grows
  lawful :=
    { arranged := arranged
      upholds := fun address sound => by
        rcases upholds address sound with sound | upholds
        · rw [(grows address sound).2, extends'.cells address (lawful.inside sound)]
          refine (lawful.upholds address sound).mono grows fun entry listed _ _ _ _ value denotes => ?_
          exact denotes.extend lawful.arranged.closed (lawful.arranged.within address entry listed) extends'
        · exact upholds }

/-- An object may be added that holds what is asked of it. -/
theorem push (within : cell.Within store.size)
    (holds : ∀ entry ∈ cell, entry.2.Stands charter.standings (standing.under store.size entry.1))
    (upholds : cell.Upholds store charter standing) :
    (store.push cell).Honours charter (charter.enlist store.size standing) := by
  obtain ⟨arranged, -⟩ := lawful.arranged.push standing within holds fun impossible => impossible.elim
  have grows : charter.Grows (charter.enlist store.size standing) := fun address sound =>
    ⟨.inl sound, Function.update_of_ne (Nat.ne_of_lt (lawful.inside sound)) _ _⟩
  refine lawful.extend (.push store cell) arranged grows fun address sound => sound.imp_right ?_
  rintro rfl
  have stands : (charter.enlist store.size standing).standings store.size = standing := Function.update_self ..
  rw [cell_push, if_pos rfl, stands]
  refine upholds.mono grows fun entry listed _ _ _ _ value denotes => ?_
  exact denotes.extend lawful.arranged.closed (within entry listed) (.push store cell)

/-- A schema may be added of which every keyword has what it may be set to. -/
theorem pushSchema (distinct : (Fields.keys cell).Nodup) (ready : ∀ entry ∈ cell, entry.2.Ready charter entry.1) :
    ∃ charter', (store.push cell).Honours charter charter' ∧ charter'.IsSchema store.size :=
  ⟨_, lawful.push (fun entry listed => (ready entry listed).within lawful)
    (fun entry listed => (ready entry listed).stands _)
    ⟨distinct, fun entry listed => (ready entry listed).obeys store⟩, .inr rfl, Function.update_self ..⟩

/-- An empty schema may be added. -/
theorem pushEmpty : ∃ charter', (store.push []).Honours charter charter' ∧ charter'.IsSchema store.size :=
  lawful.pushSchema List.nodup_nil fun _ listed => absurd listed List.not_mem_nil

/-- A schema may get new properties. -/
theorem withMembers (isSchema : charter.IsSchema address) (distinct : (Fields.keys members).Nodup)
    (each : ∀ member ∈ members, member.2.Fits charter .schema) :
    ∃ charter', (store.withMembers address members).Honours charter charter' := by
  have walked : ("properties", Walk.Role.members) ∈ Walk.keywords := by decide
  have fits : ∀ entry ∈ Cell.named members, entry.2.Fits charter .schema := fun entry listed => by
    obtain ⟨member, among, rfl⟩ := List.mem_map.mp listed
    exact each member among
  have fresh : (store.push (Cell.named members)).Honours charter (charter.enlist store.size (.members address)) :=
    lawful.push (fun entry listed => lawful.within (fits entry listed))
      (fun entry listed => (fits entry listed).stands (by decide)) ⟨members, rfl, distinct, each⟩
  have stands : (charter.enlist store.size (.members address)).standings store.size = .members address :=
    Function.update_self ..
  have isSchema' := isSchema.mono fresh.grows
  obtain ⟨distinct', obeys⟩ := fresh.lawful.schema isSchema'
  refine ⟨_, fresh.lawful.replace isSchema'.sound (fun entry listed => ?_)
    ((fresh.lawful.arranged.within address).put (by simp)) ?_, fresh.grows⟩
  · rcases Fields.mem_put listed with rfl | listed
    · rw [isSchema'.schema]
      exact stands
    · exact fresh.lawful.arranged.holds address entry listed
  · rw [isSchema'.schema]
    refine ⟨Fields.nodup_keys_put distinct', fun entry listed => ?_⟩
    rcases Fields.mem_put listed with rfl | listed
    · exact .walked walked (.members (.inr rfl) stands)
    · exact obeys entry listed

end Store.Lawful

section Relocation

variable {relocation : Nat → Nat}

/-- The copies of what fits fit, if what is sound has sound copies of its standing. -/
theorem Slot.Fits.relocate (fits : slot.Fits charter role)
    (each : ∀ address ∈ slot.addresses, charter.sound address →
    charter'.sound (relocation address) ∧
      charter'.standings (relocation address) = (charter.standings address).relocate relocation) :
    (slot.relocate relocation).Fits charter' role := by
  induction fits with
  | @node role address own isSchema =>
      obtain ⟨sound, stands⟩ := each address List.mem_cons_self isSchema.sound
      rw [isSchema.schema] at stands
      exact .node own ⟨sound, stands⟩
  | bool b own => exact .bool b own
  | @members place owner sound stands =>
      obtain ⟨sound', stands'⟩ := each place List.mem_cons_self sound
      rw [stands] at stands'
      exact .members sound' stands'
  | @list role items isList some _ ih =>
      rw [Slot.relocate, Slot.relocateItems_eq_map]
      refine .list isList (by simpa using some) fun item listed => ?_
      obtain ⟨original, among, rfl⟩ := List.mem_map.mp listed
      exact ih original among fun address named =>
        each address (Slot.mem_itemAddresses.mpr ⟨original, among, named⟩)

namespace Store

/-- The copies of sound objects are sound. -/
theorem Lawful.copy (lawful : store.Lawful charter) (within : slot.Within store.size) :
    ∃ charter', (store.copy slot).2.Honours charter charter' ∧ ∀ address ∈ store.reach slot, charter.sound address →
      charter'.sound (store.copyPlace (store.reach slot) address) ∧
        charter'.standings (store.copyPlace (store.reach slot) address) =
          (charter.standings address).relocate (store.copyPlace (store.reach slot)) := by
  obtain ⟨standings', arranged, advances, copied⟩ := lawful.arranged.copy within
  have gathered := gathered_reach lawful.arranged.closed within
  let charter' : Charter :=
    ⟨standings', fun place => charter.sound place ∨
      ∃ original ∈ store.reach slot, charter.sound original ∧ place = store.copyPlace (store.reach slot) original⟩
  have sound : ∀ address ∈ store.reach slot, charter.sound address →
      charter'.sound (store.copyPlace (store.reach slot) address) ∧
        charter'.standings (store.copyPlace (store.reach slot) address) =
          (charter.standings address).relocate (store.copyPlace (store.reach slot)) :=
    fun address member sound => ⟨.inr ⟨address, member, sound, rfl⟩, copied address member⟩
  refine ⟨charter', lawful.extend (copy_extends store slot) arranged (fun address sound => ?_) fun place known =>
    known.imp_right ?_, sound⟩
  · exact ⟨.inl sound, advances.same address (lawful.inside sound)⟩
  · rintro ⟨original, member, sound', rfl⟩
    have upholds := lawful.upholds original sound'
    have inside {entry : Key × Slot} (listed : entry ∈ store.cell original) :
        ∀ address ∈ entry.2.addresses, address ∈ store.reach slot := fun address named =>
      gathered.closed original member address (Cell.mem_addresses.mpr ⟨entry, listed, named⟩)
    rw [cell_copy member, (sound original member sound').2]
    cases stands : charter.standings original with
    | schema =>
        rw [stands] at upholds
        obtain ⟨distinct, obeys⟩ := upholds
        refine ⟨by rwa [Cell.keys_relocate], fun entry listed => ?_⟩
        obtain ⟨held, among, rfl⟩ := List.mem_map.mp listed
        obtain ⟨key, slot⟩ := held
        cases obeys _ among with
        | walked walked fits =>
            exact .walked walked (fits.relocate fun address named => sound address (inside among address named))
        | plain unwalked denotes formed holds =>
            exact .plain unwalked ((denotes_relocate lawful.arranged.closed within (inside among)).mpr denotes) formed holds
    | members owner =>
        rw [stands] at upholds
        obtain ⟨members, cell, distinct, each⟩ := upholds
        refine ⟨members.map fun member => (member.1, member.2.relocate (store.copyPlace (store.reach slot))),
          ?_, ?_, fun member listed => ?_⟩
        · simp [cell, Cell.relocate, Cell.named]
        · simpa [Fields.keys, Function.comp_def] using distinct
        · obtain ⟨held, among, rfl⟩ := List.mem_map.mp listed
          have among' : (Key.text held.1, held.2) ∈ store.cell original := by
            rw [cell]
            exact List.mem_map_of_mem among
          exact (each held among).relocate fun address named => sound address (inside among' address named)
    | data =>
        rw [stands] at upholds
        exact upholds.elim

/-- A copy of what fits fits. -/
theorem Lawful.copied (lawful : store.Lawful charter) (fits : slot.Fits charter role) :
    ∃ charter', (store.copy slot).2.Honours charter charter' ∧ (store.copy slot).1.Fits charter' role := by
  have within := lawful.within fits
  obtain ⟨charter', honours, sound⟩ := lawful.copy within
  refine ⟨charter', honours, fits.relocate fun address named => sound address ?_⟩
  exact (gathered_reach lawful.arranged.closed within).begins named

/-- Whatever a walk visits from what fits is a sound schema. -/
theorem Lawful.visits (lawful : store.Lawful charter) {node : Nat} (fits : slot.Fits charter role)
    (visits : store.Visits role slot node) : charter.IsSchema node := by
  induction visits with
  | @here role address own =>
      cases fits with
      | node _ isSchema => exact isSchema
      | members _ _ => simp [Walk.Role.isNode] at own
  | @keyword role under address node keyword slot own listed found _ ih =>
      cases fits with
      | node _ isSchema => exact ih (lawful.fits isSchema listed found)
      | members _ _ => simp [Walk.Role.isNode] at own
  | @member place node entry listed _ ih =>
      cases fits with
      | node own _ => simp [Walk.Role.isNode] at own
      | members sound stands =>
          obtain ⟨members, cell, -, each⟩ := lawful.members sound stands
          rw [cell] at listed
          obtain ⟨member, among, rfl⟩ := List.mem_map.mp listed
          exact ih (each member among)
  | item _ listed _ ih =>
      cases fits with
      | list _ _ each => exact ih (each _ listed)

end Store

end Relocation

end SchemaAlgebra
