import SchemaAlgebra.Proofs.Builder.Upholding

/-!
Taking in the properties of another schema keeps a store lawful. The rounds put copies of sound schemas, or
choices of them, under the names; what is required after them is known by name.
-/

namespace SchemaAlgebra.Builder

variable {store later : Store} {charter : Charter} {address place : Nat} {members : Fields String Slot}
  {names : List String} {operand : Operand} {slot : Slot}

/-- What is known in the rounds: the schema is sound, and its properties are an object at a place. -/
structure Absorbs (store : Store) (charter : Charter) (address place : Nat) (members : Fields String Slot)
    (before : List String) : Prop where
  lawful : store.Lawful charter
  isSchema : charter.IsSchema address
  describes : store.Describes address members before
  found : Fields.get? (store.cell address) "properties" = some (.node place)

variable {before : List String}

theorem Absorbs.member (absorbs : Absorbs store charter address place members before) (name : String)
    (fits : slot.Fits charter .schema) :
    Absorbs (store.withMember place name slot) charter address place (Fields.put members name slot) before := by
  obtain ⟨sound, stands⟩ := absorbs.lawful.place absorbs.isSchema absorbs.found
  exact ⟨absorbs.lawful.withMember sound stands name fits, absorbs.isSchema,
    absorbs.describes.withMember absorbs.found name slot, found_withMember absorbs.describes absorbs.found⟩

theorem Absorbs.choice {first second : Slot} (absorbs : Absorbs store charter address place members before)
    (name : String)
    (fits : first.Fits charter .schema) (fits' : second.Fits charter .schema) : ∃ charter',
      ((store.push (Builder.choice first second)).withMember place name (.node store.size)).Honours charter
        charter' ∧
      Absorbs ((store.push (Builder.choice first second)).withMember place name (.node store.size)) charter'
        address place
        (Fields.put members name (.node store.size)) before := by
  obtain ⟨charter', honours, describes⟩ :=
    choice_honours name absorbs.lawful absorbs.isSchema absorbs.describes absorbs.found fits fits'
  have extends' := Store.Extends.push store (Builder.choice first second)
  have own := extends'.cells address absorbs.describes.inside
  exact ⟨charter', honours, honours.lawful, absorbs.isSchema.mono honours.grows, describes,
    found_withMember (absorbs.describes.extend extends') (own ▸ absorbs.found)⟩

/-- The rounds end with a sound schema, and with names of which something is known. -/
def Absorbed (later : Store) (charter : Charter) (address place : Nat) (before : List String) (required : List Slot)
    (known : List String → Prop) : Prop :=
  ∃ charter' members' names', later.Honours charter charter' ∧
    Absorbs later charter' address place members' before ∧
    required = names'.map .string ∧ known names'

theorem Absorbed.after {middle : Store} {charter' : Charter} {required : List Slot}
    {known known' : List String → Prop}
    (absorbed : Absorbed later charter' address place before required known)
    (honours : middle.Honours charter charter')
    (knows : ∀ names, known names → known' names) :
    Absorbed later charter address place before required known' := by
  obtain ⟨last, members', names', more, absorbs, same, holds⟩ := absorbed
  exact ⟨last, members', names', honours.trans more, absorbs, same, knows names' holds⟩

theorem Absorbs.absorbed {required : List Slot} {known : List String → Prop}
    (absorbs : Absorbs store charter address place members before) (holds : known names)
    (ran : outcome (pure (names.map .string) : Change (List Slot)) store = (.ok required, later)) :
    Absorbed later charter address place before required known := by
  obtain ⟨same, rfl⟩ := Prod.mk.inj ran
  exact ⟨charter, members, names, absorbs.lawful.honours, absorbs, (Except.ok.inj same).symm, holds⟩

/-- Different names are required, and none of them is the name of a property that is taken in as a new and
required one. -/
def Fresh (declared otherNames names taken : List String) : Prop :=
  names.Nodup ∧ ∀ name ∈ taken, name ∉ declared → name ∈ otherNames → name ∉ names

theorem fresh_cons {declared declared' otherNames names' rest : List String} {name : String}
    (declares : ∀ other ∈ rest, other ∈ declared' ↔ other ∈ declared)
    (requires : ∀ other ∈ rest, other ∈ names' ↔ other ∈ names)
    (here : names'.Nodup ↔ names.Nodup ∧ (name ∉ declared → name ∈ otherNames → name ∉ names)) :
    Fresh declared' otherNames names' rest ↔ Fresh declared otherNames names (name :: rest) := by
  rw [Fresh, Fresh, here, List.forall_mem_cons, and_assoc]
  refine and_congr_right fun _ => and_congr_right fun _ => forall₂_congr fun other listed => ?_
  rw [declares other listed, requires other listed]

theorem mem_insert {items : List String} {name other : String} :
    (other ∈ if name ∈ items then items else items ++ [name]) ↔ other = name ∨ other ∈ items := by
  refine ⟨mem_of_mem_insert, ?_⟩
  split
  · next listed => exact Or.rec (fun same => same ▸ listed) id
  · simp [or_comm]

theorem nodup_insert_iff {items : List String} {name : String} :
    (if name ∈ items then items else items ++ [name]).Nodup ↔ items.Nodup := by
  refine ⟨fun distinct => ?_, nodup_insert name⟩
  split at distinct
  · exact distinct
  · exact (List.nodup_append.mp distinct).1

theorem nodup_append_singleton {items : List String} {name : String} :
    (items ++ [name]).Nodup ↔ items.Nodup ∧ name ∉ items := by
  rw [List.nodup_append_comm, List.singleton_append, List.nodup_cons, and_comm]

/-- Merging requires different names exactly if none is required before it is taken in as a new one. -/
theorem mergeMembers_absorbed {otherNames : List String} {required : List Slot} (taken : Fields String Slot) :
    ∀ {store : Store} {charter : Charter} {members : Fields String Slot} {names : List String},
      Absorbs store charter address place members before → (∀ member ∈ taken, member.2.Fits charter .schema) →
      (Fields.keys taken).Nodup →
      outcome (mergeMembers address (otherNames.map .string) (names.map .string) (Cell.named taken)) store =
        (.ok required, later) → Absorbed later charter address place before required fun names' =>
          (names'.Nodup ↔ Fresh (Fields.keys members) otherNames names (Fields.keys taken)) ∧
            names' ⊆ names ++ Fields.keys taken := by
  induction taken with
  | nil =>
      intro store charter members names absorbs _ _ ran
      refine absorbs.absorbed ⟨?_, List.subset_append_left _ _⟩ ran
      simp [Fresh, Fields.keys]
  | cons member rest ih =>
      obtain ⟨name, slot⟩ := member
      intro store charter members names absorbs fits distinct ran
      obtain ⟨here, others⟩ := List.forall_mem_cons.mp fits
      obtain ⟨missing, distinct⟩ := List.nodup_cons.mp distinct
      have apart : ∀ other ∈ Fields.keys rest, other ≠ name := fun other listed same => missing (same ▸ listed)
      have declares (slot : Slot) (other : String) (listed : other ∈ Fields.keys rest) :
          other ∈ Fields.keys (Fields.put members name slot) ↔ other ∈ Fields.keys members := by
        rw [← Fields.has_iff_mem_keys, ← Fields.has_iff_mem_keys, Fields.has, Fields.has, Fields.get?_put,
          if_neg (Ne.symm (apart other listed))]
      change outcome (mergeMembers address (otherNames.map .string) (names.map .string)
        ((.text name, slot) :: Cell.named rest)) store = (.ok required, later) at ran
      rw [outcome_mergeMembers absorbs.describes absorbs.found] at ran
      cases held : Fields.get? members name with
      | some current =>
          rw [held] at ran
          have mine := absorbs.lawful.member absorbs.isSchema absorbs.describes (name, current)
            (Fields.mem_of_get? held)
          obtain ⟨charter', honours, absorbs'⟩ := absorbs.choice name mine here
          refine (ih absorbs' (fun other listed => (others other listed).mono honours.grows) distinct ran).after
            honours fun names' known => ⟨known.1.trans (fresh_cons (declares _) (fun other listed => ?_) ?_),
              fun other listed => ?_⟩
          · rw [mem_insert, or_iff_right (apart other listed)]
          · have declared : name ∈ Fields.keys members := List.mem_map_of_mem (Fields.mem_of_get? held)
            rw [nodup_insert_iff]
            simp [declared]
          · rcases List.mem_append.mp (known.2 listed) with listed | listed
            · rcases mem_insert.mp listed with rfl | listed <;> simp [Fields.keys, listed]
            · exact List.mem_append_right _ (List.mem_cons_of_mem _ listed)
      | none =>
          rw [held] at ran
          have absorbs' := absorbs.member name here
          refine (ih absorbs' others distinct ran).after absorbs.lawful.honours fun names' known =>
            ⟨known.1.trans (fresh_cons (declares _) (fun other listed => ?_) ?_), fun other listed => ?_⟩
          · split
            · simp [apart other listed]
            · exact .rfl
          · have undeclared := (Fields.get?_eq_none_iff members name).mp held
            split
            · next required => simp [nodup_append_singleton, undeclared, required]
            · next optional => simp [optional]
          · rcases List.mem_append.mp (known.2 listed) with listed | listed
            · split at listed
              · rcases List.mem_append.mp listed with listed | listed
                · exact List.mem_append_left _ listed
                · simp [Fields.keys, List.mem_singleton.mp listed]
              · exact List.mem_append_left _ listed
            · exact List.mem_append_right _ (List.mem_cons_of_mem _ listed)

theorem overwriteMembers_absorbed {otherNames : List String} {required : List Slot} (taken : Fields String Slot) :
    ∀ {store : Store} {members : Fields String Slot} {names : List String},
      Absorbs store charter address place members before → (∀ member ∈ taken, member.2.Fits charter .schema) →
      outcome (overwriteMembers address (otherNames.map .string) (names.map .string) (Cell.named taken)) store =
        (.ok required, later) → Absorbed later charter address place before required fun names' =>
          names.Nodup → names'.Nodup := by
  induction taken with
  | nil => exact fun absorbs _ ran => absorbs.absorbed id ran
  | cons member rest ih =>
      obtain ⟨name, slot⟩ := member
      intro store members names absorbs fits ran
      obtain ⟨here, others⟩ := List.forall_mem_cons.mp fits
      change outcome (overwriteMembers address (otherNames.map .string) (names.map .string)
        ((.text name, slot) :: Cell.named rest)) store = (.ok required, later) at ran
      rw [outcome_overwriteMembers absorbs.found] at ran
      refine (ih (absorbs.member name here) others ran).after absorbs.lawful.honours fun names' known distinct =>
        known ?_
      split
      · exact nodup_insert name distinct
      · exact distinct.erase name

/-- What another sound schema offers are sound schemas, under its own names. -/
theorem Offers.honours {root : Nat} {others taken : Fields String Slot} {otherNames : List String} {given : Store}
    (offers : Offers store root others given taken) (lawful : store.Lawful charter)
    (isSchema : charter.IsSchema root)
    (describes : store.Describes root others otherNames) : Fields.keys taken = Fields.keys others ∧
      ∃ charter', given.Honours charter charter' ∧ ∀ member ∈ taken, member.2.Fits charter' .schema := by
  cases offers with
  | nothing empty => exact ⟨by rw [empty], charter, lawful.honours, fun _ listed => absurd listed List.not_mem_nil⟩
  | @copies place found =>
      have within : (Slot.node place).Within store.size := Slot.within_node.mpr (describes.apart found).2
      have gathered := Store.gathered_reach lawful.arranged.closed within
      obtain ⟨charter', grown, sound⟩ := lawful.copy within
      refine ⟨by simp [Fields.keys, Function.comp_def], charter', grown, fun member listed => ?_⟩
      obtain ⟨original, held, rfl⟩ := List.mem_map.mp listed
      refine (lawful.member isSchema describes original held).relocate fun address named => sound address ?_
      refine gathered.closed place (gathered.begins (by simp [Slot.addresses])) address ?_
      rw [describes.cell found]
      exact Cell.mem_addresses.mpr ⟨_, List.mem_map_of_mem held, named⟩

/-- Taking in the properties of another schema comes to requiring the names that its rounds lead to. -/
theorem takeIn_absorbed {operation : String} {combine : List Slot → List Slot → Cell → Change (List Slot)}
    (known : (declared otherNames names taken names' : List String) → Prop)
    (rounds : ∀ {store later : Store} {charter : Charter} {place : Nat} {members taken : Fields String Slot}
      {names otherNames : List String} {required : List Slot}, Absorbs store charter address place members names →
      (∀ member ∈ taken, member.2.Fits charter .schema) → (Fields.keys taken).Nodup →
      outcome (combine (otherNames.map .string) (names.map .string) (Cell.named taken)) store =
          (.ok required, later) →
        Absorbed later charter address place names required
          (known (Fields.keys members) otherNames names (Fields.keys taken)))
    (lawful : store.Lawful charter) (isSchema : charter.IsSchema address) (given : Sound charter operand)
    (describes : store.Describes address members names)
    (ran : outcome (do
      requireSimple address operation
      let (theirs, theirRequired) ← offered operand
      let _ ← ownProperties address
      let before ← required address
      setRequired address (← combine theirRequired before (← offeredMembers theirs))) store = (.ok (), later)) :
    ∃ root others otherNames, operand = .builder root ∧ store.Describes root others otherNames ∧
      ∃ (charter' : Charter) (last : Store) (members' : Fields String Slot) (names' : List String),
        last.Honours charter charter' ∧ last.Describes address members' names ∧
        later = last.withNames address names' ∧
        known (Fields.keys members) otherNames names (Fields.keys others) names' := by
  obtain ⟨root, rfl⟩ : ∃ root, operand = .builder root := by
    obtain ⟨-, -, ran⟩ := (still_requireSimple address _).bind_eq_ok.mp ran
    obtain ⟨offer, given, ran, -⟩ := outcome_bind_eq_ok.mp ran
    exact builder_of_offered ran
  have isSchema' := given root rfl
  obtain ⟨others, otherNames, theirs⟩ := lawful.describes isSchema'
  obtain ⟨given, taken, place, owning, required, last, offers, owns, combines, sets⟩ :=
    takeIn_ok lawful.arranged.closed describes theirs ran
  obtain ⟨keys, charter₁, grown, fits⟩ := offers.honours lawful isSchema' theirs
  obtain ⟨charter₂, owned⟩ := owns.honours grown.lawful (isSchema.mono grown.grows)
  have both := grown.trans owned
  obtain ⟨charter₃, members', names', more, absorbs, rfl, holds⟩ := rounds
    ⟨owned.lawful, isSchema.mono both.grows, owns.describes, owns.found⟩
    (fun member listed => (fits member listed).mono owned.grows) (keys ▸ theirs.distinct) combines
  rw [outcome_setRequired_string] at sets
  obtain rfl : last.withNames address names' = later := congrArg Prod.snd sets
  exact ⟨root, others, otherNames, rfl, theirs, charter₃, last, members', names', both.trans more,
    absorbs.describes, rfl, keys ▸ holds⟩

/-- A merge leaves a lawful store exactly if it requires different names. -/
theorem merge_honours (lawful : store.Lawful charter) (isSchema : charter.IsSchema address)
    (given : Sound charter operand) (describes : store.Describes address members names)
    (ran : outcome (merge address operand) store = (.ok (), later)) :
    ∃ root others otherNames, operand = .builder root ∧ store.Describes root others otherNames ∧
      ∃ members' names', later.Describes address members' names' ∧
        (names'.Nodup ↔ Fresh (Fields.keys members) otherNames names (Fields.keys others)) ∧
        names' ⊆ names ++ Fields.keys others ∧ (names'.Nodup → ∃ charter', later.Honours charter charter') := by
  obtain ⟨root, others, otherNames, rfl, theirs, charter', last, members', names', honours, shown, rfl,
      fresh, among⟩ :=
    takeIn_absorbed (fun declared otherNames names taken names' =>
        (names'.Nodup ↔ Fresh declared otherNames names taken) ∧ names' ⊆ names ++ taken)
      (fun absorbs fits distinct ran => mergeMembers_absorbed _ absorbs fits distinct ran) lawful isSchema
      given describes ran
  exact ⟨root, others, otherNames, rfl, theirs, members', names', shown.withNames names', fresh, among,
    fun distinct => ⟨charter', honours.lawful.withNames (isSchema.mono honours.grows) distinct, honours.grows⟩⟩

theorem overwrite_honours (lawful : store.Lawful charter) (isSchema : charter.IsSchema address)
    (given : Sound charter operand) (describes : store.Describes address members names) (distinct : names.Nodup)
    (ran : outcome (overwrite address operand) store = (.ok (), later)) :
    ∃ charter', later.Honours charter charter' := by
  obtain ⟨-, -, -, -, -, charter', last, members', names', honours, -, rfl, known⟩ :=
    takeIn_absorbed (fun _ _ names _ names' => names.Nodup → names'.Nodup)
      (fun absorbs fits _ ran => overwriteMembers_absorbed _ absorbs fits ran) lawful isSchema given describes ran
  exact ⟨charter', honours.lawful.withNames (isSchema.mono honours.grows) (known distinct), honours.grows⟩

end SchemaAlgebra.Builder
