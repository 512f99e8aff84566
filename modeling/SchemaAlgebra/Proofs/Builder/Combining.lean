import SchemaAlgebra.Proofs.Builder.Preserving

/-!
Edits that combine schemas keep a store in order. They go from name to name, and each round puts a new schema under a
name or takes one from another builder.
-/

namespace SchemaAlgebra.Builder

variable {store later : Store} {duties : Nat → Duty} {address place : Nat} {members : Fields String Slot}
  {names texts : List String} {operand : Operand}

/-- A new schema may be put under a name of a schema. -/
theorem pushMember_progress {cell : Cell} {name : String} (orderly : store.Orderly duties)
    (duty : duties address = .schema) (describes : store.Describes address members names)
    (found : Fields.get? (store.cell address) "properties" = some (.node place)) (within : cell.Within store.size)
    (isSchema : cell.IsSchema store duties) :
    ∃ duties', store.Progress duties ((store.push cell).withMember place name (.node store.size)) duties' ∧
      ((store.push cell).withMember place name (.node store.size)).Describes address
        (Fields.put members name (.node store.size)) names := by
  have serves : cell.Serves store duties .schema := isSchema
  have pushed := orderly.push within serves
  have duty' := pushed.duty orderly (by simp) duty
  have own := (Store.Extends.push store cell).cells address describes.inside
  have found' := own ▸ found
  have placed := pushed.orderly.place duty' found'
  refine ⟨_, pushed.trans ⟨pushed.orderly.withMember placed name ?_, by simp, fun _ _ => rfl⟩,
    (describes.extend (.push store cell)).withMember found' name _⟩
  exact Slot.schematic_node.mpr (Function.update_self ..)

theorem held_put {name other : String} {slot : Slot} (held : Fields.has members other = true) :
    Fields.has (Fields.put members name slot) other = true := by
  rw [Fields.has_iff_mem_keys] at held ⊢
  rw [Fields.keys_put]
  split
  · exact held
  · exact List.mem_append_left _ held

theorem within_choice {bound : Nat} {first second : Slot} (within : first.Within bound) (within' : second.Within bound) :
    (choice first second).Within bound := by
  refine Cell.within_nil.put (Slot.within_array.mpr fun item member => ?_)
  rcases List.mem_pair.mp member with rfl | rfl
  · exact within
  · exact within'

/-- One more member of a schema is a choice between two schemas. -/
theorem choice_progress {first second : Slot} {name : String} (orderly : store.Orderly duties)
    (duty : duties address = .schema) (describes : store.Describes address members names)
    (found : Fields.get? (store.cell address) "properties" = some (.node place)) (schematic : first.Schematic duties)
    (schematic' : second.Schematic duties) :
    ∃ duties', store.Progress duties ((store.push (choice first second)).withMember place name (.node store.size)) duties' ∧
      ((store.push (choice first second)).withMember place name (.node store.size)).Describes address
        (Fields.put members name (.node store.size)) names :=
  pushMember_progress orderly duty describes found (within_choice (orderly.within schematic) (orderly.within schematic'))
    (Cell.isSchema_choice schematic schematic')

theorem offer_progress {alternative : Nat} (texts : List String) :
    ∀ {store : Store} {duties : Nat → Duty} {members : Fields String Slot}, store.Orderly duties →
      duties address = .schema → duties alternative = .schema → store.Describes address members names →
      (∀ name ∈ texts, Fields.has members name = true) →
      outcome (offer address alternative (texts.map .string)) store = (.ok (), later) →
        ∃ duties', store.Progress duties later duties' := by
  induction texts with
  | nil =>
      intro store duties members orderly _ _ _ _ ran
      obtain rfl : store = later := congrArg Prod.snd ran
      exact ⟨duties, .refl orderly⟩
  | cons name rest ih =>
      intro store duties members orderly duty offered describes present ran
      obtain ⟨here, present⟩ := List.forall_mem_cons.mp present
      obtain ⟨current, held⟩ := Option.isSome_iff_exists.mp here
      obtain ⟨place, found⟩ := describes.place here
      have schematic := orderly.member duty describes (name, current) (Fields.mem_of_get? held)
      rw [List.map_cons, outcome_offer describes found held] at ran
      obtain ⟨duties', grown, copy⟩ := copy_schematic orderly (Slot.schematic_node.mpr offered)
      have own := (store.copy_extends (.node alternative)).cells address describes.inside
      obtain ⟨duties'', more, describes'⟩ := choice_progress grown.orderly (grown.duty orderly (by simp) duty)
        (describes.extend (store.copy_extends (.node alternative))) (own ▸ found) (grown.schematic orderly schematic) copy
      have both := grown.trans more
      obtain ⟨last, others⟩ := ih both.orderly (both.duty orderly (by simp) duty) (both.duty orderly (by simp) offered)
        describes' (fun other listed => held_put (present other listed)) ran
      exact ⟨last, both.trans others⟩

theorem listOf_eq (slot : Slot) :
    listOf slot = Fields.put (Fields.put [] (.text "type") (.string "array")) (.text "items") slot :=
  rfl

theorem isSchema_listOf {slot : Slot} (schematic : slot.Schematic duties) : (listOf slot).IsSchema store duties := by
  rw [listOf_eq]
  refine (plain_nil.isSchema.put (by simp) (by simp) fun _ _ _ _ => ?_).put (by simp) (by simp) fun _ _ _ _ => schematic
  exact Slot.schematic_of_addresses rfl

theorem within_listOf {bound : Nat} {slot : Slot} (within : slot.Within bound) : (listOf slot).Within bound := by
  rw [listOf_eq]
  exact (Cell.within_nil.put (Slot.within_of_addresses rfl)).put within

theorem offerArrays_progress (texts : List String) :
    ∀ {store : Store} {duties : Nat → Duty} {members : Fields String Slot}, store.Orderly duties →
      duties address = .schema → store.Describes address members names →
      (∀ name ∈ texts, Fields.has members name = true) →
      outcome (offerArrays address (texts.map .string)) store = (.ok (), later) →
        ∃ duties', store.Progress duties later duties' := by
  induction texts with
  | nil =>
      intro store duties members orderly _ _ _ ran
      obtain rfl : store = later := congrArg Prod.snd ran
      exact ⟨duties, .refl orderly⟩
  | cons name rest ih =>
      intro store duties members orderly duty describes present ran
      obtain ⟨here, present⟩ := List.forall_mem_cons.mp present
      obtain ⟨current, held⟩ := Option.isSome_iff_exists.mp here
      obtain ⟨place, found⟩ := describes.place here
      have schematic := orderly.member duty describes (name, current) (Fields.mem_of_get? held)
      rw [List.map_cons, outcome_offerArrays describes found held] at ran
      obtain ⟨duties', grown, copy⟩ := copy_schematic orderly schematic
      have serves : (listOf (store.copy current).1).Serves (store.copy current).2 duties' .schema := isSchema_listOf copy
      have pushed := grown.orderly.push (within_listOf (grown.orderly.within copy)) serves
      have before := grown.trans pushed
      have extended := (store.copy_extends current).trans (.push _ (listOf (store.copy current).1))
      have own := extended.cells address describes.inside
      obtain ⟨duties'', more, describes'⟩ := choice_progress before.orderly (before.duty orderly (by simp) duty)
        (describes.extend extended) (own ▸ found) (before.schematic orderly schematic)
        (Slot.schematic_node.mpr (Function.update_self (store.copy current).2.size Duty.schema duties'))
      rw [Store.size_push] at more describes'
      have all := before.trans more
      obtain ⟨last, others⟩ := ih all.orderly (all.duty orderly (by simp) duty) describes'
        (fun other listed => held_put (present other listed)) ran
      exact ⟨last, all.trans others⟩

theorem transform_progress {schema : Operand} (orderly : store.Orderly duties) (duty : duties address = .schema)
    (given : schema.Schematic duties) (listed : operand.Lists texts)
    (ran : outcome (transform address schema operand) store = (.ok (), later)) :
    ∃ duties', store.Progress duties later duties' := by
  obtain ⟨members, names, describes⟩ := orderly.describes duty
  obtain ⟨present, alternative, rfl, offers⟩ := transform_ok describes listed ran
  exact offer_progress texts orderly duty (given alternative rfl) describes present offers

theorem transformToArray_progress (orderly : store.Orderly duties) (duty : duties address = .schema)
    (listed : operand.isNull = true ∨ ∃ texts, operand.Lists texts)
    (ran : outcome (transformToArray address operand) store = (.ok (), later)) :
    ∃ duties', store.Progress duties later duties' := by
  obtain ⟨members, names, describes⟩ := orderly.describes duty
  obtain ⟨texts, listed⟩ : ∃ texts, operand.isNull = true ∧ texts = Fields.keys members ∨ operand.Lists texts := by
    rcases listed with null | ⟨texts, listed⟩
    · exact ⟨_, .inl ⟨null, rfl⟩⟩
    · exact ⟨texts, .inr listed⟩
  obtain ⟨present, ran⟩ := transformToArray_ok describes listed ran
  exact offerArrays_progress texts orderly duty describes present ran

theorem Offers.progress {root : Nat} {others taken : Fields String Slot} {otherNames : List String} {given : Store}
    (offers : Offers store root others given taken) (orderly : store.Orderly duties) (duty : duties root = .schema)
    (describes : store.Describes root others otherNames) :
    ∃ duties', store.Progress duties given duties' ∧ ∀ member ∈ taken, member.2.Schematic duties' := by
  cases offers with
  | nothing empty => exact ⟨duties, .refl orderly, fun _ listed => absurd listed List.not_mem_nil⟩
  | @copies place found =>
      have within : (Slot.node place).Within store.size := Slot.within_node.mpr (describes.apart found).2
      have gathered := Store.gathered_reach orderly.closed within
      obtain ⟨duties', grown, same⟩ := orderly.copy within
      refine ⟨duties', grown, fun member listed => ?_⟩
      obtain ⟨original, held, rfl⟩ := List.mem_map.mp listed
      refine (orderly.member duty describes original held).relocate fun address named => same address ?_
      refine gathered.closed place (gathered.begins (by simp [Slot.addresses])) address ?_
      rw [describes.cell found]
      exact Cell.mem_addresses.mpr ⟨_, List.mem_map_of_mem held, named⟩

/-- What is known in the rounds of taking in members: the members are those of an orderly schema, and the names
gathered so far are different ones of them. -/
structure Takes (store : Store) (duties : Nat → Duty) (address place : Nat) (members : Fields String Slot)
    (before names : List String) : Prop where
  orderly : store.Orderly duties
  duty : duties address = .schema
  describes : store.Describes address members before
  found : Fields.get? (store.cell address) "properties" = some (.node place)
  distinct : names.Nodup
  declared : ∀ name ∈ names, name ∈ Fields.keys members

theorem found_withMember {name : String} {slot : Slot} (describes : store.Describes address members names)
    (found : Fields.get? (store.cell address) "properties" = some (.node place)) :
    Fields.get? ((store.withMember place name slot).cell address) "properties" = some (.node place) := by
  obtain ⟨apart, inside⟩ := describes.apart found
  rw [Store.cell_withMember inside, if_neg apart, found]

theorem Takes.member {before : List String} {slot : Slot}
    (takes : Takes store duties address place members before names) (name : String) (schematic : slot.Schematic duties)
    {names' : List String} (distinct : names'.Nodup) (declared : ∀ other ∈ names', other = name ∨ other ∈ names) :
    Takes (store.withMember place name slot) duties address place (Fields.put members name slot) before names' where
  orderly := takes.orderly.withMember (takes.orderly.place takes.duty takes.found) name schematic
  duty := takes.duty
  describes := takes.describes.withMember takes.found name slot
  found := found_withMember takes.describes takes.found
  distinct := distinct
  declared := fun other listed => Fields.mem_keys_put ((declared other listed).imp_right (takes.declared other))

theorem Takes.choice {before : List String} {first second : Slot}
    (takes : Takes store duties address place members before names) (name : String) (schematic : first.Schematic duties)
    (schematic' : second.Schematic duties) {names' : List String} (distinct : names'.Nodup)
    (declared : ∀ other ∈ names', other = name ∨ other ∈ names) :
    ∃ duties' members', store.Progress duties
      ((store.push (Builder.choice first second)).withMember place name (.node store.size)) duties' ∧
      Takes ((store.push (Builder.choice first second)).withMember place name (.node store.size)) duties' address place
        members' before names' := by
  obtain ⟨duties', progress, describes⟩ : ∃ duties', store.Progress duties
      ((store.push (Builder.choice first second)).withMember place name (.node store.size)) duties' ∧ _ :=
    choice_progress takes.orderly takes.duty takes.describes takes.found schematic schematic'
  have extended := Store.Extends.push store (Builder.choice first second)
  have own := extended.cells address takes.describes.inside
  refine ⟨duties', _, progress, progress.orderly, progress.duty takes.orderly (by simp) takes.duty, describes, ?_, distinct, ?_⟩
  · exact found_withMember (takes.describes.extend extended) (own ▸ takes.found)
  · exact fun other listed => Fields.mem_keys_put ((declared other listed).imp_right (takes.declared other))

/-- Taking in members ends with the members of an orderly schema and the names that it is to require. -/
def Taken (store later : Store) (duties : Nat → Duty) (address place : Nat) (before : List String)
    (required : List Slot) : Prop :=
  ∃ duties' members names, store.Progress duties later duties' ∧
    Takes later duties' address place members before names ∧ required = names.map .string

theorem Taken.after {middle : Store} {duties' : Nat → Duty} {before : List String} {required : List Slot}
    (taken : Taken middle later duties' address place before required) (progress : store.Progress duties middle duties') :
    Taken store later duties address place before required := by
  obtain ⟨last, members, names, more, takes, same⟩ := taken
  exact ⟨last, members, names, progress.trans more, takes, same⟩

theorem Takes.taken {before : List String} {required : List Slot}
    (takes : Takes store duties address place members before names)
    (ran : outcome (pure (names.map .string) : Change (List Slot)) store = (.ok required, later)) :
    Taken store later duties address place before required := by
  obtain ⟨same, rfl⟩ := Prod.mk.inj ran
  exact ⟨duties, members, names, .refl takes.orderly, takes, (Except.ok.inj same).symm⟩

/-- One more member under a name is one more object of the store at most. -/
theorem Takes.progress_member {before names' : List String} {name : String} {slot : Slot} {members' : Fields String Slot}
    (takes : Takes (store.withMember place name slot) duties address place members' before names') :
    store.Progress duties (store.withMember place name slot) duties :=
  ⟨takes.orderly, by simp, fun _ _ => rfl⟩

theorem mergeMembers_taken {otherNames before : List String} {required : List Slot} (taken : Fields String Slot) :
    ∀ {store : Store} {duties : Nat → Duty} {members : Fields String Slot} {names : List String},
      Takes store duties address place members before names → (∀ member ∈ taken, member.2.Schematic duties) →
      outcome (mergeMembers address (otherNames.map .string) (names.map .string) (Cell.named taken)) store =
        (.ok required, later) → Taken store later duties address place before required := by
  induction taken with
  | nil =>
      intro store duties members names takes _ ran
      exact takes.taken ran
  | cons member rest ih =>
      obtain ⟨name, slot⟩ := member
      intro store duties members names takes schematic ran
      obtain ⟨here, others⟩ := List.forall_mem_cons.mp schematic
      change outcome (mergeMembers address (otherNames.map .string) (names.map .string)
        ((.text name, slot) :: Cell.named rest)) store = (.ok required, later) at ran
      rw [outcome_mergeMembers takes.describes takes.found] at ran
      cases held : Fields.get? members name with
      | some current =>
          rw [held] at ran
          have mine := takes.orderly.member takes.duty takes.describes (name, current) (Fields.mem_of_get? held)
          obtain ⟨duties', members', progress, takes'⟩ := takes.choice name mine here
            (nodup_insert name takes.distinct) fun other listed => mem_of_mem_insert listed
          have schematic' := fun other listed => progress.schematic takes.orderly (others other listed)
          exact (ih takes' schematic' ran).after progress
      | none =>
          rw [held] at ran
          have missing : name ∉ names := fun listed =>
            (Fields.get?_eq_none_iff members name).mp held (takes.declared name listed)
          have distinct : (if name ∈ otherNames then names ++ [name] else names).Nodup := by
            have added := nodup_insert name takes.distinct
            rw [if_neg missing] at added
            split
            · exact added
            · exact takes.distinct
          have takes' := takes.member name here distinct fun other listed => by
            split at listed
            · exact (List.mem_append.mp listed).symm.imp_left List.mem_singleton.mp
            · exact .inr listed
          exact (ih takes' others ran).after takes'.progress_member

theorem overwriteMembers_taken {otherNames before : List String} {required : List Slot} (taken : Fields String Slot) :
    ∀ {store : Store} {members : Fields String Slot} {names : List String},
      Takes store duties address place members before names → (∀ member ∈ taken, member.2.Schematic duties) →
      outcome (overwriteMembers address (otherNames.map .string) (names.map .string) (Cell.named taken)) store =
        (.ok required, later) → Taken store later duties address place before required := by
  induction taken with
  | nil =>
      intro store members names takes _ ran
      exact takes.taken ran
  | cons member rest ih =>
      obtain ⟨name, slot⟩ := member
      intro store members names takes schematic ran
      obtain ⟨here, others⟩ := List.forall_mem_cons.mp schematic
      change outcome (overwriteMembers address (otherNames.map .string) (names.map .string)
        ((.text name, slot) :: Cell.named rest)) store = (.ok required, later) at ran
      rw [outcome_overwriteMembers takes.found] at ran
      have distinct : (if name ∈ otherNames then if name ∈ names then names else names ++ [name]
          else names.erase name).Nodup := by
        split
        · exact nodup_insert name takes.distinct
        · exact takes.distinct.erase name
      have takes' := takes.member name here distinct fun other listed => by
        split at listed
        · exact mem_of_mem_insert listed
        · exact .inr (List.mem_of_mem_erase listed)
      exact (ih takes' others ran).after takes'.progress_member

/-- Taking in the members of another schema keeps the order if its rounds do. -/
theorem takeIn_progress {operation : String} {combine : List Slot → List Slot → Cell → Change (List Slot)}
    (rounds : ∀ {store later : Store} {duties : Nat → Duty} {place : Nat} {members taken : Fields String Slot}
      {names otherNames : List String} {required : List Slot}, Takes store duties address place members names names →
      (∀ member ∈ taken, member.2.Schematic duties) →
      outcome (combine (otherNames.map .string) (names.map .string) (Cell.named taken)) store = (.ok required, later) →
        Taken store later duties address place names required)
    (orderly : store.Orderly duties) (duty : duties address = .schema) (given : operand.Schematic duties)
    (ran : outcome (do
      requireSimple address operation
      let (theirs, theirRequired) ← offered operand
      let _ ← ownProperties address
      let before ← required address
      setRequired address (← combine theirRequired before (← offeredMembers theirs))) store = (.ok (), later)) :
    ∃ duties', store.Progress duties later duties' := by
  obtain ⟨root, rfl⟩ : ∃ root, operand = .builder root := by
    obtain ⟨-, -, ran⟩ := (still_requireSimple address _).bind_eq_ok.mp ran
    obtain ⟨offer, given, ran, -⟩ := outcome_bind_eq_ok.mp ran
    exact builder_of_offered ran
  have root' := given root rfl
  obtain ⟨members, names, describes⟩ := orderly.describes duty
  obtain ⟨others, otherNames, theirs⟩ := orderly.describes root'
  obtain ⟨given, taken, place, owning, required, last, offers, owns, combines, sets⟩ :=
    takeIn_ok orderly.closed describes theirs ran
  obtain ⟨duties₁, grown, schematic⟩ := offers.progress orderly root' theirs
  have duty₁ := grown.duty orderly (by simp) duty
  obtain ⟨duties₂, owned⟩ := owns.progress grown.orderly duty₁ (describes.extend offers.extends)
  have duty₂ := owned.duty grown.orderly (by simp) duty₁
  obtain ⟨distinct, declared⟩ := owned.orderly.required duty₂ owns.describes
  obtain ⟨duties₃, members', names', more, takes, rfl⟩ := rounds
    ⟨owned.orderly, duty₂, owns.describes, owns.found, distinct, declared⟩
    (fun member listed => owned.schematic grown.orderly (schematic member listed)) combines
  rw [outcome_setRequired_string] at sets
  obtain rfl : last.withNames address names' = later := congrArg Prod.snd sets
  refine ⟨duties₃, ((grown.trans owned).trans more).trans ⟨?_, by simp, fun _ _ => rfl⟩⟩
  exact takes.orderly.withNames takes.duty takes.describes takes.distinct takes.declared

theorem merge_progress (orderly : store.Orderly duties) (duty : duties address = .schema)
    (given : operand.Schematic duties) (ran : outcome (merge address operand) store = (.ok (), later)) :
    ∃ duties', store.Progress duties later duties' :=
  takeIn_progress (fun takes => mergeMembers_taken _ takes) orderly duty given ran

theorem overwrite_progress (orderly : store.Orderly duties) (duty : duties address = .schema)
    (given : operand.Schematic duties) (ran : outcome (overwrite address operand) store = (.ok (), later)) :
    ∃ duties', store.Progress duties later duties' :=
  takeIn_progress (fun takes => overwriteMembers_taken _ takes) orderly duty given ran

end SchemaAlgebra.Builder
