import SchemaAlgebra.Proofs.Builder.Calling
import SchemaAlgebra.Proofs.Builder.Combining
import SchemaAlgebra.Proofs.Builder.Upkeep

/-!
Edits keep a store lawful. A successful edit of a sound schema, with texts for names and sound schemas for
arguments, leaves a lawful store, if the names that the schema requires are different after it. Only three edits
can require a name twice: adding, renaming and merging append the name of a property that is new, and look only at
the properties.
-/

namespace SchemaAlgebra.Builder

variable {store later : Store} {charter : Charter} {address place : Nat} {members : Fields String Slot}
  {names texts : List String} {operand : Operand} {slot : Slot}

/-- An argument that is a builder has a sound schema. -/
def Sound (charter : Charter) (operand : Operand) : Prop :=
  ∀ root, operand = .builder root → charter.IsSchema root

theorem setOptionalNames_honours (lawful : store.Lawful charter) (isSchema : charter.IsSchema address)
    (listed : operand.Lists texts) (ran : outcome (setOptionalNames address operand) store = (.ok (), later)) :
    later.Honours charter charter := by
  obtain ⟨members, names, describes⟩ := lawful.describes isSchema
  obtain rfl := setOptionalNames_ok describes listed ran
  exact (lawful.withNames isSchema (describes.distinct.filter _)).honours

theorem nodup_append_new {first second : List String} (distinct : first.Nodup) (distinct' : second.Nodup)
    (new : ∀ name ∈ second, name ∉ first) : (first ++ second).Nodup :=
  List.nodup_append.mpr ⟨distinct, distinct', fun _ member _ added same => new _ added (same ▸ member)⟩

theorem setRequiredNames_honours (lawful : store.Lawful charter) (isSchema : charter.IsSchema address)
    (describes : store.Describes address members names) (distinct : names.Nodup) (listed : operand.Lists texts)
    (ran : outcome (setRequiredNames address operand) store = (.ok (), later)) : later.Honours charter charter := by
  obtain ⟨-, rfl⟩ := setRequiredNames_ok describes listed ran
  refine (lawful.withNames isSchema (nodup_append_new distinct (nodup_eraseDups _) fun name added => ?_)).honours
  rw [List.mem_eraseDups, List.mem_filter] at added
  simpa using added.2

/-- A schema may get new properties of sound schemas, and require different names. -/
theorem withPicked_honours {picked : Fields String Slot} (lawful : store.Lawful charter)
    (isSchema : charter.IsSchema address) (keys : (Fields.keys picked).Nodup)
    (each : ∀ member ∈ picked, member.2.Fits charter .schema) (distinct : names.Nodup) :
    ∃ charter', ((store.withMembers address picked).withNames address names).Honours charter charter' := by
  obtain ⟨charter', honours⟩ := lawful.withMembers isSchema keys each
  exact ⟨charter', honours.lawful.withNames (isSchema.mono honours.grows) distinct, honours.grows⟩

theorem pickNames_honours (lawful : store.Lawful charter) (isSchema : charter.IsSchema address)
    (describes : store.Describes address members names) (distinct : names.Nodup) (texts : List String) :
    ∃ charter', ((store.withMembers address (Fields.restrict members texts)).withNames address
      (names.filter (· ∈ texts))).Honours charter charter' := by
  refine withPicked_honours lawful isSchema (Fields.nodup_keys_restrict members texts) (fun member listed => ?_)
    (distinct.filter _)
  exact lawful.member isSchema describes (member.1, member.2) (Fields.mem_of_get? (Fields.mem_restrict.mp listed).2)

theorem pickListed_honours (lawful : store.Lawful charter) (isSchema : charter.IsSchema address)
    (describes : store.Describes address members names) (distinct : names.Nodup) (listed : operand.Lists texts)
    (ran : outcome (pickListed address operand) store = (.ok (), later)) :
    ∃ charter', later.Honours charter charter' := by
  obtain ⟨-, rfl⟩ := pickListed_ok describes listed ran
  exact pickNames_honours lawful isSchema describes distinct texts

theorem omitNames_honours (lawful : store.Lawful charter) (isSchema : charter.IsSchema address)
    (describes : store.Describes address members names) (distinct : names.Nodup) (listed : operand.Lists texts)
    (ran : outcome (omitNames address operand) store = (.ok (), later)) :
    ∃ charter', later.Honours charter charter' := by
  obtain rfl := omitNames_ok describes listed ran
  exact pickNames_honours lawful isSchema describes distinct _

/-- A renaming leaves a lawful store unless the new name is required before it is a property. -/
theorem rename_honours {isRequired : Bool} {name new : String} (lawful : store.Lawful charter)
    (isSchema : charter.IsSchema address) (describes : store.Describes address members names)
    (distinct : names.Nodup)
    (fresh : isRequired = true → name ∈ Fields.keys members → new ∉ names)
    (ran : outcome (rename address isRequired (.string name) (.string new)) store = (.ok (), later)) :
    ∃ charter', later.Honours charter charter' := by
  obtain ⟨free, ⟨-, rfl⟩ | ⟨held, rfl⟩⟩ := rename_ok describes ran
  · exact ⟨charter, lawful.honours⟩
  · refine withPicked_honours lawful isSchema (Fields.nodup_keys_relabel describes.distinct free)
      (fun member listed => ?_) ?_
    · obtain ⟨original, listed', rfl⟩ := List.mem_map.mp listed
      exact lawful.member isSchema describes original listed'
    · have kept := distinct.filter (· ≠ name)
      cases isRequired with
      | false => simpa using kept
      | true =>
          refine nodup_append_new kept (List.nodup_singleton new) fun other added member => ?_
          obtain rfl := List.mem_singleton.mp added
          exact fresh rfl ((Fields.has_iff_mem_keys _ _).mp held) (List.mem_of_mem_filter member)

theorem rename_repeats {name new : String} (describes : store.Describes address members names)
    (held : name ∈ Fields.keys members) (required : new ∈ names)
    (ran : outcome (rename address true (.string name) (.string new)) store = (.ok (), later)) :
    ∃ members' names', later.Describes address members' names' ∧ ¬ names'.Nodup ∧ names' ⊆ names := by
  obtain ⟨free, ⟨missing, -⟩ | ⟨-, rfl⟩⟩ := rename_ok describes ran
  · rw [Fields.has_eq_decide, decide_eq_false_iff_not] at missing
    exact absurd held missing
  · have other : new ≠ name := by
      rintro rfl
      rw [Fields.has_eq_decide, decide_eq_false_iff_not] at free
      exact free held
    refine ⟨_, _, (describes.withMembers (Fields.nodup_keys_relabel describes.distinct free)).withNames _,
      fun distinct => ?_,
      fun listed member => ?_⟩
    · have apart := (List.nodup_append.mp distinct).2.2 new (List.mem_filter.mpr ⟨required, by simpa using other⟩)
      exact apart new List.mem_cons_self rfl
    · rcases List.mem_append.mp member with member | added
      · exact List.mem_of_mem_filter member
      · obtain rfl := List.mem_singleton.mp added
        exact required

/-- Properties that are new are those of a sound schema. -/
theorem Owns.honours {owning : Store} (owns : Owns store owning address place members names)
    (lawful : store.Lawful charter) (isSchema : charter.IsSchema address) :
    ∃ charter', owning.Honours charter charter' := by
  rcases owns.made with rfl | ⟨-, rfl⟩
  · exact ⟨charter, lawful.honours⟩
  · exact lawful.withMembers isSchema List.nodup_nil fun _ listed => absurd listed List.not_mem_nil

/-- What a schema declares and requires once a property is added to it. -/
theorem addProperty_describes {isRequired : Bool} {name : String}
    (describes : store.Describes address members names)
    (ran : outcome (addProperty address isRequired (.string name) operand) store = (.ok (), later)) :
    name ∉ Fields.keys members ∧ ∃ slot,
      later.Describes address (Fields.put members name slot) (if isRequired then names ++ [name] else names) := by
  obtain ⟨free, root, place, owning, rfl, owns, rfl⟩ := addProperty_ok describes ran
  rw [Fields.has_eq_decide, decide_eq_false_iff_not] at free
  have shown := owns.describes.withMember owns.found name (.node root)
  refine ⟨free, .node root, ?_⟩
  cases isRequired with
  | false => exact shown
  | true => exact shown.withNames _

/-- Adding a property leaves a lawful store unless its name is required before it is a property. -/
theorem addProperty_honours {isRequired : Bool} {name : String} (lawful : store.Lawful charter)
    (isSchema : charter.IsSchema address) (given : Sound charter operand)
    (describes : store.Describes address members names) (distinct : names.Nodup)
    (fresh : isRequired = true → name ∉ names)
    (ran : outcome (addProperty address isRequired (.string name) operand) store = (.ok (), later)) :
    ∃ charter', later.Honours charter charter' := by
  obtain ⟨-, root, place, owning, rfl, owns, rfl⟩ := addProperty_ok describes ran
  obtain ⟨charter', owned⟩ := owns.honours lawful isSchema
  have isSchema' := isSchema.mono owned.grows
  obtain ⟨sound, stands⟩ := owned.lawful.place isSchema' owns.found
  have inserted := owned.lawful.withMember sound stands name (.node rfl ((given root rfl).mono owned.grows))
  refine ⟨charter', ?_, owned.grows⟩
  cases isRequired with
  | false => exact inserted
  | true =>
      refine inserted.withNames isSchema' (nodup_append_new distinct
        (List.nodup_singleton name) fun other added => ?_)
      obtain rfl := List.mem_singleton.mp added
      exact fresh rfl

theorem addAdditional_honours (lawful : store.Lawful charter) (isSchema : charter.IsSchema address)
    (given : Sound charter operand) (ran : outcome (addAdditional address operand) store = (.ok (), later)) :
    later.Honours charter charter := by
  obtain ⟨slot, kind, rfl⟩ := addAdditional_ok ran
  refine (lawful.put isSchema (Slot.ready_additional ?_)).honours
  rcases kind with rfl | ⟨root, rfl, rfl⟩
  · exact .bool true rfl
  · exact .node rfl (given root rfl)

theorem addLike_honours {prior : Option Slot} (texts : List String) :
    ∀ {store : Store} {charter : Charter} {members : Fields String Slot} {names : List String},
    store.Lawful charter →
      charter.IsSchema address → store.Describes address members names → names.Nodup →
      (∀ name ∈ names, name ∈ Fields.keys members) → (∀ slot ∈ prior, slot.Fits charter .schema) →
      outcome (addLike address prior (texts.map .string)) store = (.ok (), later) →
        ∃ charter', later.Honours charter charter' := by
  induction texts with
  | nil =>
      rintro store charter members names lawful - - - - - ran
      obtain rfl : store = later := congrArg Prod.snd ran
      exact ⟨charter, lawful.honours⟩
  | cons name rest ih =>
      intro store charter members names lawful isSchema describes distinct declared fits ran
      obtain ⟨node, given, added, made, adds, ran⟩ := addLike_ok ran
      obtain ⟨charter', grown, extends', node'⟩ : ∃ charter', given.Honours charter charter' ∧ store.Extends given ∧
          charter'.IsSchema node := by
        rcases made with ⟨inner, rfl, copied⟩ | ⟨-, rfl, rfl⟩
        · obtain ⟨charter', grown, copy⟩ := lawful.copied (fits _ rfl)
          have extends' := store.copy_extends (.node inner)
          rw [copied] at grown copy extends'
          cases copy with
          | node _ isSchema => exact ⟨charter', grown, extends', isSchema⟩
        · obtain ⟨charter', grown, isSchema⟩ := lawful.pushEmpty
          exact ⟨charter', grown, .push store [], isSchema⟩
      have describes' := describes.extend extends'
      obtain ⟨free, slot, shown⟩ := addProperty_describes describes' adds
      have fresh : name ∉ names := fun listed => free (declared name listed)
      obtain ⟨charter'', more⟩ := addProperty_honours grown.lawful (isSchema.mono grown.grows)
        (by rintro _ ⟨⟩; exact node') describes' distinct (fun _ => fresh) adds
      have both := grown.trans more
      obtain ⟨last, others⟩ := ih both.lawful (isSchema.mono both.grows) shown
        (nodup_append_new distinct (List.nodup_singleton name) (by simpa using fresh))
        (fun other listed => Fields.mem_keys_put
          ((List.mem_append.mp listed).symm.imp List.mem_singleton.mp (declared other)))
        (fun slot member => (fits slot member).mono both.grows) ran
      exact ⟨last, both.trans others⟩

theorem pickAdditional_honours {additional : Operand} (lawful : store.Lawful charter)
    (isSchema : charter.IsSchema address) (describes : store.Describes address members names)
    (distinct : names.Nodup)
    (listed : operand.Lists texts) (more : additional.isNull = true ∨ ∃ extra, additional.Lists extra)
    (ran : outcome (pickAdditional address operand additional) store = (.ok (), later)) :
    ∃ charter', later.Honours charter charter' := by
  have prior : ∀ slot ∈ Fields.get? (store.cell address) "additionalProperties", slot.Fits charter .schema := by
    intro slot found
    have walked : ("additionalProperties", Walk.Role.objectOnly) ∈ Walk.keywords := by decide
    cases lawful.fits isSchema walked found with
    | node _ inner => exact .node rfl inner
    | bool b _ => exact .bool b rfl
    | list isList _ _ => simp [Walk.Role.isList] at isList
  obtain ⟨kept, picked, named, picks, rest⟩ := pickAdditional_ok ran
  obtain rfl : texts.map .string = kept := Option.some.inj (listed.symm.trans named)
  obtain ⟨present, rfl⟩ := pick_ok describes picks
  obtain ⟨charter', progress⟩ := pickNames_honours lawful isSchema describes distinct texts
  have isSchema' := isSchema.mono progress.grows
  have sets {slot : Slot} (fits : slot.Fits charter' .schema) := progress.trans
    (progress.lawful.put isSchema' (Slot.ready_additional fits)).honours
  rcases rest with ⟨-, rfl⟩ | ⟨-, -, slot, rfl | found, rfl⟩ | ⟨notNull, extra, listed', -, adds⟩
  · exact ⟨charter', sets (.bool false rfl)⟩
  · exact ⟨charter', sets (.bool true rfl)⟩
  · exact ⟨charter', sets ((prior slot found).mono progress.grows)⟩
  · obtain ⟨names', listed''⟩ := more.resolve_left (by simp [notNull])
    obtain rfl : names'.map .string = extra := Option.some.inj (listed''.symm.trans listed')
    have shown := (describes.withMembers (Fields.nodup_keys_restrict members texts)).withNames
      (names.filter (· ∈ texts))
    have declared : ∀ name ∈ names.filter (· ∈ texts), name ∈ Fields.keys (Fields.restrict members texts) := by
      intro name kept
      have chosen : name ∈ texts := by simpa using (List.mem_filter.mp kept).2
      rw [Fields.keys_restrict, List.mem_filter, List.mem_eraseDups]
      exact ⟨chosen, present name chosen⟩
    obtain ⟨last, others⟩ := addLike_honours names' progress.lawful isSchema' shown (distinct.filter _) declared
      (fun slot member => (prior slot member).mono progress.grows) adds
    exact ⟨last, progress.trans others⟩

/-- A choice between two sound schemas may be put under a name of a schema. -/
theorem choice_honours {first second : Slot} (name : String) (lawful : store.Lawful charter)
    (isSchema : charter.IsSchema address) (describes : store.Describes address members names)
    (found : Fields.get? (store.cell address) "properties" = some (.node place)) (fits : first.Fits charter .schema)
    (fits' : second.Fits charter .schema) :
    ∃ charter', ((store.push (choice first second)).withMember place name (.node store.size)).Honours charter
      charter' ∧
      ((store.push (choice first second)).withMember place name (.node store.size)).Describes address
        (Fields.put members name (.node store.size)) names := by
  obtain ⟨charter', pushed, fresh⟩ := lawful.pushSchema (by simp [choice, Fields.keys])
    (Cell.ready_choice fits fits')
  have own := (Store.Extends.push store (choice first second)).cells address describes.inside
  have found' := own ▸ found
  obtain ⟨sound, stands⟩ := pushed.lawful.place (isSchema.mono pushed.grows) found'
  exact ⟨charter', ⟨pushed.lawful.withMember sound stands name (.node rfl fresh), pushed.grows⟩,
    (describes.extend (.push store _)).withMember found' name _⟩

theorem offer_honours {alternative : Nat} (texts : List String) :
    ∀ {store : Store} {charter : Charter} {members : Fields String Slot}, store.Lawful charter →
      charter.IsSchema address → charter.IsSchema alternative → store.Describes address members names →
      (∀ name ∈ texts, Fields.has members name = true) →
      outcome (offer address alternative (texts.map .string)) store = (.ok (), later) →
        ∃ charter', later.Honours charter charter' := by
  induction texts with
  | nil =>
      intro store charter members lawful _ _ _ _ ran
      obtain rfl : store = later := congrArg Prod.snd ran
      exact ⟨charter, lawful.honours⟩
  | cons name rest ih =>
      intro store charter members lawful isSchema offered describes present ran
      obtain ⟨here, present⟩ := List.forall_mem_cons.mp present
      obtain ⟨current, held⟩ := Option.isSome_iff_exists.mp here
      obtain ⟨place, found⟩ := describes.place here
      have fits := lawful.member isSchema describes (name, current) (Fields.mem_of_get? held)
      rw [List.map_cons, outcome_offer describes found held] at ran
      obtain ⟨charter', grown, copy⟩ := lawful.copied offered.fits
      have extends' := store.copy_extends (.node alternative)
      have own := extends'.cells address describes.inside
      obtain ⟨charter'', more, describes'⟩ := choice_honours name grown.lawful (isSchema.mono grown.grows)
        (describes.extend extends') (own ▸ found) (fits.mono grown.grows) copy
      have both := grown.trans more
      obtain ⟨last, others⟩ := ih both.lawful (isSchema.mono both.grows) (offered.mono both.grows) describes'
        (fun other listed => held_put (present other listed)) ran
      exact ⟨last, both.trans others⟩

theorem offerArrays_honours (texts : List String) :
    ∀ {store : Store} {charter : Charter} {members : Fields String Slot}, store.Lawful charter →
      charter.IsSchema address → store.Describes address members names →
      (∀ name ∈ texts, Fields.has members name = true) →
      outcome (offerArrays address (texts.map .string)) store = (.ok (), later) →
        ∃ charter', later.Honours charter charter' := by
  induction texts with
  | nil =>
      intro store charter members lawful _ _ _ ran
      obtain rfl : store = later := congrArg Prod.snd ran
      exact ⟨charter, lawful.honours⟩
  | cons name rest ih =>
      intro store charter members lawful isSchema describes present ran
      obtain ⟨here, present⟩ := List.forall_mem_cons.mp present
      obtain ⟨current, held⟩ := Option.isSome_iff_exists.mp here
      obtain ⟨place, found⟩ := describes.place here
      have fits := lawful.member isSchema describes (name, current) (Fields.mem_of_get? held)
      rw [List.map_cons, outcome_offerArrays describes found held] at ran
      obtain ⟨charter', grown, copy⟩ := lawful.copied fits
      obtain ⟨charter'', listed, list⟩ := grown.lawful.pushSchema (by simp [listOf, Fields.keys])
        (Cell.ready_listOf copy)
      have before := grown.trans listed
      have extends' := (store.copy_extends current).trans (.push _ (listOf (store.copy current).1))
      have own := extends'.cells address describes.inside
      obtain ⟨charter₃, more, describes'⟩ := choice_honours name before.lawful (isSchema.mono before.grows)
        (describes.extend extends') (own ▸ found) (fits.mono before.grows) (.node rfl list)
      rw [Store.size_push] at more describes'
      have all := before.trans more
      obtain ⟨last, others⟩ := ih all.lawful (isSchema.mono all.grows) describes'
        (fun other listed => held_put (present other listed)) ran
      exact ⟨last, all.trans others⟩

theorem transform_honours {schema : Operand} (lawful : store.Lawful charter) (isSchema : charter.IsSchema address)
    (given : Sound charter schema) (listed : operand.Lists texts)
    (ran : outcome (transform address schema operand) store = (.ok (), later)) :
    ∃ charter', later.Honours charter charter' := by
  obtain ⟨members, names, describes⟩ := lawful.describes isSchema
  obtain ⟨present, alternative, rfl, offers⟩ := transform_ok describes listed ran
  exact offer_honours texts lawful isSchema (given alternative rfl) describes present offers

theorem transformToArray_honours (lawful : store.Lawful charter) (isSchema : charter.IsSchema address)
    (listed : operand.isNull = true ∨ ∃ texts, operand.Lists texts)
    (ran : outcome (transformToArray address operand) store = (.ok (), later)) :
    ∃ charter', later.Honours charter charter' := by
  obtain ⟨members, names, describes⟩ := lawful.describes isSchema
  obtain ⟨texts, listed⟩ : ∃ texts, operand.isNull = true ∧ texts = Fields.keys members ∨ operand.Lists texts := by
    rcases listed with null | ⟨texts, listed⟩
    · exact ⟨_, .inl ⟨null, rfl⟩⟩
    · exact ⟨texts, .inr listed⟩
  obtain ⟨present, ran⟩ := transformToArray_ok describes listed ran
  exact offerArrays_honours texts lawful isSchema describes present ran

theorem dropEach_honours (nodes : List Nat) : ∀ {store : Store}, store.Lawful charter →
    (∀ node ∈ nodes, charter.IsSchema node) →
      ∃ last, outcome (nodes.forM fun node => Change.drop node "required") store = (.ok ⟨⟩, last) ∧
      last.Lawful charter := by
  induction nodes with
  | nil => exact fun lawful _ => ⟨_, rfl, lawful⟩
  | cons node rest ih =>
      intro store lawful schemas
      obtain ⟨here, others⟩ := List.forall_mem_cons.mp schemas
      obtain ⟨last, ran, lawful'⟩ := ih (lawful.erase here "required") others
      exact ⟨last, (outcome_bind_ok (Change.outcome_drop node "required" store)).trans ran, lawful'⟩

theorem deepOptionals_honours (lawful : store.Lawful charter) (isSchema : charter.IsSchema address)
    (ran : outcome (deepOptionals address) store = (.ok (), later)) : later.Honours charter charter := by
  have schemas : ∀ node ∈ (store.trail (.node address)).seen, charter.IsSchema node := fun node seen =>
    lawful.visits (.node rfl isSchema) (Store.visits_of_mem_trail seen)
  obtain ⟨last, dropped, lawful'⟩ := dropEach_honours _ lawful schemas
  rw [deepOptionals, outcome_bind_ok (outcome_get store)] at ran
  dsimp only at ran
  rw [outcome_bind_ok dropped] at ran
  split at ran
  · obtain rfl : last = later := congrArg Prod.snd ran
    exact lawful'.honours
  · simp at ran

end SchemaAlgebra.Builder
