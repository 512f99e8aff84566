import SchemaAlgebra.Proofs.Builder.Runs

/-!
Edits that go on from name to name. Each is taken apart into what it does first and a round for each name or
member; a round is known exactly on a schema of which the members are known.
-/

namespace SchemaAlgebra.Builder

variable {store later : Store} {address place : Nat} {members : Fields String Slot} {names texts : List String}
  {operand : Operand}

/-- A schema beside another, as a choice between the two. -/
def choice (first second : Slot) : Cell :=
  [("oneOf", .array [first, second])]

/-- A schema of lists. -/
def listOf (items : Slot) : Cell :=
  [("type", .string "array"), ("items", items)]

theorem addAdditional_ok (ran : outcome (addAdditional address operand) store = (.ok (), later)) :
    ∃ slot, (slot = .bool true ∨ ∃ root, operand = .builder root ∧ slot = .node root) ∧
      later = store.replace address (Fields.put (store.cell address) "additionalProperties" slot) := by
  rw [addAdditional, outcome_bind_ok (outcome_shape address store)] at ran
  dsimp only at ran
  split at ran
  · simp [outcome_bind] at ran
  · rw [outcome_bind_ok (Change.outcome_cell address store)] at ran
    split at ran
    · obtain ⟨owner, -, ran⟩ := (Change.looks_owner address).same.bind_eq_ok.mp ran
      simp at ran
    · obtain ⟨owner, -, ran⟩ := (Change.looks_owner address).same.bind_eq_ok.mp ran
      simp at ran
    · split at ran
      · exact ⟨_, .inl rfl, (congrArg Prod.snd ran).symm⟩
      · obtain ⟨root, node, ran⟩ := (Change.still_nodeOf _ operand).bind_eq_ok.mp ran
        exact ⟨_, .inr ⟨root, nodeOf_ok node, rfl⟩, (congrArg Prod.snd ran).symm⟩

/-- What is adopted is what was offered. -/
theorem adopt_ok {node root : Nat} (ran : outcome (adopt node) store = (.ok root, later)) :
    root = node ∧ later = store := by
  have same := still_adopt node store
  rw [ran] at same
  refine ⟨?_, same⟩
  rw [outcome_adopt] at ran
  split at ran
  · simp at ran
  · split at ran
    · simp at ran
    · exact (Except.ok.inj (congrArg Prod.fst ran)).symm

/-- Adding a name like others: a copy of what undeclared properties have, or an empty object, becomes its
schema. -/
theorem addLike_ok {prior : Option Slot} {name : Json} {rest : List Json}
    (ran : outcome (addLike address prior (name :: rest)) store = (.ok (), later)) :
    ∃ node given added, ((∃ inner, prior = some (.node inner) ∧ store.copy (.node inner) = (.node node, given)) ∨
        (∀ inner, prior ≠ some (.node inner)) ∧ node = store.size ∧ given = store.push []) ∧
      outcome (addProperty address true name (.builder node)) given = (.ok (), added) ∧
      outcome (addLike address prior rest) added = (.ok (), later) := by
  have adopted {node : Nat} {given : Store} (round : outcome (adoptLike address prior name rest node) given = (.ok (), later)) :
      ∃ added, outcome (addProperty address true name (.builder node)) given = (.ok (), added) ∧
        outcome (addLike address prior rest) added = (.ok (), later) := by
    obtain ⟨root, adopts, adding⟩ := (still_adopt node).bind_eq_ok.mp round
    rw [(adopt_ok adopts).1] at adding
    obtain ⟨⟨⟩, added, adds, others⟩ := outcome_bind_eq_ok.mp adding
    exact ⟨added, adds, others⟩
  rw [addLike.eq_def] at ran
  dsimp only at ran
  split at ran
  · next inner =>
      rw [outcome_bind_ok (outcome_copied _ _)] at ran
      split at ran
      · next root copy =>
          rw [outcome_bind_ok (outcome_pure _ _)] at ran
          obtain ⟨added, adds, ran⟩ := adopted ran
          exact ⟨root, _, added, .inl ⟨inner, rfl, Prod.ext copy rfl⟩, adds, ran⟩
      · simp at ran
  · next other =>
      rw [outcome_bind_ok (Change.outcome_push [] store)] at ran
      obtain ⟨added, adds, ran⟩ := adopted ran
      exact ⟨store.size, _, added, .inr ⟨fun inner same => other inner same, rfl, rfl⟩, adds, ran⟩

/-- Picking with additional properties picks first; then undeclared properties are no longer allowed, are allowed
as before, or give their schema to some more names. -/
theorem pickAdditional_ok {additional : Operand}
    (ran : outcome (pickAdditional address operand additional) store = (.ok (), later)) :
    ∃ kept picked, operand.names? = some kept ∧ outcome (pick address kept) store = (.ok (), picked) ∧
      ((additional.isNull = true ∧
          later = picked.replace address (Fields.put (picked.cell address) "additionalProperties" (.bool false))) ∨
        (additional.isNull = false ∧ additional.names? = some [] ∧ ∃ slot,
          (slot = .bool true ∨ Fields.get? (store.cell address) "additionalProperties" = some slot) ∧
          later = picked.replace address (Fields.put (picked.cell address) "additionalProperties" slot)) ∨
        additional.isNull = false ∧ ∃ extra, additional.names? = some extra ∧ extra ≠ [] ∧
          outcome (addLike address (Fields.get? (store.cell address) "additionalProperties") extra) picked =
            (.ok (), later)) := by
  have listed {operand : Operand} {found : List Json} (ran : outcome (Change.names operand) store = (.ok found, store)) :
      operand.names? = some found := by
    rw [Change.names] at ran
    cases named : operand.names? with
    | none => simp [named] at ran
    | some others =>
        rw [named] at ran
        exact congrArg some (Except.ok.inj (congrArg Prod.fst ran))
  rw [pickAdditional, outcome_bind_ok (outcome_shape address store)] at ran
  dsimp only at ran
  split at ran
  · simp [outcome_bind] at ran
  · obtain ⟨kept, named, ran⟩ := (Change.looks_names operand).same.bind_eq_ok.mp ran
    cases null : additional.isNull with
    | true =>
        simp only [null, if_true] at ran
        rw [outcome_bind_ok (outcome_pure [] store)] at ran
        obtain ⟨⟨⟩, -, ran⟩ := (still_requireDistinct kept []).bind_eq_ok.mp ran
        rw [outcome_bind_ok (Change.outcome_cell address store)] at ran
        obtain ⟨⟨⟩, picked, picks, ran⟩ := outcome_bind_eq_ok.mp ran
        exact ⟨kept, picked, listed named, picks, .inl ⟨rfl, (congrArg Prod.snd ran).symm⟩⟩
    | false =>
        simp only [null, Bool.false_eq_true, if_false] at ran
        obtain ⟨extra, more, ran⟩ := (Change.looks_names additional).same.bind_eq_ok.mp ran
        obtain ⟨⟨⟩, -, ran⟩ := (still_requireDistinct kept extra).bind_eq_ok.mp ran
        rw [outcome_bind_ok (Change.outcome_cell address store)] at ran
        obtain ⟨⟨⟩, picked, picks, ran⟩ := outcome_bind_eq_ok.mp ran
        refine ⟨kept, picked, listed named, picks, .inr ?_⟩
        cases extra with
        | nil =>
            refine .inl ⟨rfl, listed more, ?_⟩
            simp only [List.isEmpty_nil, if_true] at ran
            split at ran
            · exact ⟨_, .inl rfl, (congrArg Prod.snd ran).symm⟩
            · exact ⟨_, .inl rfl, (congrArg Prod.snd ran).symm⟩
            · next slot _ found => exact ⟨slot, .inr found, (congrArg Prod.snd ran).symm⟩
        | cons name rest => exact .inr ⟨rfl, name :: rest, listed more, by simp, by simpa using ran⟩

/-- A property that an object of properties holds is looked up in it. -/
theorem outcome_properties_node (found : Fields.get? (store.cell address) "properties" = some (.node place)) {key : Key}
    (held : Fields.has (store.cell place) key = true) :
    outcome (properties address) store = (.ok (some (.node place)), store) := by
  have truthy : store.isTruthy (.node place) = true := by
    cases empty : store.cell place with
    | nil => simp [empty, Fields.has] at held
    | cons _ _ => simp [Store.isTruthy, empty]
  rw [outcome_properties, found, Option.filter_some, if_pos truthy]

/-- One round of transforming: a name's schema becomes a choice between itself and a copy of the alternative. -/
theorem outcome_offer_node {alternative : Nat} {name : String} {current : Slot} (inside : address < store.size)
    (found : Fields.get? (store.cell address) "properties" = some (.node place))
    (held : Fields.get? (store.cell place) (.text name) = some current) (rest : List Json) :
    outcome (offer address alternative (.string name :: rest)) store =
      outcome (offer address alternative rest)
        (((store.copy (.node alternative)).2.push (choice current (store.copy (.node alternative)).1)).withMember place
          name (.node (store.copy (.node alternative)).2.size)) := by
  have there : Fields.has (store.cell place) (.text name) = true := by rw [Fields.has, held]; rfl
  have grown := (store.copy_extends (.node alternative)).trans (.push _ (choice current (store.copy (.node alternative)).1))
  have own := grown.cells address inside
  rw [offer, outcome_bind_ok (outcome_properties_node found there), outcome_bind_ok (outcome_member_node held),
    outcome_bind_ok (outcome_copied _ _), outcome_bind_ok (Change.outcome_push _ _)]
  exact outcome_bind_ok (outcome_assign (own ▸ found) name _)

theorem outcome_offer {alternative : Nat} {name : String} {current : Slot} (describes : store.Describes address members names)
    (found : Fields.get? (store.cell address) "properties" = some (.node place))
    (held : Fields.get? members name = some current) (rest : List Json) :
    outcome (offer address alternative (.string name :: rest)) store =
      outcome (offer address alternative rest)
        (((store.copy (.node alternative)).2.push (choice current (store.copy (.node alternative)).1)).withMember place
          name (.node (store.copy (.node alternative)).2.size)) :=
  outcome_offer_node describes.inside found (by rw [describes.cell found, Cell.get?_named, held]) rest

/-- One round of transforming to lists: a name's schema becomes a choice between itself and a list of copies. -/
theorem outcome_offerArrays {name : String} {current : Slot} (describes : store.Describes address members names)
    (found : Fields.get? (store.cell address) "properties" = some (.node place))
    (held : Fields.get? members name = some current) (rest : List Json) :
    outcome (offerArrays address (.string name :: rest)) store =
      outcome (offerArrays address rest)
        ((((store.copy current).2.push (listOf (store.copy current).1)).push
          (choice current (.node (store.copy current).2.size))).withMember place
          name (.node ((store.copy current).2.size + 1))) := by
  obtain ⟨declared, looked, declares⟩ := describes.properties
  have grown := ((store.copy_extends current).trans (.push _ (listOf (store.copy current).1))).trans
    (.push _ (choice current (.node (store.copy current).2.size)))
  have own := grown.cells address describes.inside
  rw [offerArrays, outcome_bind_ok looked, outcome_bind_ok (outcome_member declares held),
    outcome_bind_ok (outcome_copied _ _), outcome_bind_ok (Change.outcome_push _ _),
    outcome_bind_ok (Change.outcome_push _ _), Store.size_push]
  exact outcome_bind_ok (outcome_assign (own ▸ found) name _)

/-- Names that are there can be transformed, in rounds. -/
theorem outcome_transform {alternative : Nat} {declared : Option Slot}
    (simple : Shape.isSimpleObjectSchema (Cell.face (store.cell address)) = true) (listed : operand.Lists texts)
    (looked : outcome (properties address) store = (.ok declared, store))
    (held : ∀ name ∈ texts, outcome (holds declared (.string name)) store = (.ok true, store)) :
    outcome (transform address (.builder alternative) operand) store =
      outcome (offer address alternative (texts.map .string)) store := by
  rw [transform, outcome_bind_ok (outcome_requireSimple simple _), outcome_bind_ok (outcome_names listed store),
    outcome_bind_ok (outcome_requireExisting looked (List.forall_mem_map.mpr held))]
  rfl

theorem transform_ok {schema : Operand} (describes : store.Describes address members names)
    (listed : operand.Lists texts) (ran : outcome (transform address schema operand) store = (.ok (), later)) :
    (∀ name ∈ texts, Fields.has members name = true) ∧ ∃ alternative, schema = .builder alternative ∧
      outcome (offer address alternative (texts.map .string)) store = (.ok (), later) := by
  obtain ⟨-, -, ran⟩ := (still_requireSimple address _).bind_eq_ok.mp ran
  rw [outcome_bind_ok (outcome_names listed store)] at ran
  obtain ⟨⟨⟩, existing, ran⟩ := (still_requireExisting address _ _).bind_eq_ok.mp ran
  obtain ⟨root, node, ran⟩ := (Change.still_nodeOf _ schema).bind_eq_ok.mp ran
  exact ⟨present_of_requireExisting describes existing, root, nodeOf_ok node, ran⟩

theorem outcome_values (texts : List String) (store : Store) :
    outcome (values (texts.map .string)) store = (.ok (texts.map .string), store) := by
  rw [values, outcome_bind_ok (outcome_get store), List.mapM_map]
  exact outcome_mapM fun text _ => rfl

/-- Transforming to lists names what it is told to name, or all that is there, looks whether this is there, and offers
lists. -/
theorem outcome_transformToArray (describes : store.Describes address members names)
    (simple : Shape.isSimpleObjectSchema (Cell.face (store.cell address)) = true)
    (listed : operand.isNull = true ∧ texts = Fields.keys members ∨ operand.Lists texts) :
    outcome (transformToArray address operand) store = outcome (offerExisting address (texts.map .string)) store := by
  obtain ⟨declared, looked, declares⟩ := describes.properties
  rw [transformToArray, outcome_bind_ok (outcome_requireSimple simple _)]
  dsimp only
  split
  · next null =>
      obtain ⟨-, rfl⟩ := listed.resolve_right fun listed => listed.not_isNull null
      rw [outcome_bind_ok looked, outcome_bind_ok (outcome_items declares), outcome_bind_ok (outcome_values _ store)]
      rfl
  · next notNull =>
      have listed := listed.resolve_left fun both => notNull both.1
      rw [outcome_bind_ok (outcome_names listed store)]
      rfl

/-- Properties that are there can be transformed to lists. -/
theorem outcome_transformToArray_of_present (describes : store.Describes address members names)
    (simple : Shape.isSimpleObjectSchema (Cell.face (store.cell address)) = true)
    (listed : operand.isNull = true ∧ texts = Fields.keys members ∨ operand.Lists texts)
    (present : ∀ name ∈ texts, Fields.has members name = true) :
    outcome (transformToArray address operand) store = outcome (offerArrays address (texts.map .string)) store := by
  obtain ⟨declared, looked, declares⟩ := describes.properties
  rw [outcome_transformToArray describes simple listed, offerExisting]
  refine outcome_bind_ok (outcome_requireExisting looked (List.forall_mem_map.mpr fun name among => ?_))
  rw [outcome_holds declares, present name among]

theorem transformToArray_ok (describes : store.Describes address members names)
    (listed : operand.isNull = true ∧ texts = Fields.keys members ∨ operand.Lists texts)
    (ran : outcome (transformToArray address operand) store = (.ok (), later)) :
    (∀ name ∈ texts, Fields.has members name = true) ∧
      outcome (offerArrays address (texts.map .string)) store = (.ok (), later) := by
  have runs := ran
  obtain ⟨⟨⟩, asked, -⟩ := (still_requireSimple address _).bind_eq_ok.mp ran
  rw [outcome_transformToArray describes (simple_of_requireSimple asked) listed] at runs
  obtain ⟨⟨⟩, existing, ran⟩ := (still_requireExisting address _ _).bind_eq_ok.mp runs
  exact ⟨present_of_requireExisting describes existing, ran⟩

/-- What another builder offers: a copy of its properties, if it has any, and the names that it requires. -/
theorem outcome_offered {root : Nat} (describes : store.Describes root members names) :
    (members = [] ∧ outcome (offered (.builder root)) store = (.ok (none, names.map .string), store)) ∨
      ∃ place, Fields.get? (store.cell root) "properties" = some (.node place) ∧
        outcome (offered (.builder root)) store =
          (.ok (some (store.copy (.node place)).1, names.map .string), (store.copy (.node place)).2) := by
  have declares := describes.declares
  rw [offered, Change.nodeOf, outcome_bind_ok (outcome_pure root store), outcome_bind_ok (outcome_properties root store)]
  have missing (declares : store.Declares members none) : members = [] ∧
      outcome (do let names ← required root; pure ((none : Option Slot), names)) store =
        (.ok (none, names.map .string), store) := by
    cases declares with
    | absent empty =>
        rw [outcome_bind_ok (outcome_required describes)]
        exact ⟨empty, rfl⟩
  cases found : Fields.get? (store.cell root) "properties" with
  | none =>
      rw [found] at declares
      exact .inl (missing declares)
  | some slot =>
      rw [found] at declares
      have filtered := declares.filter
      cases truthy : store.isTruthy slot with
      | false =>
          rw [Option.filter_some, truthy, if_neg Bool.false_ne_true] at filtered ⊢
          exact .inl (missing filtered)
      | true =>
          rw [Option.filter_some, truthy, if_pos rfl]
          cases declares with
          | @node place cell =>
              refine .inr ⟨place, rfl, ?_⟩
              have grown := store.copy_extends (.node place)
              have copied : outcome (some <$> copied (.node place)) store =
                  (.ok (some (store.copy (.node place)).1), (store.copy (.node place)).2) := rfl
              dsimp only
              rw [outcome_bind_ok copied, outcome_bind_ok (outcome_required (describes.extend grown))]
              rfl

/-- What is taken in from another schema: copies of its members, in a store that has them. -/
inductive Offers (store : Store) (root : Nat) (others : Fields String Slot) : Store → Fields String Slot → Prop
  | nothing : others = [] → Offers store root others store []
  | copies {place : Nat} : Fields.get? (store.cell root) "properties" = some (.node place) →
      Offers store root others (store.copy (.node place)).2
        (others.map fun member => (member.1, member.2.relocate (store.copyPlace (store.reach (.node place)))))

theorem Offers.extends {root : Nat} {others taken : Fields String Slot} {given : Store}
    (offers : Offers store root others given taken) : store.Extends given := by
  cases offers with
  | nothing empty => exact .refl store
  | copies found => exact store.copy_extends _

theorem Owns.cell_other {owning : Store} {other : Nat} (owns : Owns store owning address place members names)
    (inside : address < store.size) (apart : other ≠ address) (old : other < store.size) :
    owning.cell other = store.cell other := by
  rcases owns.made with rfl | ⟨-, rfl⟩
  · rfl
  · rw [Store.cell_withMembers inside, if_neg (Ne.symm apart), if_neg (Nat.ne_of_lt old)]

/-- What takes in the properties of another schema takes in copies of its members and then sets what is required. -/
theorem outcome_takeIn {root : Nat} {operation : String} {others : Fields String Slot} {otherNames : List String}
    {combine : List Slot → List Slot → Cell → Change (List Slot)} (closed : store.Closed)
    (describes : store.Describes address members names) (theirs : store.Describes root others otherNames)
    (simple : Shape.isSimpleObjectSchema (Cell.face (store.cell address)) = true) :
    ∃ given taken place owning, Offers store root others given taken ∧ Owns given owning address place members names ∧
      outcome (do
        requireSimple address operation
        let (theirs, theirRequired) ← offered (.builder root)
        let _ ← ownProperties address
        let before ← required address
        setRequired address (← combine theirRequired before (← offeredMembers theirs))) store =
      outcome (do
        setRequired address (← combine (otherNames.map .string) (names.map .string) (Cell.named taken))) owning := by
  have taking {given : Store} {taken : Fields String Slot} (declared : Option Slot)
      (offers : Offers store root others given taken)
      (read : ∀ {place owning}, Owns given owning address place members names →
        outcome (offeredMembers declared) owning = (.ok (Cell.named taken), owning)) :
      ∃ place owning, Owns given owning address place members names ∧
        outcome (do
          let _ ← ownProperties address
          let before ← required address
          setRequired address (← combine (otherNames.map .string) before (← offeredMembers declared))) given =
        outcome (do
          setRequired address (← combine (otherNames.map .string) (names.map .string) (Cell.named taken))) owning := by
    obtain ⟨place, owning, own, owns⟩ := outcome_ownProperties (describes.extend offers.extends)
    refine ⟨place, owning, owns, ?_⟩
    rw [outcome_bind_ok own, outcome_bind_ok (outcome_required owns.describes), outcome_bind_ok (read owns)]
  rw [outcome_bind_ok (outcome_requireSimple simple operation)]
  rcases outcome_offered theirs with ⟨empty, offer⟩ | ⟨place, found, offer⟩
  · have offers : Offers store root others store [] := .nothing empty
    obtain ⟨place, owning, owns, same⟩ := taking none offers fun _ => rfl
    rw [outcome_bind_ok offer]
    exact ⟨store, [], place, owning, offers, owns, same⟩
  · have offers : Offers store root others (store.copy (.node place)).2 _ := .copies found
    obtain ⟨place', owning, owns, same⟩ := taking (some (store.copy (.node place)).1) offers fun {place' owning} owns => by
      have within : (Slot.node place).Within store.size := Slot.within_node.mpr (theirs.apart found).2
      have member : place ∈ store.reach (.node place) := (Store.gathered_reach closed within).begins (by simp [Slot.addresses])
      have old : store.copyPlace (store.reach (.node place)) place < (store.copy (.node place)).2.size := by
        rw [Store.size_copy]
        exact Store.copyPlace_lt member
      have new : store.size ≤ store.copyPlace (store.reach (.node place)) place := Nat.le_add_right _ _
      have apart : store.copyPlace (store.reach (.node place)) place ≠ address :=
        Nat.ne_of_gt (Nat.lt_of_lt_of_le describes.inside new)
      have inside := (describes.extend (store.copy_extends (.node place))).inside
      have cell := (owns.cell_other inside apart old).trans (Store.cell_copy member)
      rw [theirs.cell found] at cell
      refine Prod.ext (congrArg Except.ok (cell.trans ?_)) rfl
      simp [Cell.relocate, Cell.named, Function.comp_def]
    rw [outcome_bind_ok offer]
    exact ⟨_, _, place', owning, offers, owns, same⟩

theorem takeIn_ok {root : Nat} {operation : String} {others : Fields String Slot} {otherNames : List String}
    {combine : List Slot → List Slot → Cell → Change (List Slot)} (closed : store.Closed)
    (describes : store.Describes address members names) (theirs : store.Describes root others otherNames)
    (ran : outcome (do
      requireSimple address operation
      let (theirs, theirRequired) ← offered (.builder root)
      let _ ← ownProperties address
      let before ← required address
      setRequired address (← combine theirRequired before (← offeredMembers theirs))) store = (.ok (), later)) :
    ∃ given taken place owning required last, Offers store root others given taken ∧
      Owns given owning address place members names ∧
      outcome (combine (otherNames.map .string) (names.map .string) (Cell.named taken)) owning = (.ok required, last) ∧
      outcome (setRequired address required) last = (.ok (), later) := by
  have runs := ran
  obtain ⟨⟨⟩, asked, -⟩ := (still_requireSimple address operation).bind_eq_ok.mp ran
  obtain ⟨given, taken, place, owning, offers, owns, same⟩ :=
    outcome_takeIn closed describes theirs (simple_of_requireSimple asked)
  rw [same] at runs
  obtain ⟨required, last, combines, sets⟩ := outcome_bind_eq_ok.mp runs
  exact ⟨given, taken, place, owning, required, last, offers, owns, combines, sets⟩

/-- Only a builder offers properties. -/
theorem builder_of_offered {given : Option Slot × List Slot} (ran : outcome (offered operand) store = (.ok given, later)) :
    ∃ root, operand = .builder root := by
  obtain ⟨root, node, -⟩ := (Change.still_nodeOf _ operand).bind_eq_ok.mp ran
  exact ⟨root, nodeOf_ok node⟩

/-- One round of merging: a name that both have becomes a choice and is required, a new one is as it was where it
came from. -/
theorem outcome_mergeMembers {name : String} {slot : Slot} {before otherNames : List String}
    (describes : store.Describes address members before)
    (found : Fields.get? (store.cell address) "properties" = some (.node place)) (rest : Cell) :
    outcome (mergeMembers address (otherNames.map .string) (names.map .string) ((.text name, slot) :: rest)) store =
      match Fields.get? members name with
      | some current =>
          outcome (mergeMembers address (otherNames.map .string)
            ((if name ∈ names then names else names ++ [name]).map .string) rest)
            ((store.push (choice current slot)).withMember place name (.node store.size))
      | none =>
          outcome (mergeMembers address (otherNames.map .string)
            ((if name ∈ otherNames then names ++ [name] else names).map .string) rest)
            (store.withMember place name slot) := by
  have declares : store.Declares members (some (.node place)) := .node (describes.cell found)
  have own : outcome (ownProperties address) store = (.ok (.node place), store) := by
    rw [ownProperties, outcome_bind_ok (Change.outcome_cell address store), found]
    rfl
  rw [mergeMembers, Key.toJson, outcome_bind_ok own, outcome_bind_ok (outcome_holds declares name), Fields.has]
  cases held : Fields.get? members name with
  | some current =>
      have grown : store.Extends (store.push (choice current slot)) := .push _ _
      have same := grown.cells address describes.inside
      simp only [Option.isSome_some, if_true]
      rw [outcome_bind_ok (outcome_member declares held), outcome_bind_ok (Change.outcome_push _ _)]
      refine (outcome_bind_ok (outcome_assign (same ▸ found) name _)).trans ?_
      rw [outcome_bind_ok (outcome_listed_string name names _), choice]
  | none =>
      simp only [Option.isSome_none, Bool.false_eq_true, if_false]
      rw [outcome_bind_ok (outcome_assign found name slot), outcome_bind_ok (outcome_lists_string _ name _)]
      by_cases member : name ∈ otherNames
      · simp [member, Key.toSlot]
      · simp [member]

/-- One round of overwriting: a name is as it was where it came from. -/
theorem outcome_overwriteMembers {name : String} {slot : Slot} {otherNames : List String}
    (found : Fields.get? (store.cell address) "properties" = some (.node place)) (rest : Cell) :
    outcome (overwriteMembers address (otherNames.map .string) (names.map .string) ((.text name, slot) :: rest)) store =
      outcome (overwriteMembers address (otherNames.map .string)
        ((if name ∈ otherNames then if name ∈ names then names else names ++ [name] else names.erase name).map .string)
        rest) (store.withMember place name slot) := by
  rw [overwriteMembers, Key.toJson, outcome_bind_ok (outcome_assign found name slot),
    outcome_bind_ok (outcome_lists_string _ name _)]
  by_cases member : name ∈ otherNames
  · simp only [member, decide_true, if_true]
    rw [outcome_bind_ok (outcome_listed_string name names _)]
  · simp only [member, decide_false, Bool.false_eq_true, if_false]
    rw [outcome_bind_ok (outcome_eraseFirst_string name names _)]

end SchemaAlgebra.Builder
