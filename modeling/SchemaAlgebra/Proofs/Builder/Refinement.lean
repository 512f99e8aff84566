import SchemaAlgebra.Proofs.Builder.Combining
import SchemaAlgebra.Proofs.Builder.Presenting

/-!
Edits as operations on lists of properties. What an edit leaves represents what it did to the list; where it goes on from
name to name, so does what it does to the list.
-/

namespace SchemaAlgebra

/-- The schema at an address is finite and has the properties. -/
def Store.Represents (store : Store) (address : Nat) (properties : List Property) : Prop :=
  ∃ members names values, store.Presents address members names values ∧ Property.flagged values names = properties

/-- The schema at an address lists names in order, each as required or not. What is under the names need have no end. -/
def Store.Enumerates (store : Store) (address : Nat) (flags : List (String × Bool)) : Prop :=
  ∃ members names, store.Describes address members names ∧
    (Fields.keys members).map (fun name => (name, decide (name ∈ names))) = flags

namespace Builder

open Property

variable {store later : Store} {address place : Nat} {members : Fields String Slot} {names texts : List String}
  {values : Fields String Json} {operand : Operand}

theorem setOptional_represents (presents : store.Presents address members names values) (given : operand.Lists texts)
    (ran : outcome (setOptionalNames address operand) store = (.ok (), later)) :
    later.Represents address
      ((flagged values names).map fun property => { property with required := decide (property.name ∉ texts) }) := by
  obtain rfl := setOptionalNames_ok presents.describes given ran
  refine ⟨_, _, _, presents.withNames _, flagged_names (fun property => decide (property.name ∉ texts)) fun entry member => ?_⟩
  have key : entry.1 ∈ Fields.keys values := List.mem_map_of_mem member
  rw [decide_eq_decide, presents.values.keys, List.mem_filter]
  simp [key]

theorem setRequired_represents (presents : store.Presents address members names values) (given : operand.Lists texts)
    (ran : outcome (setRequiredNames address operand) store = (.ok (), later)) :
    later.Represents address ((flagged values names).map fun property =>
      { property with required := property.required || decide (property.name ∈ texts) }) := by
  obtain ⟨-, rfl⟩ := setRequiredNames_ok presents.describes given ran
  refine ⟨_, _, _, presents.withNames _,
    flagged_names (fun property => property.required || decide (property.name ∈ texts)) fun entry _ => ?_⟩
  rw [← Bool.decide_or, decide_eq_decide, List.mem_append, List.mem_eraseDups, List.mem_filter]
  by_cases member : entry.1 ∈ names <;> simp [member]

theorem toOptionals_represents (presents : store.Presents address members names values) :
    (store.replace address (Fields.erase (store.cell address) "required")).Represents address
      ((flagged values names).map fun property => { property with required := false }) :=
  ⟨_, _, _, presents.withNames [], flagged_names (fun _ => false) fun _ _ => by simp⟩

theorem presents_picked (presents : store.Presents address members names values) (texts : List String) :
    ((store.withMembers address (Fields.restrict members texts)).withNames address
      (names.filter (· ∈ texts))).Presents address (Fields.restrict members texts) (names.filter (· ∈ texts))
        (Fields.restrict values texts) :=
  (presents.withMembers (Fields.nodup_keys_restrict members texts) (presents.supplies.restrict texts)).withNames _

theorem pick_represents (presents : store.Presents address members names values) (given : operand.Lists texts)
    (ran : outcome (pickListed address operand) store = (.ok (), later)) :
    later.Represents address (Property.pick (flagged values names) texts) := by
  obtain ⟨-, rfl⟩ := pickListed_ok presents.describes given ran
  exact ⟨_, _, _, presents_picked presents texts, flagged_restrict texts⟩

theorem omit_represents (presents : store.Presents address members names values) (given : operand.Lists texts)
    (ran : outcome (omitNames address operand) store = (.ok (), later)) :
    later.Represents address ((flagged values names).filter fun property => property.name ∉ texts) := by
  obtain rfl := omitNames_ok presents.describes given ran
  have distinct := presents.describes.distinct
  rw [presents.values.keys] at distinct ⊢
  exact ⟨_, _, _, presents_picked presents _, flagged_omit distinct texts⟩

theorem rename_represents {isRequired : Bool} {name new : String} (presents : store.Presents address members names values)
    (requires : Requires values names)
    (ran : outcome (rename address isRequired (.string name) (.string new)) store = (.ok (), later)) :
    later.Represents address ((flagged values names).map fun property =>
      if property.name = name then ⟨new, property.schema, isRequired⟩ else property) := by
  obtain ⟨free, ⟨missing, rfl⟩ | ⟨-, rfl⟩⟩ := rename_ok presents.describes ran
  · refine ⟨_, _, _, presents, Eq.symm ((List.map_congr_left fun property member => ?_).trans (List.map_id _))⟩
    refine if_neg ?_
    rintro rfl
    have key : property.name ∈ (flagged values names).map Property.name := List.mem_map_of_mem member
    rw [names_flagged, ← presents.values.keys, ← Fields.has_iff_mem_keys, missing] at key
    cases key
  · have renamed := presents.withMembers (Fields.nodup_keys_relabel presents.describes.distinct free)
      (presents.supplies.relabel name new)
    rw [presents.values.has, Fields.has_eq_decide, decide_eq_false_iff_not] at free
    exact ⟨_, _, _, renamed.withNames _, flagged_relabel requires free⟩

/-- A property is added, and what was supplied is. -/
theorem add_represents {isRequired : Bool} {name : String} {root : Nat} {value : Json}
    (presents : store.Presents address members names values) (requires : Requires values names)
    (supplies : store.Supplies address (.node root) value)
    (ran : outcome (addProperty address isRequired (.string name) (.builder root)) store = (.ok (), later)) :
    ∃ members' names' values', later.Presents address members' names' values' ∧ Requires values' names' ∧
      flagged values' names' = flagged values names ++ [⟨name, value, isRequired⟩] ∧
      ∀ {slot value}, store.Supplies address slot value → later.Supplies address slot value := by
  obtain ⟨free, _, place, owning, ⟨⟩, owns, rfl⟩ := addProperty_ok presents.describes ran
  obtain ⟨owned, kept⟩ := presents.owns owns
  have added := owned.withMember owns.found name (kept supplies)
  have revises := owned.revises_withMember owns.found name (kept supplies).within
  rw [presents.values.has, Fields.has_eq_decide, decide_eq_false_iff_not] at free
  have appended := flagged_append requires free value
  have notRequired : name ∉ names := fun listed => free (requires.declared name listed)
  have keys : Fields.keys (Fields.put values name value) = Fields.keys values ++ [name] := by
    rw [Fields.keys_put, Fields.has_eq_decide, decide_eq_false free, if_neg Bool.false_ne_true]
  cases isRequired with
  | false =>
      refine ⟨_, _, _, added, ⟨requires.distinct, fun other listed => ?_⟩, ?_, fun supplies =>
        (kept supplies).revise owned.closed revises⟩
      · rw [keys]
        exact List.mem_append_left _ (requires.declared other listed)
      · simpa using appended false
  | true =>
      refine ⟨_, _, _, added.withNames _, ⟨?_, fun other listed => ?_⟩, appended true, fun supplies =>
        ((kept supplies).revise owned.closed revises).revise added.closed (added.revises_withNames _)⟩
      · simpa [notRequired] using nodup_insert name requires.distinct
      · rw [keys]
        exact (List.mem_append.mp listed).elim (fun old => List.mem_append_left _ (requires.declared other old))
          fun new => List.mem_append_right _ new

theorem enumerates_of_keys (describes : store.Describes address members names)
    (keys : Fields.keys members = Fields.keys values) : store.Enumerates address ((flagged values names).map flag) := by
  refine ⟨members, names, describes, ?_⟩
  rw [keys, flags_flagged]

/-- Names and flags are as told even if what is added leads back to where it is added. -/
theorem add_enumerates {isRequired : Bool} {name : String} {root : Nat} (presents : store.Presents address members names values)
    (requires : Requires values names) (value : Json)
    (ran : outcome (addProperty address isRequired (.string name) (.builder root)) store = (.ok (), later)) :
    later.Enumerates address ((flagged values names ++ [Property.mk name value isRequired]).map flag) := by
  obtain ⟨free, _, place, owning, ⟨⟩, owns, rfl⟩ := addProperty_ok presents.describes ran
  have added := owns.describes.withMember owns.found name (.node root)
  have keys : Fields.keys (Fields.put members name (.node root)) = Fields.keys (Fields.put values name value) := by
    rw [Fields.keys_put, Fields.keys_put, presents.values.has, presents.values.keys]
  rw [presents.values.has, Fields.has_eq_decide, decide_eq_false_iff_not] at free
  rw [← flagged_append requires free value isRequired]
  cases isRequired with
  | false => simpa using enumerates_of_keys added keys
  | true => exact enumerates_of_keys (added.withNames _) keys

theorem Owns.cell_foreign {owning : Store} {other : Nat} (owns : Owns store owning address place members names)
    (inside : address < store.size) (notSelf : other ≠ address) (notPlace : other ≠ place) :
    owning.cell other = store.cell other := by
  rcases owns.made with rfl | ⟨-, rfl⟩
  · rfl
  · have found := owns.found
    rw [Store.cell_withMembers inside, if_pos rfl, Fields.get?_put_self] at found
    obtain rfl : store.size = place := by simpa using found
    rw [Store.cell_withMembers inside, if_neg (Ne.symm notSelf), if_neg notPlace]

/-- A property is added whose schema leads back to the schema that it is added to, or to its properties: there is no end
to what results. -/
theorem add_endless {isRequired : Bool} {name : String} {root : Nat}
    (presents : store.Presents address members names values)
    (entangled : ¬ store.Apart (store.Own address) (.node root))
    (ran : outcome (addProperty address isRequired (.string name) (.builder root)) store = (.ok (), later)) :
    later.tree? (.node address) = none := by
  obtain ⟨-, _, place, owning, ⟨⟩, owns, rfl⟩ := addProperty_ok presents.describes ran
  obtain ⟨apart, inside⟩ := owns.describes.apart owns.found
  set later := if isRequired then (owning.withMember place name (.node root)).withNames address (names ++ [name])
    else owning.withMember place name (.node root) with revised
  have within : address < (owning.withMember place name (.node root)).size := by
    rw [Store.size_withMember]
    exact owns.describes.inside
  have cells : ∀ other, other ≠ address → later.cell other = (owning.withMember place name (.node root)).cell other := by
    intro other different
    rw [revised]
    split
    · rw [Store.cell_withNames within, if_neg (Ne.symm different)]
    · rfl
  have found : Fields.get? (later.cell address) "properties" = some (.node place) := by
    have found : Fields.get? ((owning.withMember place name (.node root)).cell address) "properties" = some (.node place) :=
      found_withMember owns.describes owns.found
    rw [revised]
    split
    · rw [Store.cell_withNames within, if_pos rfl, get?_withRequired, if_neg (by simp), found]
    · exact found
  have entry : (Key.text name, Slot.node root) ∈ later.cell place := by
    rw [cells place apart, Store.cell_withMember inside, if_pos rfl]
    exact Fields.mem_of_get? (Fields.get?_put_self ..)
  have agrees : later.AgreesOff store (later.Own address) := by
    intro other foreign
    rw [Store.Own, not_or, found] at foreign
    have different : place ≠ other := by
      rintro rfl
      exact foreign.2 rfl
    rw [cells other foreign.1, Store.cell_withMember inside, if_neg different]
    exact (owns.cell_foreign presents.describes.inside foreign.1 (Ne.symm different)).symm
  by_contra endless
  obtain ⟨value, read⟩ := Option.ne_none_iff_exists'.mp endless
  have finite : later.Finite (.node address) := ⟨value, _, read⟩
  refine entangled (((finite.apart_own found entry).agree agrees).mono fun other own => ?_)
  rcases own with same | same
  · exact .inl same
  · exact .inr (owns.kept other same ▸ found)

/-- What is known in the rounds of taking over members: the properties that a schema has so far, and which of them are to
be required. -/
structure Gathers (store : Store) (address place : Nat) (members : Fields String Slot) (before names : List String)
    (values : Fields String Json) : Prop where
  presents : store.Presents address members before values
  found : Fields.get? (store.cell address) "properties" = some (.node place)
  requires : Requires values names

variable {before otherNames names' : List String} {slot : Slot} {value : Json} {required : List Slot}

theorem Gathers.extend (gathers : Gathers store address place members before names values) (closed : later.Closed)
    (extends' : store.Extends later) : Gathers later address place members before names values where
  presents := gathers.presents.extend closed extends'
  found := by rw [extends'.cells address gathers.presents.describes.inside, gathers.found]
  requires := gathers.requires

/-- Taking over one member. -/
theorem Gathers.take (gathers : Gathers store address place members before names values) (name : String)
    (supplies : store.Supplies address slot value) (distinct : names'.Nodup)
    (declared : ∀ other ∈ names', other = name ∨ other ∈ names) :
    Gathers (store.withMember place name slot) address place (Fields.put members name slot) before names'
      (Fields.put values name value) where
  presents := gathers.presents.withMember gathers.found name supplies
  found := found_withMember gathers.presents.describes gathers.found
  requires := ⟨distinct, fun other listed => Fields.mem_keys_put ((declared other listed).imp_right (gathers.requires.declared other))⟩

theorem Gathers.carries (gathers : Gathers store address place members before names values) (name : String)
    (supplies : store.Supplies address slot value) : store.Carries (store.withMember place name slot) address :=
  gathers.presents.carries_withMember gathers.found name supplies.within

/-- A member becomes a choice between two schemas. -/
theorem Gathers.choose {first second : Slot} {mine other : Json}
    (gathers : Gathers store address place members before names values) (name : String)
    (supplies : store.Supplies address first mine) (supplies' : store.Supplies address second other) (distinct : names'.Nodup)
    (declared : ∀ other ∈ names', other = name ∨ other ∈ names) :
    Gathers ((store.push (choice first second)).withMember place name (.node store.size)) address place
        (Fields.put members name (.node store.size)) before names' (Fields.put values name (orElse other mine)) ∧
      store.Carries ((store.push (choice first second)).withMember place name (.node store.size)) address := by
  have grown := Store.Extends.push store (choice first second)
  have related : Fields.Rel (store.Supplies address) (choice first second) [("oneOf", .array [mine, other])] :=
    .cons ⟨rfl, supplies.pair supplies'⟩ .nil
  have pushed := gathers.presents.supplies_push related
  have closed := gathers.presents.closed.push (within_choice supplies.within supplies'.within)
  have extended := gathers.extend closed grown
  exact ⟨extended.take name pushed distinct declared,
    (grown.carries gathers.presents.closed gathers.presents.describes.inside).trans (extended.carries name pushed)⟩

/-- What the rounds of taking over members end with. -/
def Gathered (later : Store) (address place : Nat) (before : List String) (required : List Slot)
    (properties : List Property) : Prop :=
  ∃ members names values, Gathers later address place members before names values ∧ required = names.map .string ∧
    flagged values names = properties

theorem Gathers.gathered (gathers : Gathers store address place members before names values)
    (ran : outcome (pure (names.map .string) : Change (List Slot)) store = (.ok required, later)) :
    Gathered later address place before required (flagged values names) := by
  obtain ⟨same, rfl⟩ := Prod.mk.inj ran
  exact ⟨_, _, _, gathers, (Except.ok.inj same).symm, rfl⟩

/-- The rounds of merging come to an end, and leave the schema otherwise as it was. -/
theorem outcome_mergeMembers_named (taken : Fields String Slot) :
    ∀ {store : Store} {members : Fields String Slot} {names : List String} {values theirs : Fields String Json},
      Gathers store address place members before names values → Fields.Rel (store.Supplies address) taken theirs →
      ∃ required later, outcome (mergeMembers address (otherNames.map .string) (names.map .string) (Cell.named taken)) store =
        (.ok required, later) ∧ store.Carries later address ∧
        Gathered later address place before required
          ((flagged theirs otherNames).foldl (take either) (flagged values names)) := by
  induction taken with
  | nil =>
      intro store members names values theirs gathers related
      obtain rfl := List.forall₂_nil_left_iff.mp related
      exact ⟨_, store, rfl, .refl, gathers.gathered rfl⟩
  | cons member rest ih =>
      obtain ⟨name, slot⟩ := member
      intro store members names values theirs gathers related
      obtain ⟨⟨_, value⟩, others, ⟨rfl, here⟩, further, rfl⟩ := List.forall₂_cons_left_iff.mp related
      have later' : Fields.Rel (store.Supplies address) rest others := further
      have distinct := gathers.presents.describes.distinct
      rw [gathers.presents.values.keys] at distinct
      change ∃ required later, outcome (mergeMembers address (otherNames.map .string) (names.map .string)
        ((.text name, slot) :: Cell.named rest)) store = (.ok required, later) ∧ store.Carries later address ∧
        Gathered later address place before required ((flagged others otherNames).foldl (take either)
          (take either (flagged values names) ⟨name, value, decide (name ∈ otherNames)⟩))
      rw [outcome_mergeMembers gathers.presents.describes gathers.found]
      rcases gathers.presents.supplies.get? name with ⟨missing, missing'⟩ | ⟨current, mine, held, held', own⟩
      · rw [missing]
        have free := (Fields.get?_eq_none_iff values name).mp missing'
        have notRequired : name ∉ names := fun listed => free (gathers.requires.declared name listed)
        have inserted := nodup_insert name gathers.requires.distinct
        rw [if_neg notRequired] at inserted
        have distinct' : (if name ∈ otherNames then names ++ [name] else names).Nodup := by
          split
          · exact inserted
          · exact gathers.requires.distinct
        have taking := gathers.take name here distinct' fun other listed => by
          split at listed
          · exact (List.mem_append.mp listed).symm.imp_left List.mem_singleton.mp
          · exact .inr listed
        have carries := gathers.carries name here
        obtain ⟨required, later, ran, carries', gathered⟩ :=
          ih taking (later'.imp fun _ _ _ supplies => carries.supplies supplies)
        have flags := flagged_new either gathers.requires free value (decide (name ∈ otherNames))
        simp only [decide_eq_true_eq] at flags
        rw [flags] at gathered
        exact ⟨required, later, ran, carries.trans carries', gathered⟩
      · rw [held]
        obtain ⟨choosing, carries⟩ := gathers.choose name own here (nodup_insert name gathers.requires.distinct)
          fun other listed => mem_of_mem_insert listed
        obtain ⟨required, later, ran, carries', gathered⟩ :=
          ih choosing (later'.imp fun _ _ _ supplies => carries.supplies supplies)
        rw [flagged_either distinct held' value (decide (name ∈ otherNames))] at gathered
        exact ⟨required, later, ran, carries.trans carries', gathered⟩

theorem mergeMembers_gathered {taken : Fields String Slot} {theirs : Fields String Json}
    (gathers : Gathers store address place members before names values)
    (related : Fields.Rel (store.Supplies address) taken theirs)
    (ran : outcome (mergeMembers address (otherNames.map .string) (names.map .string) (Cell.named taken)) store =
      (.ok required, later)) : Gathered later address place before required
        ((flagged theirs otherNames).foldl (take either) (flagged values names)) := by
  obtain ⟨required', later', ran', -, gathered⟩ := outcome_mergeMembers_named taken gathers related
  obtain ⟨same, rfl⟩ := Prod.mk.inj (ran'.symm.trans ran)
  obtain rfl := Except.ok.inj same
  exact gathered

theorem overwriteMembers_gathered (taken : Fields String Slot) :
    ∀ {store : Store} {members : Fields String Slot} {names : List String} {values theirs : Fields String Json},
      Gathers store address place members before names values → Fields.Rel (store.Supplies address) taken theirs →
      outcome (overwriteMembers address (otherNames.map .string) (names.map .string) (Cell.named taken)) store =
        (.ok required, later) →
      Gathered later address place before required
        ((flagged theirs otherNames).foldl (take fun _ other => other) (flagged values names)) := by
  induction taken with
  | nil =>
      intro store members names values theirs gathers related ran
      obtain rfl := List.forall₂_nil_left_iff.mp related
      exact gathers.gathered ran
  | cons member rest ih =>
      obtain ⟨name, slot⟩ := member
      intro store members names values theirs gathers related ran
      obtain ⟨⟨_, value⟩, others, ⟨rfl, here⟩, further, rfl⟩ := List.forall₂_cons_left_iff.mp related
      have later' : Fields.Rel (store.Supplies address) rest others := further
      have distinct := gathers.presents.describes.distinct
      rw [gathers.presents.values.keys] at distinct
      change outcome (overwriteMembers address (otherNames.map .string) (names.map .string)
        ((.text name, slot) :: Cell.named rest)) store = (.ok required, later) at ran
      change Gathered later address place before required ((flagged others otherNames).foldl (take fun _ other => other)
        (take (fun _ other => other) (flagged values names) ⟨name, value, decide (name ∈ otherNames)⟩))
      rw [outcome_overwriteMembers gathers.found] at ran
      have distinct' : (if name ∈ otherNames then if name ∈ names then names else names ++ [name]
          else names.erase name).Nodup := by
        split
        · exact nodup_insert name gathers.requires.distinct
        · exact gathers.requires.distinct.erase name
      have taking := gathers.take name here distinct' fun other listed => by
        split at listed
        · exact mem_of_mem_insert listed
        · exact .inr (List.mem_of_mem_erase listed)
      have rest' := later'.imp fun _ _ _ supplies => (gathers.carries name here).supplies supplies
      have gathered := ih taking rest' ran
      have flags := flagged_overwrite name distinct gathers.requires value (decide (name ∈ otherNames))
      simp only [decide_eq_true_eq] at flags
      rwa [flags] at gathered

/-- What another schema offers is supplied: copies of its properties. -/
theorem Offers.supplies {root : Nat} {others taken : Fields String Slot} {theirs : Fields String Json} {given : Store}
    (offers : Offers store root others given taken) (presents : store.Presents address members names values)
    (offered : store.Presents root others otherNames theirs) :
    given.Closed ∧ Fields.Rel (given.Supplies address) taken theirs := by
  cases offers with
  | nothing empty =>
      obtain rfl := List.forall₂_nil_left_iff.mp (empty ▸ offered.values)
      exact ⟨presents.closed, .nil⟩
  | @copies place found =>
      have within : (Slot.node place).Within store.size := Slot.within_node.mpr (offered.describes.apart found).2
      obtain ⟨value, denotes⟩ := offered.finite.entry (Fields.mem_of_get? found)
      obtain ⟨fields, rfl, each⟩ := Store.denotes_node.mp denotes
      rw [offered.describes.cell found] at each
      obtain rfl := Store.rel_unique offered.values each.textual
      have closed := Store.closed_copy presents.closed within
      have copied := presents.supplies_copy within denotes
      have member : place ∈ store.reach (.node place) :=
        (Store.gathered_reach presents.closed within).begins (List.mem_singleton_self place)
      have cell := Store.cell_copy member
      rw [offered.describes.cell found] at cell
      have same : (Cell.named others).relocate (store.copyPlace (store.reach (.node place))) = Cell.named
          (others.map fun member => (member.1, member.2.relocate (store.copyPlace (store.reach (.node place))))) := by
        simp [Cell.relocate, Cell.named, Function.comp_def]
      rw [same] at cell
      obtain ⟨_, ⟨⟩, each'⟩ := Store.denotes_node.mp copied.denotes
      rw [cell] at each'
      refine ⟨closed, each'.textual.imp fun member listed value denotes => ?_⟩
      have entry : (Key.text member.1, member.2) ∈
          (store.copy (.node place)).2.cell (store.copyPlace (store.reach (.node place)) place) := by
        rw [cell]
        exact List.mem_map_of_mem listed
      exact ⟨Store.closed_iff.mp closed _ _ entry, copied.apart.entry entry, denotes⟩

/-- Taking over the members of another schema does to the list what its rounds do. -/
theorem takeIn_represents {root : Nat} {operation : String} {theirs : Fields String Json} {others : Fields String Slot}
    {combine : List Slot → List Slot → Cell → Change (List Slot)} {both : Property → Property → Property}
    (rounds : ∀ {store later : Store} {place : Nat} {members taken : Fields String Slot} {values theirs : Fields String Json}
      {required : List Slot}, Gathers store address place members names names values →
      Fields.Rel (store.Supplies address) taken theirs →
      outcome (combine (otherNames.map .string) (names.map .string) (Cell.named taken)) store = (.ok required, later) →
        Gathered later address place names required ((flagged theirs otherNames).foldl (take both) (flagged values names)))
    (presents : store.Presents address members names values) (requires : Requires values names)
    (offered' : store.Presents root others otherNames theirs)
    (ran : outcome (do
      requireSimple address operation
      let (theirs, theirRequired) ← offered (.builder root)
      let _ ← ownProperties address
      let before ← Builder.required address
      setRequired address (← combine theirRequired before (← offeredMembers theirs))) store = (.ok (), later)) :
    later.Represents address ((flagged theirs otherNames).foldl (take both) (flagged values names)) := by
  obtain ⟨given, taken, place, owning, required, last, offers, owns, combines, sets⟩ :=
    takeIn_ok presents.closed presents.describes offered'.describes ran
  obtain ⟨closed, supplies⟩ := offers.supplies presents offered'
  obtain ⟨owned, kept⟩ := (presents.extend closed offers.extends).owns owns
  obtain ⟨members', names', values', gathers, rfl, flags⟩ := rounds ⟨owned, owns.found, requires⟩
    (supplies.imp fun _ _ _ supplies => kept supplies) combines
  rw [outcome_setRequired_string] at sets
  obtain rfl : last.withNames address names' = later := congrArg Prod.snd sets
  exact ⟨_, _, _, gathers.presents.withNames names', flags⟩

variable {root : Nat} {others : Fields String Slot} {theirs : Fields String Json}

theorem merge_represents (presents : store.Presents address members names values) (requires : Requires values names)
    (offered : store.Presents root others otherNames theirs)
    (ran : outcome (merge address (.builder root)) store = (.ok (), later)) :
    later.Represents address ((flagged theirs otherNames).foldl (take either) (flagged values names)) :=
  takeIn_represents mergeMembers_gathered presents requires offered ran

theorem overwrite_represents (presents : store.Presents address members names values) (requires : Requires values names)
    (offered : store.Presents root others otherNames theirs)
    (ran : outcome (overwrite address (.builder root)) store = (.ok (), later)) :
    later.Represents address ((flagged theirs otherNames).foldl (take fun _ other => other) (flagged values names)) :=
  takeIn_represents (fun gathers => overwriteMembers_gathered _ gathers) presents requires offered ran

/-- What names that are added like others get for a schema: what undeclared properties had, or an empty one. -/
def Prior (store : Store) (address : Nat) (prior : Option Slot) (value : Json) : Prop :=
  (∃ inner, prior = some (.node inner) ∧ store.Supplies address (.node inner) value) ∨
    (∀ inner, prior ≠ some (.node inner)) ∧ value = .object []

theorem addLike_represents {prior : Option Slot} {value : Json} (extra : List String) :
    ∀ {store : Store} {members : Fields String Slot} {names : List String} {values : Fields String Json},
      store.Presents address members names values → Requires values names → Prior store address prior value →
      outcome (addLike address prior (extra.map .string)) store = (.ok (), later) →
        later.Represents address (flagged values names ++ extra.map fun name => ⟨name, value, true⟩) := by
  induction extra with
  | nil =>
      intro store members names values presents _ _ ran
      obtain rfl : store = later := congrArg Prod.snd ran
      exact ⟨_, _, _, presents, (List.append_nil _).symm⟩
  | cons name rest ih =>
      intro store members names values presents requires like ran
      obtain ⟨node, given, added, copies, adds, adding⟩ := addLike_ok ran
      obtain ⟨presents', like', supplies⟩ : given.Presents address members names values ∧ Prior given address prior value ∧
          given.Supplies address (.node node) value := by
        have inside := presents.describes.inside
        rcases copies with ⟨inner, rfl, copy⟩ | ⟨other, rfl, rfl⟩
        · obtain ⟨_, ⟨⟩, own⟩ | ⟨none, -⟩ := like
          · have copied := presents.supplies_copy own.within own.denotes
            have grown := Store.copy_extends store (.node inner)
            have closed := Store.closed_copy presents.closed own.within
            rw [copy] at copied grown closed
            exact ⟨presents.extend closed grown, .inl ⟨inner, rfl, own.extend presents.closed inside grown⟩, copied⟩
          · exact absurd rfl (none inner)
        · obtain ⟨inner, same, -⟩ | ⟨none, rfl⟩ := like
          · exact absurd same (other inner)
          · exact ⟨presents.extend (presents.closed.push Cell.within_nil) (.push store []), .inr ⟨none, rfl⟩,
              presents.supplies_push .nil⟩
      obtain ⟨members', names', values', presents'', requires', flags, kept⟩ := add_represents presents' requires supplies adds
      have like'' : Prior added address prior value :=
        like'.imp_left fun ⟨inner, same, supplies⟩ => ⟨inner, same, kept supplies⟩
      have represents := ih presents'' requires' like'' adding
      rwa [flags, List.append_assoc, List.singleton_append] at represents

/-- What picking has for names that it adds: the schema of undeclared properties, if that is an object, and an empty
object otherwise. -/
theorem prior_of_read {fields : List (Key × Json)} (presents : store.Presents address members names values)
    (read : store.tree? (.node address) = some (.object fields)) (texts : List String) :
    Prior ((store.withMembers address (Fields.restrict members texts)).withNames address (names.filter (· ∈ texts))) address
      (Fields.get? (store.cell address) "additionalProperties") (Property.alike fields) := by
  obtain ⟨_, ⟨⟩, each⟩ := Store.denotes_node.mp
    ((presents.closed.tree?_eq_some_iff (Slot.within_node.mpr presents.describes.inside)).mp read)
  rw [Property.alike]
  rcases each.get? "additionalProperties" with ⟨missing, missing'⟩ | ⟨slot, value, found, found', denotes⟩
  · rw [missing, missing']
    exact .inr ⟨nofun, rfl⟩
  · rw [found, found']
    cases value with
    | object inner =>
        obtain ⟨node, rfl, -⟩ := denotes.eq_node
        have related := presents.supplies.restrict texts
        have supplies := presents.supplies_entry related (Fields.mem_of_get? found) denotes
        have picked := presents.withMembers (Fields.nodup_keys_restrict members texts) related
        exact .inl ⟨node, rfl, supplies.revise picked.closed (picked.revises_withNames _)⟩
    | _ =>
        refine .inr ⟨?_, rfl⟩
        rintro inner ⟨⟩
        obtain ⟨_, ⟨⟩, -⟩ := Store.denotes_node.mp denotes

theorem pickAdditional_represents {additional : Operand} {fields : List (Key × Json)}
    (presents : store.Presents address members names values) (requires : Requires values names)
    (read : store.tree? (.node address) = some (.object fields)) (given : operand.Lists texts) {extra : List String}
    (more : additional.isNull = true ∧ extra = [] ∨ additional.Lists extra)
    (ran : outcome (pickAdditional address operand additional) store = (.ok (), later)) :
    later.Represents address (Property.pick (flagged values names) texts ++ extra.map fun name => ⟨name, Property.alike fields, true⟩) := by
  obtain ⟨kept, picked, named, picks, rest⟩ := pickAdditional_ok ran
  obtain rfl : texts.map .string = kept := Option.some.inj (given.symm.trans named)
  obtain ⟨-, rfl⟩ := pick_ok presents.describes picks
  have prior := prior_of_read presents read texts
  have picked := presents_picked presents texts
  rw [← flagged_restrict]
  rcases rest with ⟨null, rfl⟩ | ⟨notNull, listed, slot, allowed, rfl⟩ | ⟨notNull, all, listed, -, adding⟩
  · have none : extra = [] := by
      exact (more.resolve_right fun listed => listed.not_isNull null).2
    subst none
    exact ⟨_, _, _, picked.put (by simp) (by simp) (.inl rfl), (List.append_nil _).symm⟩
  · obtain ⟨null, -⟩ | given' := more
    · exact absurd null (by simp [notNull])
    · obtain rfl : extra = [] := List.map_eq_nil_iff.mp (Option.some.inj (given'.symm.trans listed))
      refine ⟨_, _, _, picked.put (by simp) (by simp) ?_, (List.append_nil _).symm⟩
      have inside := presents.describes.inside
      rcases allowed with rfl | found
      · exact .inl rfl
      · refine .inr (Fields.mem_of_get? ?_)
        rw [Store.cell_withNames (by rw [Store.size_withMembers]; omega), if_pos rfl, get?_withRequired, if_neg (by simp),
          Store.cell_withMembers inside, if_pos rfl, Fields.get?_put, if_neg (by simp), found]
  · obtain ⟨null, -⟩ | given' := more
    · exact absurd null (by simp [notNull])
    · obtain rfl : extra.map .string = all := Option.some.inj (given'.symm.trans listed)
      exact addLike_represents extra picked (requires.restrict texts) prior adding

end Builder

end SchemaAlgebra
