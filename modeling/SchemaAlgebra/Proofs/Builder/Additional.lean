import SchemaAlgebra.Proofs.Builder.Closing
import SchemaAlgebra.Proofs.Json.Key
import SchemaAlgebra.Proofs.Schema.Nodes

/-!
Picking with additional properties. After the pick, each additional name is free and the schema has a place for
it, so the properties that are added one after the other are never refused; only the schema that undeclared
properties had can be, once it is made a builder's.
-/

namespace SchemaAlgebra

theorem Cell.get?_face (cell : Cell) (key : Key) :
    Fields.get? (Cell.face cell) key = (Fields.get? cell key).map Slot.face :=
  Fields.get?_map cell Slot.face key

/-- An object schema stays one if its type stays and it keeps some properties. -/
theorem Shape.isObjectSchema_keep {cell later : Cell} (isObject : isObjectSchema (Cell.face cell) = true)
    (type : Fields.get? later "type" = Fields.get? cell "type")
    (has : (Fields.get? later "properties").isSome = true) : isObjectSchema (Cell.face later) = true := by
  unfold isObjectSchema at isObject ⊢
  rw [Cell.get?_face, type, ← Cell.get?_face]
  split
  · next found =>
      rw [found] at isObject
      exact isObject
  · rw [Fields.has, Cell.get?_face, Option.isSome_map, has]

namespace Builder

/-- The schema at an address has properties at another, and each of some names can be added to them in turn. -/
structure Awaits (store : Store) (address members : Nat) (names : List Json) : Prop where
  inside : address < store.size
  membersInside : members < store.size
  apart : members ≠ address
  isObject : Shape.isObjectSchema (Cell.face (store.cell address)) = true
  properties : Fields.get? (store.cell address) "properties" = some (.node members)
  free : ∀ name ∈ names, ∀ key, name.key? = some key →
    ∀ other ∈ Fields.keys (store.cell members), key.alike other = false
  distinct : names.Pairwise fun first second =>
    ∀ key other, second.key? = some key → first.key? = some other → key.alike other = false

variable {store : Store} {address members : Nat} {name : Json} {rest : List Json}

theorem Awaits.spelled_free (awaits : Awaits store address members (name :: rest)) {key : Key}
    (keyed : name.key? = some key) :
    Fields.has (store.cell members) (spelled (store.cell members) key) = false := by
  rw [← Bool.not_eq_true, spelled, Key.has_spelledIn]
  rintro ⟨other, member, alike⟩
  simp [awaits.free name List.mem_cons_self key keyed other member] at alike

/-- A name that can be a key is not held yet. -/
theorem Awaits.outcome_holds (awaits : Awaits store address members (name :: rest)) :
    outcome (do holds (← Builder.properties address) name) store =
      match name.key? with
      | some _ => (.ok false, store)
      | none => (.error .unusable, store) := by
  rw [outcome_bind_ok (outcome_properties address store), awaits.properties, Option.filter_some]
  split
  · rw [holds, outcome_bind_ok (Change.outcome_cell members store), outcome_bind, Change.outcome_keyOf]
    cases keyed : name.key? with
    | none => rfl
    | some key => simp only [outcome_pure, awaits.spelled_free keyed]
  · rw [holds, outcome_bind, Change.outcome_keyOf]
    cases name.key? <;> rfl

theorem Awaits.outcome_insertProperty (awaits : Awaits store address members (name :: rest)) (root : Nat) :
    outcome (insertProperty address name (.builder root)) store =
      match name.key? with
      | some key => (.ok (), store.replace members
          (Fields.put (store.cell members) (spelled (store.cell members) key) (.node root)))
      | none => (.error .unusable, store) := by
  have held := awaits.outcome_holds
  rw [outcome_bind_ok (outcome_properties address store)] at held
  rw [insertProperty, outcome_bind_ok (outcome_shape address store)]
  simp only [awaits.isObject, Bool.not_true, Bool.false_eq_true, if_false]
  rw [outcome_bind_ok (outcome_properties address store), outcome_bind, held]
  cases keyed : name.key? with
  | none => rfl
  | some key =>
      simp only [Bool.false_eq_true, if_false]
      have own : outcome (ownProperties address) store = (.ok (.node members), store) := by
        rw [ownProperties, outcome_bind_ok (Change.outcome_cell address store), awaits.properties]
        rfl
      have key' : outcome (Change.keyOf name) store = (.ok key, store) := by
        rw [Change.outcome_keyOf, keyed]
      rw [Change.nodeOf, outcome_bind_ok (outcome_pure root store), outcome_bind_ok own, assign,
        outcome_bind_ok (Change.outcome_cell address store), awaits.properties]
      simp only
      rw [outcome_bind_ok (Change.outcome_cell members store), outcome_bind_ok key', Change.outcome_put]

/-- A store in which a schema has one more property and a list of required names. -/
def withProperty (store : Store) (address members : Nat) (key : Key) (slot : Slot) (names : List Slot) : Store :=
  (store.replace members (Fields.put (store.cell members) key slot)).replace address
    (withRequired (store.cell address) names)

theorem Awaits.cell_withProperty (awaits : Awaits store address members (name :: rest)) (key : Key) (slot : Slot)
    (names : List Slot) (other : Nat) :
    (withProperty store address members key slot names).cell other =
      if address = other then withRequired (store.cell address) names
      else if members = other then Fields.put (store.cell members) key slot
      else store.cell other := by
  rw [withProperty, Store.cell_replace _ _ _ _ (by simpa using awaits.inside),
    Store.cell_replace _ _ _ _ awaits.membersInside]

theorem Awaits.withProperty (awaits : Awaits store address members (name :: rest)) {key : Key}
    (keyed : name.key? = some key) (slot : Slot) (names : List Slot) :
    Awaits (withProperty store address members key slot names) address members rest := by
  have own := awaits.cell_withProperty key slot names address
  have theirs := awaits.cell_withProperty key slot names members
  rw [if_pos rfl] at own
  rw [if_neg (Ne.symm awaits.apart), if_pos rfl] at theirs
  have kept : ∀ other : Key, other ≠ .text "required" →
      Fields.get? (withRequired (store.cell address) names) other = Fields.get? (store.cell address) other :=
    fun other different => by rw [get?_withRequired, if_neg (Ne.symm different)]
  obtain ⟨apart, distinct⟩ := List.pairwise_cons.mp awaits.distinct
  constructor
  · simpa [Builder.withProperty] using awaits.inside
  · simpa [Builder.withProperty] using awaits.membersInside
  · exact awaits.apart
  · rw [own]
    refine Shape.isObjectSchema_keep awaits.isObject (kept _ (by simp)) ?_
    rw [kept _ (by simp), awaits.properties]
    rfl
  · rw [own, kept _ (by simp), awaits.properties]
  · intro later listed key' keyed' other member
    rw [theirs, Fields.keys_put] at member
    have before := awaits.free later (List.mem_cons_of_mem name listed) key' keyed'
    split at member
    · exact before other member
    · rcases List.mem_append.mp member with member | member
      · exact before other member
      · obtain rfl := List.mem_singleton.mp member
        exact apart later listed key' other keyed' keyed
  · exact distinct

/-- Adding the first of the names is not refused; if it succeeds, the others can still be added, and only the
schema and its properties have changed. -/
theorem Awaits.next {result : Except Failure Unit} {later : Store} {root : Nat}
    (awaits : Awaits store address members (name :: rest))
    (ran : outcome (addProperty address true name (.builder root)) store = (result, later)) :
    (∀ refusal, result ≠ .error (.refused refusal)) ∧ (result = .ok () →
      Awaits later address members rest ∧ later.size = store.size ∧
        ∀ other, other ≠ address → other ≠ members → later.cell other = store.cell other) := by
  have inserted := awaits.outcome_insertProperty root
  rw [Builder.addProperty, outcome_bind, inserted] at ran
  cases keyed : name.key? with
  | none =>
      rw [keyed] at ran
      obtain ⟨rfl, rfl⟩ := Prod.mk.inj ran
      simp
  | some key =>
      have own : spelled (store.cell members) key = key :=
        Key.spelledIn_of_free (awaits.free name List.mem_cons_self key keyed)
      rw [keyed] at ran
      simp only [own, if_true] at ran
      constructor
      · rintro refusal rfl
        exact unrefusing_requireName address name _ _ _ ran
      · rintro rfl
        obtain ⟨before, last, looked, ran⟩ := outcome_bind_eq_ok.mp ran
        obtain rfl : last = _ := (congrArg Prod.snd looked).symm.trans ((looks_required address).same _)
        rw [outcome_bind_ok (Change.outcome_place _ _), Json.eq_toJson_of_key? keyed, Key.place_toJson,
          outcome_setRequired, Store.cell_replace _ _ _ _ awaits.membersInside, if_neg awaits.apart] at ran
        obtain rfl : Builder.withProperty store address members key (.node root) (before ++ [key.toSlot]) = later :=
          congrArg Prod.snd ran
        refine ⟨awaits.withProperty keyed _ _, by simp [Builder.withProperty], fun other notAddress notMembers => ?_⟩
        rw [awaits.cell_withProperty, if_neg (Ne.symm notAddress), if_neg (Ne.symm notMembers)]

theorem Awaits.extend {later : Store} {names : List Json} (awaits : Awaits store address members names)
    (extends' : store.Extends later) : Awaits later address members names where
  inside := Nat.lt_of_lt_of_le awaits.inside extends'.size
  membersInside := Nat.lt_of_lt_of_le awaits.membersInside extends'.size
  apart := awaits.apart
  isObject := by rw [extends'.cells address awaits.inside]; exact awaits.isObject
  properties := by rw [extends'.cells address awaits.inside]; exact awaits.properties
  free := by rw [extends'.cells members awaits.membersInside]; exact awaits.free
  distinct := awaits.distinct

/-- A slot that is an object and finite is apart from a schema and its properties and holds no reference. -/
def Harmless (store : Store) (address members : Nat) (prior : Option Slot) : Prop :=
  ∀ inner value, prior = some (.node inner) → store.Denotes (.node inner) value →
    Walk.firstReference? value = none ∧
      store.Apart (fun other => other = address ∨ other = members) (.node inner)

/-- What is harmless stays so, unless it is infinite, when only the schema and its properties change. -/
theorem Harmless.later {later : Store} {prior : Option Slot} (harmless : Harmless store address members prior)
    (closed : store.Closed) (within : ∀ slot ∈ prior, slot.Within store.size)
    (finite : ∀ inner, prior = some (.node inner) → ∃ value, store.Denotes (.node inner) value)
    (kept : ∀ other < store.size, other ≠ address → other ≠ members → later.cell other = store.cell other) :
    Harmless later address members prior := by
  rintro inner value rfl denotes
  obtain ⟨value', denotes'⟩ := finite inner rfl
  obtain ⟨free, apart⟩ := harmless inner value' rfl denotes'
  have apart' : store.Apart (fun other => other = address ∨ other = members ∨ store.size ≤ other) (.node inner) := by
    intro start named other leads
    have old := closed.leads (within _ rfl start named) leads
    rintro (same | same | new)
    · exact apart start named other leads (.inl same)
    · exact apart start named other leads (.inr same)
    · exact Nat.not_le_of_lt old new
  have agrees : store.AgreesOff later fun other => other = address ∨ other = members ∨ store.size ≤ other := by
    intro other unchanged
    simp only [not_or, Nat.not_le] at unchanged
    exact kept other unchanged.2.2 unchanged.1 unchanged.2.1
  obtain rfl := denotes.unique (denotes'.agree agrees apart')
  refine ⟨free, fun start named other leads => ?_⟩
  rintro (same | same)
  · exact (apart'.agree agrees) start named other leads (.inl same)
  · exact (apart'.agree agrees) start named other leads (.inr (.inl same))

theorem Harmless.grow {later : Store} {prior : Option Slot} (harmless : Harmless store address members prior)
    (closed : store.Closed) (within : ∀ slot ∈ prior, slot.Within store.size) (grows : store.Grows later) :
    Harmless later address members prior := by
  rintro inner value rfl denotes
  have before := (grows.denotes_iff closed (within _ rfl)).mp denotes
  have finite : ∀ other, some (Slot.node inner) = some (.node other) → ∃ value, store.Denotes (.node other) value := by
    rintro _ ⟨⟩
    exact ⟨value, before⟩
  have kept := harmless.later closed within finite fun other inside _ _ => grows.extends'.cells other inside
  exact kept inner value rfl denotes

/-- One round of adding: a new object without references is made a builder's, unless it is infinite, and added;
the rest goes on from there. -/
theorem Awaits.unrefused_round {prior : Option Slot} {node : Nat} {refusal : Refusal} {last : Store}
    (awaits : Awaits store address members (name :: rest)) (closed : store.Closed) (inside : node < store.size)
    (within : ∀ slot ∈ prior, slot.Within store.size) (harmless : Harmless store address members prior)
    (free : ∀ schema, store.tree? (.node node) = some schema →
      Walk.firstReference? schema = none ∧ ∀ inner, prior = some (.node inner) → ∃ value, store.Denotes (.node inner) value)
    (ih : ∀ later : Store, Awaits later address members rest → later.Closed →
      (∀ slot ∈ prior, slot.Within later.size) → Harmless later address members prior →
        outcome (addLike address prior rest) later ≠ (.error (.refused refusal), last)) :
    outcome (adoptLike address prior name rest node) store ≠ (.error (.refused refusal), last) := by
  intro refused
  rw [adoptLike, outcome_bind, outcome_adopt] at refused
  cases read : store.tree? (.node node) with
  | none => simp [read] at refused
  | some schema =>
      obtain ⟨noReference, finite⟩ := free schema read
      simp only [read, noReference] at refused
      rw [outcome_bind] at refused
      have known : Known store.size (.builder node) := by
        rintro _ ⟨⟩
        exact inside
      have stays := stays_addProperty address true name known store closed (Nat.le_refl _)
      rcases ran : outcome (Builder.addProperty address true name (.builder node)) store with ⟨failure | ⟨⟩, later⟩
      · rw [ran] at refused
        obtain ⟨unrefused, -⟩ := awaits.next ran
        simp only [Prod.mk.injEq, Except.error.injEq] at refused
        exact unrefused refusal (by rw [refused.1])
      · rw [ran] at refused stays
        obtain ⟨-, kept⟩ := awaits.next ran
        obtain ⟨awaits', size, cells⟩ := kept rfl
        refine ih later awaits' stays.1 (fun slot member => (within slot member).mono stays.2.1) ?_ refused
        exact harmless.later closed within finite fun other _ notAddress notMembers =>
          cells other notAddress notMembers

/-- A copy of what undeclared properties have is added for each name, or an empty object; nothing is refused. -/
theorem Awaits.unrefused_addLike {prior : Option Slot} {names : List Json} {refusal : Refusal} {last : Store} :
    ∀ {store : Store}, Awaits store address members names → store.Closed →
      (∀ slot ∈ prior, slot.Within store.size) → Harmless store address members prior →
        outcome (addLike address prior names) store ≠ (.error (.refused refusal), last) := by
  induction names with
  | nil => exact fun _ _ _ _ => by simp [addLike]
  | cons name rest ih =>
      intro store awaits closed within harmless
      have round {node : Nat} {later : Store} (grows : store.Grows later) (inside : node < later.size)
          (free : ∀ schema, later.tree? (.node node) = some schema → Walk.firstReference? schema = none ∧
            ∀ inner, prior = some (.node inner) → ∃ value, store.Denotes (.node inner) value) :
          outcome (adoptLike address prior name rest node) later ≠ (.error (.refused refusal), last) := by
        refine (awaits.extend grows.extends').unrefused_round grows.closed inside
          (fun slot member => (within slot member).mono grows.extends'.size) (harmless.grow closed within grows)
          (fun schema read => ?_) fun _ => ih
        obtain ⟨noReference, finite⟩ := free schema read
        refine ⟨noReference, fun inner same => ?_⟩
        obtain ⟨value, denotes⟩ := finite inner same
        exact ⟨value, denotes.extend closed (within _ same) grows.extends'⟩
      rw [addLike.eq_def]
      dsimp only
      split
      · next inner =>
          have inside := within _ rfl
          have copies := Store.copy_within closed inside
          rw [outcome_bind_ok (outcome_copied _ _)]
          split
          · next root copy =>
              rw [copy, Slot.within_node] at copies
              refine round ⟨Store.closed_copy closed inside, store.copy_extends _⟩ copies fun schema read => ?_
              rw [← copy, Store.tree?_copy closed inside, closed.tree?_eq_some_iff inside] at read
              refine ⟨(harmless inner schema rfl read).1, ?_⟩
              rintro _ ⟨⟩
              exact ⟨schema, read⟩
          · simp
      · next other =>
          rw [outcome_bind_ok (Change.outcome_push _ _)]
          refine round (closed.grows_push Cell.within_nil) (by simp) fun schema read => ⟨?_, fun inner same => ?_⟩
          · obtain rfl : Json.object [] = schema := by
              simpa [Store.tree?, Slot.tree?, Store.treeWithin, Store.cell_push, Cell.trees?] using read
            rfl
          · exact absurd same (other inner)

/-- What a pick leaves: the schema has new properties, whose keys are picked names, and the other keywords
stay, but for the list of required names. -/
structure Picks (store picked : Store) (address : Nat) (names : List Json) : Prop where
  size : picked.size = store.size + 1
  elsewhere : ∀ other < store.size, other ≠ address → picked.cell other = store.cell other
  properties : Fields.get? (picked.cell address) "properties" = some (.node store.size)
  others : ∀ key : Key, key ≠ .text "properties" → key ≠ .text "required" →
    Fields.get? (picked.cell address) key = Fields.get? (store.cell address) key
  keys : ∀ key ∈ Fields.keys (picked.cell store.size), ∃ name ∈ names, name.key? = some key

theorem keys_of_selected {declared : Option Slot} {names : List Json} {before members : Cell}
    (ran : outcome (selected declared names before) store = (.ok members, store)) :
    ∀ key ∈ Fields.keys members, key ∈ Fields.keys before ∨ ∃ name ∈ names, name.key? = some key := by
  induction names generalizing before with
  | nil =>
      obtain rfl := Except.ok.inj (congrArg Prod.fst ran)
      exact fun key member => .inl member
  | cons name rest ih =>
      rw [selected] at ran
      obtain ⟨slot, -, ran⟩ := (looks_member declared name).same.bind_eq_ok.mp ran
      obtain ⟨key, keyed, ran⟩ := (Change.looks_keyOf name).same.bind_eq_ok.mp ran
      have own := Change.key?_of_keyOf keyed
      intro other member
      rcases ih ran other member with before' | ⟨later, listed, keyed'⟩
      · rw [Fields.keys_put] at before'
        split at before'
        · exact .inl before'
        · rcases List.mem_append.mp before' with before' | new
          · exact .inl before'
          · obtain rfl := List.mem_singleton.mp new
            rcases Key.spelledIn_cases key (Fields.keys before) with listed | same
            · exact .inl listed
            · exact .inr ⟨name, List.mem_cons_self, by rw [own, spelled, same]⟩
      · exact .inr ⟨later, List.mem_cons_of_mem name listed, keyed'⟩

/-- Setting the list of required names afterwards leaves what a pick leaves. -/
theorem Picks.setRequired {picked : Store} {names : List Json} (picks : Picks store picked address names)
    (inside : address < store.size) (kept : List Slot) :
    Picks store (picked.replace address (withRequired (picked.cell address) kept)) address names := by
  have inside' : address < picked.size := by rw [picks.size]; omega
  have own := Store.cell_replace picked address address (withRequired (picked.cell address) kept) inside'
  rw [if_pos rfl] at own
  constructor
  · rw [Store.size_replace, picks.size]
  · intro other old different
    rw [Store.cell_replace _ _ _ _ inside', if_neg (Ne.symm different), picks.elsewhere other old different]
  · rw [own, get?_withRequired, if_neg (by simp), picks.properties]
  · intro key notProperties notRequired
    rw [own, get?_withRequired, if_neg (Ne.symm notRequired), picks.others key notProperties notRequired]
  · rw [Store.cell_replace _ _ _ _ inside', if_neg (Nat.ne_of_lt inside)]
    exact picks.keys

theorem picks_put {names : List Json} {members : Cell} (inside : address < store.size)
    (keyed : ∀ key ∈ Fields.keys members, ∃ name ∈ names, name.key? = some key) :
    Picks store ((store.push members).replace address
      (Fields.put ((store.push members).cell address) "properties" (.node store.size))) address names := by
  have inside' : address < (store.push members).size := by rw [Store.size_push]; omega
  have own : (store.push members).cell address = store.cell address := by
    rw [Store.cell_push, if_neg (Nat.ne_of_lt inside)]
  rw [own]
  constructor
  · rw [Store.size_replace, Store.size_push]
  · intro other old different
    rw [Store.cell_replace _ _ _ _ inside', if_neg (Ne.symm different), Store.cell_push, if_neg (Nat.ne_of_lt old)]
  · rw [Store.cell_replace _ _ _ _ inside', if_pos rfl, Fields.get?_put_self]
  · intro key notProperties _
    rw [Store.cell_replace _ _ _ _ inside', if_pos rfl, Fields.get?_put, if_neg (Ne.symm notProperties)]
  · rw [Store.cell_replace _ _ _ _ inside', if_neg (Nat.ne_of_lt inside), Store.cell_push, if_pos rfl]
    exact keyed

theorem picks_of_pick {names : List Json} {picked : Store} (inside : address < store.size)
    (ran : outcome (pick address names) store = (.ok (), picked)) : Picks store picked address names := by
  obtain ⟨-, -, ran⟩ := (still_requirePickable address).bind_eq_ok.mp ran
  obtain ⟨declared, -, ran⟩ := (looks_properties address).same.bind_eq_ok.mp ran
  obtain ⟨-, -, ran⟩ := (still_requirePicked address declared names).bind_eq_ok.mp ran
  obtain ⟨members, selects, ran⟩ := (looks_selected declared names []).same.bind_eq_ok.mp ran
  rw [outcome_bind_ok (Change.outcome_push _ _), outcome_bind_ok (Change.outcome_put _ _ _ _),
    outcome_bind_ok (Change.outcome_cell _ _)] at ran
  have keyed : ∀ key ∈ Fields.keys members, ∃ name ∈ names, name.key? = some key := by
    intro key member
    rcases keys_of_selected selects key member with none | found
    · exact absurd none List.not_mem_nil
    · exact found
  have shown := picks_put inside keyed
  split at ran
  · obtain ⟨before, -, ran⟩ := (looks_required address).same.bind_eq_ok.mp ran
    obtain ⟨kept, -, ran⟩ := (looks_among names before).same.bind_eq_ok.mp ran
    rw [outcome_setRequired] at ran
    obtain rfl := congrArg Prod.snd ran
    exact shown.setRequired inside kept
  · obtain rfl := congrArg Prod.snd ran
    exact shown

theorem key?_of_mapM {names : List Json} {keys : List Key}
    (ran : outcome (names.mapM Change.keyOf) store = (.ok keys, store)) :
    names.map Json.key? = keys.map some := by
  induction names generalizing keys with
  | nil =>
      obtain rfl : [] = keys := Except.ok.inj (congrArg Prod.fst ran)
      rfl
  | cons name rest ih =>
      rw [List.mapM_cons] at ran
      obtain ⟨key, keyed, ran⟩ := (Change.looks_keyOf name).same.bind_eq_ok.mp ran
      obtain ⟨later, listed, ran⟩ := (Change.looks_mapM Change.looks_keyOf rest).same.bind_eq_ok.mp ran
      obtain rfl : key :: later = keys := Except.ok.inj (congrArg Prod.fst ran)
      rw [List.map_cons, List.map_cons, ih listed, Change.key?_of_keyOf keyed]

theorem apart_of_areDistinct {names : List Json} {keys : List Key} (keyed : names.map Json.key? = keys.map some)
    (distinct : areDistinct keys = true) :
    names.Pairwise fun first second =>
      ∀ key other, second.key? = some key → first.key? = some other → key.alike other = false := by
  induction names generalizing keys with
  | nil => exact .nil
  | cons name rest ih =>
      cases keys with
      | nil => simp at keyed
      | cons key keys =>
          simp only [List.map_cons, List.cons.injEq] at keyed
          rw [areDistinct, Bool.and_eq_true, Bool.not_eq_true', List.any_eq_false] at distinct
          refine List.pairwise_cons.mpr ⟨fun later member key' other keyed' own => ?_, ih keyed.2 distinct.2⟩
          obtain rfl := Option.some.inj (keyed.1.symm.trans own)
          have listed : some key' ∈ keys.map some := by
            rw [← keyed.2, ← keyed']
            exact List.mem_map_of_mem member
          rw [List.mem_map_of_injective (Option.some_injective _)] at listed
          rw [Key.alike_comm]
          simpa using distinct.1 key' listed

/-- Names that are given as picked and additional ones and let pass differ. -/
theorem distinct_of_requireDistinct {kept extra : List Json}
    (ran : outcome (requireDistinct kept extra) store = (.ok (), store)) :
    (∀ name ∈ extra, ∀ other ∈ kept, other.agrees name = false) ∧
      extra.Pairwise fun first second =>
        ∀ key other, second.key? = some key → first.key? = some other → key.alike other = false := by
  unfold requireDistinct at ran
  simp only at ran
  split at ran
  · exfalso
    rw [outcome_bind] at ran
    split at ran
    · rw [outcome_bind] at ran
      simp at ran
    · simp at ran
  · next none =>
      obtain ⟨keys, keyed, ran⟩ := (Change.looks_mapM Change.looks_keyOf extra).same.bind_eq_ok.mp ran
      constructor
      · intro name member other member'
        have kept := none
        simp only [Bool.not_eq_true', Bool.not_eq_false, List.isEmpty_iff, List.filter_eq_nil_iff,
          List.any_eq_true, not_exists, not_and, Bool.not_eq_true] at kept
        exact kept name member other member'
      · refine apart_of_areDistinct (key?_of_mapM keyed) ?_
        split at ran
        · simp at ran
        · next distinct => simpa using distinct

/-- After a pick, additional names that are neither picked nor alike can be added. -/
theorem Picks.awaits {picked : Store} {kept extra : List Json} (picks : Picks store picked address kept)
    (inside : address < store.size) (isObject : Shape.isObjectSchema (Cell.face (store.cell address)) = true)
    (different : ∀ name ∈ extra, ∀ other ∈ kept, other.agrees name = false)
    (distinct : extra.Pairwise fun first second =>
      ∀ key other, second.key? = some key → first.key? = some other → key.alike other = false) :
    Awaits picked address store.size extra where
  inside := by rw [picks.size]; omega
  membersInside := by rw [picks.size]; omega
  apart := Nat.ne_of_gt inside
  isObject := Shape.isObjectSchema_keep isObject (picks.others _ (by simp) (by simp)) (by rw [picks.properties]; rfl)
  properties := picks.properties
  free name member key keyed other listed := by
    obtain ⟨kept', member', keyed'⟩ := picks.keys other listed
    have apart := different name member kept' member'
    rw [Json.eq_toJson_of_key? keyed, Json.eq_toJson_of_key? keyed'] at apart
    by_contra alike
    rw [Bool.not_eq_false, Key.alike_comm] at alike
    simp [Key.agrees_of_alike alike] at apart
  distinct := distinct

/-- After a pick, the schema that undeclared properties have leads to the schema only if it is infinite, and to
the picked properties not at all. -/
theorem Picks.apart {picked : Store} {kept : List Json} {inner : Nat} {value : Json}
    (picks : Picks store picked address kept) (closed : store.Closed) (inside : address < store.size)
    (prior : Fields.get? (store.cell address) "additionalProperties" = some (.node inner))
    (denotes : picked.Denotes (.node inner) value) :
    picked.Apart (fun other => other = address ∨ store.size ≤ other) (.node inner) := by
  have named : inner ∈ (picked.cell address).addresses := by
    rw [← picks.others _ (by simp) (by simp)] at prior
    exact Cell.mem_addresses.mpr ⟨_, Fields.mem_of_get? prior, List.mem_singleton_self inner⟩
  have notAddress : ¬ picked.Leads inner address := by
    intro leads
    obtain ⟨_, finite⟩ := denotes.of_leads leads
    exact finite.acyclic named leads
  have old : ∀ other, picked.Leads inner other → other < store.size := by
    intro other leads
    induction leads with
    | refl =>
        have within := (Store.closed_iff.mp closed address).get? prior
        rwa [Slot.within_node] at within
    | @tail middle last leads named ih =>
        have different : middle ≠ address := by
          rintro rfl
          exact notAddress leads
        rw [picks.elsewhere middle ih different] at named
        exact closed middle last named
  intro start same other leads
  obtain rfl := List.mem_singleton.mp same
  rintro (rfl | new)
  · exact notAddress leads
  · exact Nat.not_le_of_lt (old other leads) new

/-- What the schema of undeclared properties denotes after a pick, it denoted before. -/
theorem Picks.denotes {picked : Store} {kept : List Json} {inner : Nat} {value : Json}
    (picks : Picks store picked address kept) (closed : store.Closed) (inside : address < store.size)
    (prior : Fields.get? (store.cell address) "additionalProperties" = some (.node inner))
    (denotes : picked.Denotes (.node inner) value) : store.Denotes (.node inner) value := by
  refine denotes.agree (fun other unchanged => ?_) (picks.apart closed inside prior denotes)
  simp only [not_or, Nat.not_le] at unchanged
  exact (picks.elsewhere other unchanged.2 unchanged.1).symm

/-- What is left of picking with additional properties when a copy of the schema that undeclared properties had
is refused for a reference: all that picking alone does. -/
structure LeavesPick (store later : Store) (address : Nat) (names : Operand) : Prop where
  reference : ∃ inner schema, Fields.get? (store.cell address) "additionalProperties" = some (.node inner) ∧
    store.tree? (.node inner) = some schema ∧ Walk.HoldsReference .schema schema
  picked : ∃ picked, outcome (pickListed address names) store = (.ok (), picked) ∧ picked.Extends later

/-- Copying a schema with a reference for an additional property is refused at the first name. -/
theorem extends_of_addLike_reference {inner : Nat} {schema : Json} {names : List Json} {failure : Failure}
    {later : Store} (closed : store.Closed) (inside : inner < store.size)
    (read : store.tree? (.node inner) = some schema) (reference : Walk.firstReference? schema ≠ none)
    (failed : outcome (addLike address (some (.node inner)) names) store = (.error failure, later)) :
    store.Extends later := by
  have within := Slot.within_node.mpr inside
  cases names with
  | nil => simp [addLike] at failed
  | cons name rest =>
      have copied := store.copy_extends (.node inner)
      rw [addLike.eq_def] at failed
      dsimp only at failed
      rw [outcome_bind_ok (outcome_copied _ _)] at failed
      split at failed
      · next root copy =>
          rw [← Store.tree?_copy closed within, copy] at read
          simp only [outcome_bind, outcome_pure, outcome_adopt, read] at failed
          cases found : Walk.firstReference? schema with
          | none => exact absurd found reference
          | some reference =>
              simp only [found] at failed
              obtain ⟨-, rfl⟩ := Prod.mk.inj failed
              exact copied
      · simp only [outcome_bind, outcome_throw] at failed
        obtain ⟨-, rfl⟩ := Prod.mk.inj failed
        exact copied

/-- Adding properties after a pick is refused only for a reference in the schema that undeclared properties
had. -/
theorem Picks.refused_addLike {picked later : Store} {kept extra : List Json} {refusal : Refusal}
    (picks : Picks store picked address kept) (closed : store.Closed) (closed' : picked.Closed)
    (inside : address < store.size) (awaits : Awaits picked address store.size extra)
    (refused : outcome (addLike address (Fields.get? (store.cell address) "additionalProperties") extra) picked =
      (.error (.refused refusal), later)) :
    (∃ inner schema, Fields.get? (store.cell address) "additionalProperties" = some (.node inner) ∧
      store.tree? (.node inner) = some schema ∧ Walk.HoldsReference .schema schema) ∧ picked.Extends later := by
  have within : ∀ slot ∈ Fields.get? (store.cell address) "additionalProperties", slot.Within store.size :=
    fun slot found => (Store.closed_iff.mp closed address).get? found
  have within' : ∀ slot ∈ Fields.get? (store.cell address) "additionalProperties", slot.Within picked.size :=
    fun slot found => (within slot found).mono (by rw [picks.size]; omega)
  by_cases harmless : Harmless picked address store.size (Fields.get? (store.cell address) "additionalProperties")
  · exact absurd refused (awaits.unrefused_addLike closed' within' harmless)
  · simp only [Harmless, not_forall] at harmless
    obtain ⟨inner, schema, prior, denotes, harm⟩ := harmless
    have apart := picks.apart closed inside prior denotes
    have reference : Walk.firstReference? schema ≠ none := by
      intro none
      refine harm ⟨none, fun start named other leads => ?_⟩
      rintro (same | same)
      · exact apart start named other leads (.inl same)
      · exact apart start named other leads (.inr (Nat.le_of_eq same.symm))
    have read' := (closed'.tree?_eq_some_iff (within' _ prior)).mpr denotes
    rw [prior] at refused
    refine ⟨⟨inner, schema, prior, ?_, ?_⟩, ?_⟩
    · exact (closed.tree?_eq_some_iff (within _ prior)).mpr (picks.denotes closed inside prior denotes)
    · by_contra free
      exact reference ((Walk.firstReference?_eq_none_iff schema).mpr free)
    · exact extends_of_addLike_reference closed' (Slot.within_node.mp (within' _ prior)) read' reference refused

/-- Picking with additional properties is atomic, unless the schema that undeclared properties have holds a
reference. -/
theorem pickAdditional_refused {names additional : Operand} {refusal : Refusal} {later : Store}
    (closed : store.Closed) (inside : address < store.size)
    (refused : outcome (pickAdditional address names additional) store = (.error (.refused refusal), later)) :
    store.Extends later ∨ LeavesPick store later address names := by
  rcases (looks_shape address).same.bind_eq_error refused with rfl | ⟨face, shaped, refused⟩
  · exact .inl (.refl _)
  obtain rfl : Cell.face (store.cell address) = face := Except.ok.inj (congrArg Prod.fst shaped)
  have checked (kept extra : List Json) (listed : names.names? = some kept)
      (isObject : Shape.isObjectSchema (Cell.face (store.cell address)) = true)
      (refused : outcome (do requireDistinct kept extra; pickKept address kept additional extra) store =
        (.error (.refused refusal), later)) :
      store.Extends later ∨ LeavesPick store later address names := by
    rcases (still_requireDistinct kept extra).bind_eq_error refused with rfl | ⟨⟨⟩, distinct, refused⟩
    · exact .inl (.refl _)
    obtain ⟨different, distinct⟩ := distinct_of_requireDistinct distinct
    rw [pickKept, outcome_bind_ok (Change.outcome_cell _ _)] at refused
    rcases outcome_bind_eq_error.mp refused with refused | ⟨⟨⟩, picked, ran, refused⟩
    · exact .inl (atomic_pick address kept _ _ _ refused)
    have picks := picks_of_pick inside ran
    have closed' : picked.Closed := by
      obtain ⟨closed', -⟩ := stays_pick address kept store closed (Nat.le_refl store.size)
      rwa [ran] at closed' 
    have listed' : outcome (pickListed address names) store = (.ok (), picked) := by
      obtain ⟨⟨⟩, pickable, ran⟩ := (still_requirePickable address).bind_eq_ok.mp ran
      have named : outcome (Change.names names) store = (.ok kept, store) := by
        rw [Change.names, listed]
        rfl
      rw [pickListed, outcome_bind_ok pickable, outcome_bind_ok named]
      exact ran
    split at refused
    · simp at refused
    · split at refused
      · split at refused <;> simp at refused
      · have awaits := picks.awaits inside isObject different distinct
        obtain ⟨reference, extends'⟩ := picks.refused_addLike closed closed' inside awaits refused
        exact .inr ⟨reference, picked, listed', extends'⟩
  dsimp only at refused
  split at refused
  · rw [outcome_bind_error (Change.outcome_refuse _ _)] at refused
    obtain rfl := congrArg Prod.snd refused
    exact .inl (.refl _)
  · next shape =>
      have isObject : Shape.isObjectSchema (Cell.face (store.cell address)) = true := by
        simp only [Bool.or_eq_true, Bool.not_eq_true', not_or, Bool.not_eq_false] at shape
        exact shape.1.1
      rcases (Change.looks_names names).same.bind_eq_error refused with rfl | ⟨kept, named, refused⟩
      · exact .inl (.refl _)
      have listed : names.names? = some kept := by
        rw [Change.names] at named
        cases found : names.names? with
        | none => simp [found] at named
        | some listed =>
            rw [found] at named
            exact congrArg some (Except.ok.inj (congrArg Prod.fst named))
      by_cases null : additional.isNull = true
      · rw [if_pos null, outcome_bind_ok (outcome_pure [] store)] at refused
        exact checked kept [] listed isObject refused
      · rw [if_neg null] at refused
        rcases (Change.looks_names additional).same.bind_eq_error refused with rfl | ⟨extra, -, refused⟩
        · exact .inl (.refl _)
        · exact checked kept extra listed isObject refused

end Builder

end SchemaAlgebra
