import SchemaAlgebra.Proofs.Builder.Atomicity
import SchemaAlgebra.Proofs.Fields
import SchemaAlgebra.Proofs.Json.Key

/-!
Object schemas with named members. Of such a schema it is known which members its properties have, in order, and
which names it requires; each small step of an edit is then known exactly.
-/

namespace SchemaAlgebra

/-- Members under names, as the entries of an object. -/
def Cell.named (members : Fields String Slot) : Cell :=
  members.map fun member => (.text member.1, member.2)

namespace Cell

variable (members : Fields String Slot) (name : String)

@[simp] theorem named_nil : named [] = [] := rfl

@[simp] theorem get?_named : Fields.get? (named members) (.text name) = Fields.get? members name := by
  induction members with
  | nil => rfl
  | cons member rest ih =>
      obtain ⟨other, slot⟩ := member
      simp only [named, List.map_cons, Fields.get?_cons, Key.text.injEq] at ih ⊢
      rw [ih]

@[simp] theorem keys_named : Fields.keys (named members) = (Fields.keys members).map Key.text := by
  simp [named, Fields.keys, Function.comp_def]

@[simp] theorem has_named : Fields.has (named members) (.text name) = Fields.has members name := by
  rw [Fields.has, get?_named, Fields.has]

@[simp] theorem put_named (slot : Slot) :
    Fields.put (named members) (.text name) slot = named (Fields.put members name slot) := by
  induction members with
  | nil => rfl
  | cons member rest ih =>
      obtain ⟨other, slot'⟩ := member
      simp only [named, List.map_cons, Fields.put, Key.text.injEq] at ih ⊢
      split
      · rw [List.map_cons]
      · rw [List.map_cons, ih]

@[simp] theorem relabel_named (new : String) :
    Fields.relabel (named members) (.text name) (.text new) = named (Fields.relabel members name new) := by
  simp only [Fields.relabel, named, List.map_map]
  refine List.map_congr_left fun member _ => ?_
  simp only [Function.comp_apply, Key.text.injEq, Prod.mk.injEq, and_true]
  split <;> rfl

theorem nodup_keys_named {members : Fields String Slot} :
    (Fields.keys (named members)).Nodup ↔ (Fields.keys members).Nodup := by
  rw [keys_named]
  exact List.nodup_map_iff fun _ _ same => Key.text.inj same

theorem exists_named {cell : Cell} (texts : ∀ key ∈ Fields.keys cell, ∃ name, key = .text name) :
    ∃ members, cell = named members := by
  induction cell with
  | nil => exact ⟨[], rfl⟩
  | cons entry rest ih =>
      obtain ⟨key, slot⟩ := entry
      obtain ⟨⟨name, rfl⟩, others⟩ := List.forall_mem_cons.mp texts
      obtain ⟨members, rfl⟩ := ih others
      exact ⟨(name, slot) :: members, rfl⟩

@[simp] theorem spelled_named : Builder.spelled (named members) (.text name) = .text name :=
  Key.spelledIn_text name _

end Cell

namespace Store

/-- What is looked up under `properties` has members: none, or an object with them. -/
inductive Declares (store : Store) (members : Fields String Slot) : Option Slot → Prop
  | absent (empty : members = []) : Declares store members none
  | node {place : Nat} (cell : store.cell place = Cell.named members) : Declares store members (some (.node place))

/-- The schema at an address has properties with members, in an object of their own, and a list of the names that
it requires; both can be missing. -/
structure Describes (store : Store) (address : Nat) (members : Fields String Slot) (names : List String) : Prop where
  inside : address < store.size
  declares : store.Declares members (Fields.get? (store.cell address) "properties")
  apart : ∀ {place}, Fields.get? (store.cell address) "properties" = some (.node place) →
    place ≠ address ∧ place < store.size
  required : Fields.get? (store.cell address) "required" = none ∧ names = [] ∨
    Fields.get? (store.cell address) "required" = some (.array (names.map .string))
  distinct : (Fields.keys members).Nodup

variable {store : Store} {address : Nat} {members : Fields String Slot} {names : List String}
  {declared : Option Slot}

theorem Declares.filter (declares : store.Declares members declared) :
    store.Declares members (declared.filter store.isTruthy) := by
  cases declares with
  | absent empty => exact .absent empty
  | @node place cell =>
      rw [Option.filter_some]
      split
      · exact .node cell
      · next empty =>
          simp only [isTruthy, cell, Bool.not_eq_true', Bool.not_eq_false, List.isEmpty_iff] at empty
          exact .absent (List.map_eq_nil_iff.mp empty)

theorem Describes.properties (describes : store.Describes address members names) :
    ∃ declared, outcome (Builder.properties address) store = (.ok declared, store) ∧
      store.Declares members declared :=
  ⟨_, Builder.outcome_properties address store, describes.declares.filter⟩

/-- The store in which the schema at an address requires other names. -/
def withNames (store : Store) (address : Nat) (names : List String) : Store :=
  store.replace address (Builder.withRequired (store.cell address) (names.map .string))

/-- The store in which the schema at an address has new properties, in a new object. -/
def withMembers (store : Store) (address : Nat) (members : Fields String Slot) : Store :=
  (store.push (Cell.named members)).replace address
    (Fields.put ((store.push (Cell.named members)).cell address) "properties" (.node store.size))

/-- The store in which an object has a member of a name. -/
def withMember (store : Store) (place : Nat) (name : String) (slot : Slot) : Store :=
  store.replace place (Fields.put (store.cell place) (.text name) slot)

@[simp] theorem size_withNames : (store.withNames address names).size = store.size := by
  simp [withNames]

@[simp] theorem size_withMembers : (store.withMembers address members).size = store.size + 1 := by
  simp [withMembers]

@[simp] theorem size_withMember {place : Nat} {name : String} {slot : Slot} :
    (store.withMember place name slot).size = store.size := by
  simp [withMember]

theorem cell_withNames (inside : address < store.size) (names : List String) (other : Nat) :
    (store.withNames address names).cell other =
      if address = other then Builder.withRequired (store.cell address) (names.map .string)
      else store.cell other :=
  cell_replace store address other _ inside

theorem cell_withMembers (inside : address < store.size) (members : Fields String Slot) (other : Nat) :
    (store.withMembers address members).cell other =
      if address = other then Fields.put (store.cell address) "properties" (.node store.size)
      else if other = store.size then Cell.named members else store.cell other := by
  rw [withMembers, cell_replace _ _ _ _ (by rw [size_push]; omega), cell_push, cell_push,
    if_neg (Nat.ne_of_lt inside)]

theorem cell_withMember {place : Nat} (inside : place < store.size) (name : String) (slot : Slot) (other : Nat) :
    (store.withMember place name slot).cell other =
      if place = other then Fields.put (store.cell place) (.text name) slot else store.cell other :=
  cell_replace store place other _ inside

theorem ext_cells {later : Store} (size : store.size = later.size)
    (cells : ∀ other, store.cell other = later.cell other) : store = later := by
  rcases store with ⟨first⟩
  rcases later with ⟨second⟩
  congr 1
  refine Array.ext size fun place inside inside' => ?_
  simpa [cell, inside, inside'] using cells place

/-- Requiring nothing of a schema that requires nothing changes nothing. -/
theorem withNames_nil (inside : address < store.size)
    (missing : Fields.get? (store.cell address) "required" = none) : store.withNames address [] = store := by
  refine ext_cells size_withNames fun other => ?_
  rw [cell_withNames inside]
  split
  · next same => exact same ▸ Fields.erase_of_get?_eq_none missing
  · rfl

theorem Describes.withNames (describes : store.Describes address members names) (names' : List String) :
    (store.withNames address names').Describes address members names' := by
  have own := cell_withNames describes.inside names' address
  rw [if_pos rfl] at own
  constructor
  · rw [size_withNames]
    exact describes.inside
  · rw [own, Builder.get?_withRequired, if_neg (by simp)]
    cases found : Fields.get? (store.cell address) "properties" with
    | none =>
        have declares := describes.declares
        rw [found] at declares
        cases declares with
        | absent empty => exact .absent empty
    | some slot =>
        have declares := describes.declares
        rw [found] at declares
        cases declares with
        | @node place cell =>
            refine .node ?_
            rw [cell_withNames describes.inside, if_neg (Ne.symm (describes.apart found).1), cell]
  · intro place found
    rw [own, Builder.get?_withRequired, if_neg (by simp)] at found
    rw [size_withNames]
    exact describes.apart found
  · rw [own, Builder.get?_withRequired, if_pos rfl]
    cases names' with
    | nil => exact .inl ⟨rfl, rfl⟩
    | cons name rest => exact .inr rfl
  · exact describes.distinct

theorem Describes.withMembers (describes : store.Describes address members names)
    {members' : Fields String Slot} (distinct : (Fields.keys members').Nodup) :
    (store.withMembers address members').Describes address members' names := by
  have own := cell_withMembers describes.inside members' address
  rw [if_pos rfl] at own
  constructor
  · rw [size_withMembers]
    exact Nat.lt_succ_of_lt describes.inside
  · rw [own, Fields.get?_put_self]
    refine .node ?_
    rw [cell_withMembers describes.inside, if_neg (Nat.ne_of_lt describes.inside), if_pos rfl]
  · intro place found
    rw [own, Fields.get?_put_self] at found
    obtain rfl : store.size = place := by simpa using found
    exact ⟨Nat.ne_of_gt describes.inside, by rw [size_withMembers]; omega⟩
  · rw [own, Fields.get?_put, if_neg (by simp)]
    exact describes.required
  · exact distinct

/-- A member that is there is in an object of its own. -/
theorem Describes.place (describes : store.Describes address members names) {name : String}
    (held : Fields.has members name = true) :
    ∃ place, Fields.get? (store.cell address) "properties" = some (.node place) := by
  have declares := describes.declares
  cases found : Fields.get? (store.cell address) "properties" with
  | none =>
      rw [found] at declares
      cases declares with
      | absent empty => simp [empty, Fields.has] at held
  | some slot =>
      rw [found] at declares
      cases declares with
      | node cell => exact ⟨_, rfl⟩

theorem Describes.cell (describes : store.Describes address members names) {place : Nat}
    (found : Fields.get? (store.cell address) "properties" = some (.node place)) :
    store.cell place = Cell.named members := by
  have declares := describes.declares
  rw [found] at declares
  cases declares with
  | node cell => exact cell

theorem Describes.withMember (describes : store.Describes address members names) {place : Nat}
    (found : Fields.get? (store.cell address) "properties" = some (.node place)) (name : String) (slot : Slot) :
    (store.withMember place name slot).Describes address (Fields.put members name slot) names := by
  obtain ⟨apart, inside⟩ := describes.apart found
  have own := cell_withMember inside name slot address
  rw [if_neg apart] at own
  have cell := describes.cell found
  constructor
  · rw [size_withMember]
    exact describes.inside
  · rw [own, found]
    refine .node ?_
    rw [cell_withMember inside, if_pos rfl, cell, Cell.put_named]
  · intro other found'
    rw [own] at found'
    rw [size_withMember]
    exact describes.apart found'
  · rw [own]
    exact describes.required
  · exact Fields.nodup_keys_put describes.distinct

theorem Describes.extend {later : Store} (describes : store.Describes address members names)
    (extends' : store.Extends later) : later.Describes address members names := by
  have own := extends'.cells address describes.inside
  constructor
  · exact Nat.lt_of_lt_of_le describes.inside extends'.size
  · rw [own]
    have declares := describes.declares
    cases found : Fields.get? (store.cell address) "properties" with
    | none =>
        rw [found] at declares
        cases declares with
        | absent empty => exact .absent empty
    | some slot =>
        rw [found] at declares
        cases declares with
        | @node place cell =>
            refine .node ?_
            rw [extends'.cells place (describes.apart found).2, cell]
  · rw [own]
    intro place found
    obtain ⟨apart, inside⟩ := describes.apart found
    exact ⟨apart, Nat.lt_of_lt_of_le inside extends'.size⟩
  · rw [own]
    exact describes.required
  · exact describes.distinct

end Store

namespace Builder

variable {store : Store} {address : Nat} {members : Fields String Slot} {names : List String}
  {declared : Option Slot}

theorem outcome_keyOf_string (name : String) (store : Store) :
    outcome (Change.keyOf (.string name)) store = (.ok (.text name), store) :=
  rfl

theorem spelled_text (cell : Cell) (name : String) : spelled cell (.text name) = .text name :=
  Key.spelledIn_text name _

/-- Whether an object of properties holds a name. -/
theorem outcome_holds_node (place : Nat) (name : String) (store : Store) :
    outcome (holds (some (.node place)) (.string name)) store =
      (.ok (Fields.has (store.cell place) (.text name)), store) := by
  rw [holds, outcome_bind_ok (Change.outcome_cell _ _), outcome_bind_ok (outcome_keyOf_string name store), outcome_pure,
    spelled_text]

/-- What a name that is held leads to in an object of properties. -/
theorem outcome_member_node {place : Nat} {name : String} {slot : Slot}
    (found : Fields.get? (store.cell place) (.text name) = some slot) :
    outcome (member (some (.node place)) (.string name)) store = (.ok slot, store) := by
  rw [member, outcome_bind_ok (Change.outcome_cell _ _), outcome_bind_ok (outcome_keyOf_string name store)]
  simp only [spelled_text, found, outcome_pure]

theorem outcome_holds (declares : store.Declares members declared) (name : String) :
    outcome (holds declared (.string name)) store = (.ok (Fields.has members name), store) := by
  cases declares with
  | absent empty =>
      subst empty
      rfl
  | node cell => rw [outcome_holds_node, cell, Cell.has_named]

theorem outcome_member (declares : store.Declares members declared) {name : String} {slot : Slot}
    (found : Fields.get? members name = some slot) :
    outcome (member declared (.string name)) store = (.ok slot, store) := by
  cases declares with
  | absent empty => simp [empty] at found
  | node cell => exact outcome_member_node (by rw [cell, Cell.get?_named, found])

theorem outcome_items (declares : store.Declares members declared) :
    outcome (items declared) store = (.ok ((Fields.keys members).map .string), store) := by
  cases declares with
  | absent empty =>
      subst empty
      rfl
  | node cell =>
      rw [items, outcome_bind_ok (Change.outcome_cell _ _), cell, outcome_pure, Cell.keys_named, List.map_map]
      rfl

theorem outcome_required (describes : store.Describes address members names) :
    outcome (required address) store = (.ok (names.map .string), store) := by
  rw [required, outcome_bind_ok (Change.outcome_present? address "required" store)]
  rcases describes.required with ⟨missing, rfl⟩ | found
  · rw [missing]
    rfl
  · rw [found, Option.filter_some]
    split
    · rfl
    · next empty =>
        cases names with
        | nil => rfl
        | cons name rest => simp [Store.isTruthy, Slot.face, Slot.itemFaces, Json.isTruthy] at empty

theorem isLike_string (store : Store) (name other : String) :
    Change.isLike store (.string name) (.string other) = decide (other = name) := by
  simp [Change.isLike, Store.tree?, Slot.tree?, Json.agrees]

theorem any_isLike (store : Store) (name : String) (names : List String) :
    ((names.map Slot.string).any (Change.isLike store (.string name))) = decide (name ∈ names) := by
  rw [Bool.eq_iff_iff, List.any_map, List.any_eq_true, decide_eq_true_iff]
  simp [isLike_string]

theorem outcome_lists_string (names : List String) (name : String) (store : Store) :
    outcome (Change.lists (names.map .string) (.string name)) store = (.ok (decide (name ∈ names)), store) := by
  rw [Change.outcome_lists, any_isLike]

theorem outcome_others_string (names : List String) (name : String) (store : Store) :
    outcome (others (.string name) (names.map .string)) store =
      (.ok ((names.filter (· ≠ name)).map .string), store) := by
  rw [outcome_others, List.filter_map]
  simp only [Function.comp_def, isLike_string, ← decide_not]

theorem outcome_among_string (names picked : List String) (store : Store) :
    outcome (among (picked.map .string) (names.map .string)) store =
      (.ok ((names.filter (· ∈ picked)).map .string), store) := by
  rw [outcome_among, List.filter_map]
  congr 4
  funext name
  rw [Function.comp_apply, Bool.eq_iff_iff, List.any_map, List.any_eq_true, decide_eq_true_iff]
  simp [isLike_string]

theorem outcome_setRequired_string (address : Nat) (names : List String) (store : Store) :
    outcome (setRequired address (names.map .string)) store = (.ok (), store.withNames address names) :=
  outcome_setRequired address _ store

theorem outcome_place_string (name : String) (store : Store) :
    outcome (Change.place (.string name)) store = (.ok (.string name), store) :=
  rfl

theorem outcome_mapM_keyOf (names : List String) (store : Store) :
    outcome ((names.map Json.string).mapM Change.keyOf) store = (.ok (names.map .text), store) := by
  rw [List.mapM_map]
  exact outcome_mapM fun name _ => outcome_keyOf_string name store

theorem outcome_keysOf_string (names : List String) (store : Store) :
    outcome (keysOf (names.map .string)) store = (.ok (names.map .text), store) := by
  rw [keysOf, List.mapM_map]
  exact outcome_mapM fun name _ => outcome_keyOf_string name store

theorem without_text (names keys : List String) :
    without (names.map .text) (keys.map .text) = (keys.filter (· ∉ names)).map .text := by
  rw [without, List.filter_map]
  congr 2
  funext key
  rw [Function.comp_apply, Bool.eq_iff_iff]
  simp only [Bool.not_eq_true', List.any_eq_false, List.forall_mem_map, Key.alike_text, Key.text.injEq,
    decide_eq_true_eq]
  exact ⟨fun different member => different key member rfl, fun missing name member same => missing (same ▸ member)⟩

theorem outcome_listed_string (name : String) (names : List String) (store : Store) :
    outcome (listed (.text name) (names.map .string)) store =
      (.ok ((if name ∈ names then names else names ++ [name]).map .string), store) := by
  have found := outcome_lists_string names name store
  rw [listed, Key.toJson, outcome_bind_ok found]
  by_cases member : name ∈ names
  · simp [member]
  · simp [member, Key.toSlot]

theorem outcome_eraseFirst_string (name : String) (names : List String) (store : Store) :
    outcome (eraseFirst (.string name) (names.map .string)) store = (.ok ((names.erase name).map .string), store) := by
  induction names with
  | nil => rfl
  | cons other rest ih =>
      rw [List.map_cons, eraseFirst, outcome_bind_ok (Change.outcome_agrees _ _ _), isLike_string, List.erase_cons]
      by_cases same : other = name
      · simp [same]
      · simp only [same, decide_false, Bool.false_eq_true, if_false, beq_iff_eq]
        rw [outcome_bind_ok ih]
        rfl

theorem outcome_addNames_string (chosen names : List String) (store : Store) :
    outcome (addNames (chosen.map .string) (names.map .string)) store =
      (.ok ((names ++ (chosen.filter (· ∉ names)).eraseDups).map .string), store) := by
  induction chosen generalizing names with
  | nil => simp [addNames]
  | cons name rest ih =>
      rw [List.map_cons, addNames, outcome_bind_ok (outcome_lists_string names name store)]
      by_cases member : name ∈ names
      · simp only [member, decide_true, if_true, ih, not_true_eq_false, decide_false, Bool.false_eq_true,
          not_false_eq_true, List.filter_cons_of_neg]
      · simp only [member, decide_false, Bool.false_eq_true, if_false, not_false_eq_true, decide_true,
          List.filter_cons_of_pos, List.eraseDups_cons]
        rw [outcome_bind_ok (outcome_place_string name store)]
        have more := ih (names ++ [name])
        rw [List.map_append] at more
        rw [List.map_singleton] at more
        rw [more, List.append_assoc, List.singleton_append, List.filter_filter]
        congr 6
        refine List.filter_congr fun other _ => ?_
        simp [beq_eq_decide, and_comm]

/-- Names that a check of picked names lets pass are there. -/
theorem present_of_requirePicked {names : List String} (declares : store.Declares members declared)
    (ran : outcome (requirePicked address declared (names.map .string)) store = (.ok (), store)) :
    ∀ name ∈ names, Fields.has members name = true := by
  induction names with
  | nil => simp
  | cons name rest ih =>
      rw [List.map_cons, requirePicked, outcome_bind_ok (outcome_holds declares name)] at ran
      by_cases here : Fields.has members name = true
      · rw [if_pos here] at ran
        exact List.forall_mem_cons.mpr ⟨here, ih ran⟩
      · rw [if_neg here] at ran
        obtain ⟨shown, -, ran⟩ := (Change.looks_shown _).same.bind_eq_ok.mp ran
        obtain ⟨owner, -, ran⟩ := (Change.looks_owner address).same.bind_eq_ok.mp ran
        simp at ran

theorem present_of_requireExisting {operation : String} {names chosen : List String}
    (describes : store.Describes address members names)
    (ran : outcome (requireExisting address operation (chosen.map .string)) store = (.ok (), store)) :
    ∀ name ∈ chosen, Fields.has members name = true := by
  induction chosen with
  | nil => simp
  | cons name rest ih =>
      obtain ⟨declared, looked, declares⟩ := describes.properties
      rw [List.map_cons, requireExisting, outcome_bind_ok looked, outcome_bind_ok (outcome_holds declares name)] at ran
      by_cases here : Fields.has members name = true
      · rw [if_pos here] at ran
        exact List.forall_mem_cons.mpr ⟨here, ih ran⟩
      · rw [if_neg here] at ran
        obtain ⟨shown, -, ran⟩ := (Change.looks_shown _).same.bind_eq_ok.mp ran
        obtain ⟨owner, -, ran⟩ := (Change.looks_owner address).same.bind_eq_ok.mp ran
        simp at ran

/-- Selecting members that are there restricts to their names, after what was selected before. -/
theorem outcome_selected {names : List String} (declares : store.Declares members declared)
    (present : ∀ name ∈ names, Fields.has members name = true) :
    ∀ {before : Fields String Slot}, (∀ entry ∈ before, Fields.get? members entry.1 = some entry.2) →
      outcome (selected declared (names.map .string) (Cell.named before)) store =
        (.ok (Cell.named (before ++ Fields.restrict members (names.filter (· ∉ Fields.keys before)))), store) := by
  induction names with
  | nil => simp [selected]
  | cons name rest ih =>
      intro before agree
      obtain ⟨here, later⟩ := List.forall_mem_cons.mp present
      obtain ⟨slot, found⟩ := Option.isSome_iff_exists.mp here
      rw [List.map_cons, selected, outcome_bind_ok (outcome_member declares found),
        outcome_bind_ok (outcome_keyOf_string name store), Cell.spelled_named, Cell.put_named]
      have agree' : ∀ entry ∈ Fields.put before name slot, Fields.get? members entry.1 = some entry.2 := by
        intro entry member
        rcases Fields.mem_put member with rfl | member
        · exact found
        · exact agree entry member
      rw [ih later agree']
      by_cases old : name ∈ Fields.keys before
      · have same : Fields.put before name slot = before := by
          obtain ⟨value, held⟩ := Option.isSome_iff_exists.mp ((Fields.has_iff_mem_keys before name).mpr old)
          have equal := agree _ (Fields.mem_of_get? held)
          obtain rfl : value = slot := Option.some.inj (equal.symm.trans found)
          exact Fields.put_of_get? held
        simp [same, old]
      · have new : Fields.put before name slot = before ++ [(name, slot)] :=
          Fields.put_of_get?_eq_none ((Fields.get?_eq_none_iff before name).mpr old)
        rw [new, List.filter_cons_of_pos (by simpa using old), Fields.restrict_cons found, List.append_assoc,
          List.singleton_append, List.filter_filter]
        have keys : Fields.keys (before ++ [(name, slot)]) = Fields.keys before ++ [name] := by
          simp [Fields.keys]
        congr 6
        refine List.filter_congr fun other _ => ?_
        simp [keys, and_comm]

/-- A store in which the properties of a schema are an object at a place: the store itself, or with a new empty
object. -/
structure Owns (store owning : Store) (address place : Nat) (members : Fields String Slot) (names : List String) :
    Prop where
  describes : owning.Describes address members names
  found : Fields.get? (owning.cell address) "properties" = some (.node place)
  kept : ∀ other, Fields.get? (store.cell address) "properties" = some (.node other) → other = place
  made : owning = store ∨ members = [] ∧ owning = store.withMembers address []

theorem outcome_ownProperties (describes : store.Describes address members names) :
    ∃ place owning, outcome (ownProperties address) store = (.ok (.node place), owning) ∧
      Owns store owning address place members names := by
  rw [ownProperties, outcome_bind_ok (Change.outcome_cell address store)]
  have declares := describes.declares
  cases found : Fields.get? (store.cell address) "properties" with
  | some slot =>
      rw [found] at declares
      cases declares with
      | @node place cell =>
          refine ⟨place, store, rfl, describes, found, fun other same => ?_, .inl rfl⟩
          exact (Slot.node.inj (Option.some.inj (found.symm.trans same))).symm
  | none =>
      rw [found] at declares
      cases declares with
      | absent empty =>
          subst empty
          refine ⟨store.size, store.withMembers address [], rfl, describes.withMembers List.nodup_nil, ?_, ?_, .inr ⟨rfl, rfl⟩⟩
          · rw [Store.cell_withMembers describes.inside, if_pos rfl, Fields.get?_put_self]
          · intro other same
            cases found.symm.trans same

/-- Setting a property of a schema whose properties are an object. -/
theorem outcome_assign {place : Nat} (found : Fields.get? (store.cell address) "properties" = some (.node place))
    (name : String) (slot : Slot) :
    outcome (assign address (.string name) slot) store = (.ok (), store.withMember place name slot) := by
  rw [assign, outcome_bind_ok (Change.outcome_cell address store), found]
  simp only
  rw [outcome_bind_ok (Change.outcome_cell place store), outcome_bind_ok (outcome_keyOf_string name store),
    Change.outcome_put, spelled_text]
  rfl

end Builder

end SchemaAlgebra
