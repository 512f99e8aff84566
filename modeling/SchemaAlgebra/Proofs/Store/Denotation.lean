import SchemaAlgebra.Proofs.Fields
import SchemaAlgebra.Proofs.Store.Reading

/-!
Denotation. A slot denotes a value, an object the entries of one, whatever the depth. Two stores that
agree on all objects that can be reached from a slot give it the same value; so do a store and one that
extends it.
-/

namespace SchemaAlgebra

/-- A slot denotes a value. -/
def Store.Denotes (store : Store) (slot : Slot) (value : Json) : Prop :=
  ∃ steps, slot.tree? (store.treeWithin steps) = some value

/-- The entries of an object denote the entries of a value. -/
def Store.DenotesAll (store : Store) (cell : Cell) (fields : List (Key × Json)) : Prop :=
  List.Forall₂ (fun entry field => entry.1 = field.1 ∧ store.Denotes entry.2 field.2) cell fields

namespace Store

variable {store later : Store} {slot : Slot} {value : Json}

theorem Denotes.mono {steps more : Nat} (less : steps ≤ more)
    (read : slot.tree? (store.treeWithin steps) = some value) :
    slot.tree? (store.treeWithin more) = some value :=
  Slot.tree?_of_follow slot (fun address _ => treeWithin_mono less address) value read

theorem Denotes.unique {value' : Json} (first : store.Denotes slot value)
    (second : store.Denotes slot value') : value = value' := by
  obtain ⟨steps, read⟩ := first
  obtain ⟨steps', read'⟩ := second
  have := (Denotes.mono (Nat.le_max_left steps steps') read).symm.trans
    (Denotes.mono (Nat.le_max_right steps steps') read')
  exact Option.some.inj this

theorem denotesAll_iff {cell : Cell} {fields : List (Key × Json)} :
    store.DenotesAll cell fields ↔ ∃ steps, cell.trees? (store.treeWithin steps) = some fields := by
  constructor
  · intro each
    induction each with
    | nil => exact ⟨0, rfl⟩
    | cons first _ ih =>
        obtain ⟨same, steps, read⟩ := first
        obtain ⟨steps', read'⟩ := ih
        refine ⟨max steps steps', Cell.trees?_eq_some.mpr (.cons ⟨same, ?_⟩ ?_)⟩
        · exact Denotes.mono (Nat.le_max_left _ _) read
        · exact (Cell.trees?_eq_some.mp read').imp fun entry field read =>
            ⟨read.1, Denotes.mono (Nat.le_max_right _ _) read.2⟩
  · rintro ⟨steps, read⟩
    exact (Cell.trees?_eq_some.mp read).imp fun entry field read => ⟨read.1, steps, read.2⟩

theorem denotes_node {address : Nat} :
    store.Denotes (.node address) value ↔
      ∃ fields, value = .object fields ∧ store.DenotesAll (store.cell address) fields := by
  simp only [denotesAll_iff]
  constructor
  · rintro ⟨steps, read⟩
    cases steps with
    | zero => simp [Slot.tree?, treeWithin] at read
    | succ steps =>
        obtain ⟨fields, entries, rfl⟩ := Option.map_eq_some_iff.mp read
        exact ⟨fields, rfl, steps, entries⟩
  · rintro ⟨fields, rfl, steps, read⟩
    exact ⟨steps + 1, Option.map_eq_some_iff.mpr ⟨fields, read, rfl⟩⟩

theorem denotes_array {items : List Slot} :
    store.Denotes (.array items) value ↔
      ∃ values, value = .array values ∧ List.Forall₂ store.Denotes items values := by
  constructor
  · rintro ⟨steps, read⟩
    obtain ⟨values, rfl, each⟩ := Slot.tree?_array.mp read
    exact ⟨values, rfl, each.imp fun _ _ read => ⟨steps, read⟩⟩
  · rintro ⟨values, rfl, each⟩
    suffices ∃ steps, List.Forall₂ (fun item value => item.tree? (store.treeWithin steps) = some value)
        items values by
      obtain ⟨steps, each⟩ := this
      exact ⟨steps, Slot.tree?_array.mpr ⟨values, rfl, each⟩⟩
    induction each with
    | nil => exact ⟨0, .nil⟩
    | cons first _ ih =>
        obtain ⟨steps, read⟩ := first
        obtain ⟨steps', read'⟩ := ih
        refine ⟨max steps steps', .cons (Denotes.mono (Nat.le_max_left _ _) read) ?_⟩
        exact read'.imp fun _ _ => Denotes.mono (Nat.le_max_right _ _)

/-- What is no container denotes itself. -/
theorem denotes_scalar (same : ∀ follow, slot.tree? follow = some slot.face) :
    store.Denotes slot value ↔ value = slot.face := by
  constructor
  · rintro ⟨steps, read⟩
    rw [same] at read
    exact (Option.some.inj read).symm
  · rintro rfl
    exact ⟨0, same _⟩

@[simp] theorem denotes_string {text : String} :
    store.Denotes (.string text) value ↔ value = .string text :=
  denotes_scalar fun _ => rfl

@[simp] theorem denotes_bool {b : Bool} : store.Denotes (.bool b) value ↔ value = .bool b :=
  denotes_scalar fun _ => rfl

theorem Denotes.eq_string {text : String} (denotes : store.Denotes slot (.string text)) : slot = .string text := by
  cases slot with
  | array items => simp [denotes_array] at denotes
  | node address => simp [denotes_node] at denotes
  | string other => simpa [eq_comm] using denotes
  | _ => exact nomatch (denotes_scalar fun _ => rfl).mp denotes

theorem Denotes.eq_bool {b : Bool} (denotes : store.Denotes slot (.bool b)) : slot = .bool b := by
  cases slot with
  | array items => simp [denotes_array] at denotes
  | node address => simp [denotes_node] at denotes
  | bool other => simpa [eq_comm] using denotes
  | _ => exact nomatch (denotes_scalar fun _ => rfl).mp denotes

theorem Denotes.eq_node {fields : List (Key × Json)} (denotes : store.Denotes slot (.object fields)) :
    ∃ address, slot = .node address ∧ store.DenotesAll (store.cell address) fields := by
  cases slot with
  | array items => simp [denotes_array] at denotes
  | node address =>
      obtain ⟨_, ⟨⟩, each⟩ := denotes_node.mp denotes
      exact ⟨address, rfl, each⟩
  | _ => exact nomatch (denotes_scalar fun _ => rfl).mp denotes

theorem Denotes.eq_array {values : List Json} (denotes : store.Denotes slot (.array values)) :
    ∃ items, slot = .array items ∧ List.Forall₂ store.Denotes items values := by
  cases slot with
  | array items =>
      obtain ⟨_, ⟨⟩, each⟩ := denotes_array.mp denotes
      exact ⟨items, rfl, each⟩
  | node address => simp [denotes_node] at denotes
  | _ => exact nomatch (denotes_scalar fun _ => rfl).mp denotes

theorem Denotes.eq_strings {texts : List String} (denotes : store.Denotes slot (.array (texts.map .string))) :
    slot = .array (texts.map .string) := by
  obtain ⟨items, rfl, each⟩ := denotes.eq_array
  clear denotes
  congr 1
  induction texts generalizing items with
  | nil => exact List.forall₂_nil_right_iff.mp each
  | cons text rest ih =>
      rw [List.map_cons] at each
      obtain ⟨item, others, first, each', rfl⟩ := List.forall₂_cons_right_iff.mp each
      rw [List.map_cons, first.eq_string, ih others each']

/-- What a slot denotes is what is seen of it, unless either is a container. -/
theorem Denotes.face (denotes : store.Denotes slot value) :
    value = slot.face ∨ value.isContainer = true ∧ slot.face.isContainer = true := by
  cases slot with
  | node address =>
      obtain ⟨_, rfl, -⟩ := denotes_node.mp denotes
      exact .inr ⟨rfl, rfl⟩
  | array items =>
      obtain ⟨_, rfl, -⟩ := denotes_array.mp denotes
      exact .inr ⟨rfl, rfl⟩
  | _ => exact .inl ((denotes_scalar fun _ => rfl).mp denotes)

theorem DenotesAll.keys {cell : Cell} {fields : List (Key × Json)} (denotes : store.DenotesAll cell fields) :
    Fields.keys cell = Fields.keys fields :=
  Fields.Rel.keys denotes

theorem exists_of_forall₂ {α β : Type} {r : α → β → Prop} {items : List α} {others : List β} {other : β}
    (related : List.Forall₂ r items others) (listed : other ∈ others) : ∃ item ∈ items, r item other := by
  induction related with
  | nil => exact absurd listed List.not_mem_nil
  | cons first _ ih =>
      rcases List.mem_cons.mp listed with rfl | listed
      · exact ⟨_, List.mem_cons_self, first⟩
      · obtain ⟨item, among, holds⟩ := ih listed
        exact ⟨item, List.mem_cons_of_mem _ among, holds⟩

/-- An object holds a key exactly if the value that it denotes does, and there what is denoted. -/
theorem DenotesAll.get? {cell : Cell} {fields : List (Key × Json)} (denotes : store.DenotesAll cell fields) (key : Key) :
    (Fields.get? cell key = none ∧ Fields.get? fields key = none) ∨ ∃ slot value,
      Fields.get? cell key = some slot ∧ Fields.get? fields key = some value ∧ store.Denotes slot value :=
  Fields.Rel.get? denotes key

/-- The address of an object leads to that of another, if objects name each other so. -/
def Leads (store : Store) : Nat → Nat → Prop :=
  Relation.ReflTransGen fun address other => other ∈ (store.cell address).addresses

theorem isSome_treeWithin_of_leads {steps address other : Nat} (leads : store.Leads address other)
    (read : (store.treeWithin steps address).isSome = true) : (store.treeWithin steps other).isSome = true := by
  induction leads with
  | refl => exact read
  | tail _ named ih =>
      cases steps with
      | zero => simp [treeWithin] at ih
      | succ steps =>
          exact isSome_treeWithin_mono (Nat.le_succ steps) ((isSome_treeWithin_succ _ _).mp ih _ named)

/-- A finite object is not inside itself. -/
theorem Denotes.acyclic {address other : Nat} (denotes : store.Denotes (.node address) value)
    (named : other ∈ (store.cell address).addresses) : ¬ store.Leads other address := by
  intro leads
  have endless : ∀ steps, (store.treeWithin steps address).isSome = false := by
    intro steps
    induction steps with
    | zero => rfl
    | succ steps ih =>
        by_contra read
        rw [Bool.not_eq_false, isSome_treeWithin_succ] at read
        simp [isSome_treeWithin_of_leads leads (read other named)] at ih
  obtain ⟨steps, read⟩ := denotes
  have none := endless steps
  simp only [Slot.tree?] at read
  simp [read] at none

/-- What a finite object leads to is finite. -/
theorem Denotes.of_leads {address other : Nat} (denotes : store.Denotes (.node address) value)
    (leads : store.Leads address other) : ∃ value', store.Denotes (.node other) value' := by
  obtain ⟨steps, read⟩ := denotes
  have start : (store.treeWithin steps address).isSome = true := congrArg Option.isSome read
  have found := isSome_treeWithin_of_leads leads start
  obtain ⟨value', read'⟩ := Option.isSome_iff_exists.mp found
  exact ⟨value', steps, read'⟩

/-- No object of a kind can be reached from a slot. -/
def Apart (store : Store) (avoided : Nat → Prop) (slot : Slot) : Prop :=
  ∀ address ∈ slot.addresses, ∀ other, store.Leads address other → ¬ avoided other

/-- Outside some objects two stores are the same. -/
def AgreesOff (store later : Store) (changed : Nat → Prop) : Prop :=
  ∀ address, ¬ changed address → later.cell address = store.cell address

variable {changed : Nat → Prop}

theorem Apart.item {items : List Slot} (apart : store.Apart changed (.array items)) {item : Slot}
    (member : item ∈ items) : store.Apart changed item :=
  fun address named => apart address (Slot.mem_itemAddresses.mpr ⟨item, member, named⟩)

theorem Apart.not_changed {address : Nat} (apart : store.Apart changed (.node address)) :
    ¬ changed address :=
  apart address (by simp [Slot.addresses]) address .refl

theorem Apart.entry {address : Nat} (apart : store.Apart changed (.node address)) {entry : Key × Slot}
    (member : entry ∈ store.cell address) : store.Apart changed entry.2 := by
  intro other named further leads
  refine apart address (by simp [Slot.addresses]) further (.head ?_ leads)
  exact Cell.mem_addresses.mpr ⟨entry, member, named⟩

theorem apart_node {address : Nat} : store.Apart changed (.node address) ↔
    ¬ changed address ∧ ∀ entry ∈ store.cell address, store.Apart changed entry.2 := by
  constructor
  · exact fun apart => ⟨apart.not_changed, fun entry => apart.entry⟩
  · rintro ⟨own, each⟩ start named other leads
    obtain rfl : start = address := by simpa [Slot.addresses] using named
    rcases Relation.ReflTransGen.cases_head leads with rfl | ⟨next, named, leads⟩
    · exact own
    · obtain ⟨entry, member, named⟩ := Cell.mem_addresses.mp named
      exact each entry member next named other leads

theorem apart_array {items : List Slot} :
    store.Apart changed (.array items) ↔ ∀ item ∈ items, store.Apart changed item := by
  constructor
  · exact fun apart item => apart.item
  · intro each address named
    obtain ⟨item, member, named⟩ := Slot.mem_itemAddresses.mp named
    exact each item member address named

/-- From an object that is apart from the changed ones, the same objects can be reached. -/
theorem leads_of_agreesOff (agrees : store.AgreesOff later changed) {address other : Nat}
    (apart : ∀ other, store.Leads address other → ¬ changed other) (leads : later.Leads address other) :
    store.Leads address other := by
  induction leads with
  | refl => exact .refl
  | tail _ named ih =>
      rw [agrees _ (apart _ ih)] at named
      exact ih.tail named

theorem Apart.agree (agrees : store.AgreesOff later changed) (apart : store.Apart changed slot) :
    later.Apart changed slot :=
  fun address named other leads => apart address named other
    (leads_of_agreesOff agrees (apart address named) leads)

theorem treeWithin_of_agreesOff (agrees : store.AgreesOff later changed) (steps : Nat) :
    ∀ address, (∀ other, store.Leads address other → ¬ changed other) →
      ∀ value, store.treeWithin steps address = some value → later.treeWithin steps address = some value := by
  induction steps with
  | zero => intro address _ value read; simp [treeWithin] at read
  | succ steps ih =>
      intro address apart value read
      simp only [treeWithin, Option.map_eq_some_iff, Cell.trees?_eq_some] at read ⊢
      obtain ⟨fields, each, rfl⟩ := read
      rw [agrees address (apart address .refl)]
      refine ⟨fields, ?_, rfl⟩
      refine (List.forall₂_and_left ..).mpr ⟨fun entry member => member, each⟩ |>.imp ?_
      rintro entry field ⟨member, same, read⟩
      refine ⟨same, Slot.tree?_of_follow entry.2 (fun other named => ih other fun further leads => ?_) _ read⟩
      exact apart further (.head (Cell.mem_addresses.mpr ⟨entry, member, named⟩) leads)

/-- A slot denotes what it denoted, if nothing that can be reached from it was changed. -/
theorem Denotes.agree (agrees : store.AgreesOff later changed) (apart : store.Apart changed slot)
    (denotes : store.Denotes slot value) : later.Denotes slot value := by
  obtain ⟨steps, read⟩ := denotes
  exact ⟨steps, Slot.tree?_of_follow slot (fun address named =>
    treeWithin_of_agreesOff agrees steps address (apart address named)) value read⟩

end Store

/-- All addresses that a slot names are below a bound. -/
def Slot.Within (bound : Nat) (slot : Slot) : Prop :=
  ∀ address ∈ slot.addresses, address < bound

/-- All addresses that an object names are below a bound. -/
def Cell.Within (bound : Nat) (cell : Cell) : Prop :=
  ∀ entry ∈ cell, entry.2.Within bound

theorem Slot.Within.mono {bound more : Nat} {slot : Slot} (within : slot.Within bound)
    (less : bound ≤ more) : slot.Within more :=
  fun address named => Nat.lt_of_lt_of_le (within address named) less

theorem Cell.Within.mono {bound more : Nat} {cell : Cell} (within : cell.Within bound)
    (less : bound ≤ more) : cell.Within more :=
  fun entry member => (within entry member).mono less

@[simp] theorem Slot.within_node {bound address : Nat} :
    (Slot.node address).Within bound ↔ address < bound := by
  simp [Slot.Within, Slot.addresses]

@[simp] theorem Slot.within_array {bound : Nat} {items : List Slot} :
    (Slot.array items).Within bound ↔ ∀ item ∈ items, item.Within bound := by
  simp only [Slot.Within, Slot.addresses, Slot.mem_itemAddresses]
  constructor
  · exact fun all item member address named => all address ⟨item, member, named⟩
  · rintro each address ⟨item, member, named⟩
    exact each item member address named

theorem Slot.within_of_addresses {bound : Nat} {slot : Slot} (none : slot.addresses = []) :
    slot.Within bound := by
  simp [Slot.Within, none]

namespace Store

variable {store later : Store} {slot : Slot} {value : Json} {changed : Nat → Prop}

theorem closed_iff : store.Closed ↔ ∀ address, (store.cell address).Within store.size := by
  constructor
  · intro closed address entry member other named
    exact closed address other (Cell.mem_addresses.mpr ⟨entry, member, named⟩)
  · intro each address other named
    obtain ⟨entry, member, named⟩ := Cell.mem_addresses.mp named
    exact each address entry member other named

theorem Closed.leads (closed : store.Closed) {address other : Nat} (inside : address < store.size)
    (leads : store.Leads address other) : other < store.size := by
  induction leads with
  | refl => exact inside
  | tail _ named _ => exact closed _ _ named

/-- In a closed store the number of objects is depth enough to read anything finite. -/
theorem Closed.tree?_eq_some_iff (closed : store.Closed) (within : slot.Within store.size) :
    store.tree? slot = some value ↔ store.Denotes slot value := by
  constructor
  · exact fun read => ⟨store.size, read⟩
  · rintro ⟨steps, read⟩
    exact Slot.tree?_of_follow slot (fun address named value =>
      treeWithin_size closed (within address named)) value read

/-- A later store holds all objects of an earlier one, unchanged. -/
structure Extends (store later : Store) : Prop where
  size : store.size ≤ later.size
  cells : ∀ address < store.size, later.cell address = store.cell address

theorem Extends.refl (store : Store) : store.Extends store :=
  ⟨Nat.le_refl _, fun _ _ => rfl⟩

theorem Extends.trans {last : Store} (first : store.Extends later) (second : later.Extends last) :
    store.Extends last where
  size := Nat.le_trans first.size second.size
  cells address inside := by
    rw [second.cells address (Nat.lt_of_lt_of_le inside first.size), first.cells address inside]

theorem Extends.push (store : Store) (cell : Cell) : store.Extends (store.push cell) where
  size := by simp
  cells address inside := by rw [cell_push, if_neg (Nat.ne_of_lt inside)]

theorem Extends.agrees (extends' : store.Extends later) :
    store.AgreesOff later fun address => store.size ≤ address :=
  fun address inside => extends'.cells address (Nat.lt_of_not_le inside)

theorem Closed.apart (closed : store.Closed) (within : slot.Within store.size) :
    store.Apart (fun address => store.size ≤ address) slot :=
  fun address named _ leads => Nat.not_le_of_lt (closed.leads (within address named) leads)

theorem Denotes.extend (closed : store.Closed) (within : slot.Within store.size)
    (extends' : store.Extends later) (denotes : store.Denotes slot value) : later.Denotes slot value :=
  denotes.agree extends'.agrees (closed.apart within)

theorem DenotesAll.extend {cell : Cell} {fields : List (Key × Json)} (closed : store.Closed)
    (within : cell.Within store.size) (extends' : store.Extends later)
    (denotes : store.DenotesAll cell fields) : later.DenotesAll cell fields := by
  have both := (List.forall₂_and_left ..).mpr ⟨within, denotes⟩
  exact both.imp fun entry field ⟨within, same, denotes⟩ => ⟨same, denotes.extend closed within extends'⟩

/-- A slot is read in a closed store as in another, finite or not, if nothing that can be reached from it was changed. -/
theorem AgreesOff.tree? (agrees : store.AgreesOff later changed) (apart : store.Apart changed slot) (closed : store.Closed)
    (closed' : later.Closed) (within : slot.Within store.size) (within' : slot.Within later.size) :
    later.tree? slot = store.tree? slot := by
  refine Option.ext fun value => ?_
  rw [closed'.tree?_eq_some_iff within', closed.tree?_eq_some_iff within]
  exact ⟨fun denotes => denotes.agree (fun address same => (agrees address same).symm) (apart.agree agrees),
    fun denotes => denotes.agree agrees apart⟩

/-- A slot of a closed store is read in a later one as it was before, finite or not. -/
theorem Extends.tree? (extends' : store.Extends later) (closed : store.Closed) (closed' : later.Closed)
    (within : slot.Within store.size) : later.tree? slot = store.tree? slot :=
  extends'.agrees.tree? (closed.apart within) closed closed' within (within.mono extends'.size)

theorem closed_empty : Store.empty.Closed := by
  intro address other named
  simp [Store.cell, Store.empty, Cell.addresses] at named

theorem Closed.push (closed : store.Closed) {cell : Cell} (within : cell.Within store.size) :
    (store.push cell).Closed := by
  rw [closed_iff] at closed ⊢
  intro address
  rw [cell_push, size_push]
  split
  · exact within.mono (Nat.le_succ _)
  · exact (closed address).mono (Nat.le_succ _)

theorem cell_of_size_le {address : Nat} (outside : store.size ≤ address) : store.cell address = [] := by
  simp only [Store.cell, Array.getD_eq_getD_getElem?, Store.size] at outside ⊢
  rw [Array.getElem?_eq_none outside]
  rfl

theorem cell_replace_eq (address other : Nat) (cell : Cell) :
    (store.replace address cell).cell other =
      if address = other ∧ address < store.size then cell else store.cell other := by
  by_cases inside : address < store.size
  · rw [cell_replace store address other cell inside]
    simp [inside]
  · have same : store.replace address cell = store := by
      simp only [replace, size] at inside ⊢
      rw [Array.setIfInBounds_eq_of_size_le (Nat.le_of_not_lt inside)]
    simp [same, inside]

theorem Closed.replace (closed : store.Closed) {address : Nat} {cell : Cell}
    (within : cell.Within store.size) : (store.replace address cell).Closed := by
  rw [closed_iff] at closed ⊢
  intro other
  rw [cell_replace_eq, size_replace]
  split
  · exact within
  · exact closed other

end Store

end SchemaAlgebra
