import Mathlib.Data.List.Forall2
import SchemaAlgebra.Proofs.Inlining.Exactness

/-!
Inlining again. What inlining returns is not changed by inlining it again, whatever library is at hand, if no
reference is left in it that could be followed. One is left exactly where an object has a `$ref` that is no string,
so that it is kept, but unfolds to one.
-/

namespace SchemaAlgebra.Inline

/-- A reference in the value could be followed: it stands in no data. -/
inductive Refers : Json → Prop
  | here {reference : String} {fields : List (Key × Json)} :
      reference? fields = some reference → Refers (.object fields)
  | member {fields : List (Key × Json)} {entry : Key × Json} :
      entry ∈ fields → entry.1 ∉ dataKeywords.map Key.text → Refers entry.2 → Refers (.object fields)
  | item {items : List Json} {item : Json} : item ∈ items → Refers item → Refers (.array items)

/-- Unfolding a value at a location meets an object whose `$ref` is no string but unfolds to one. -/
inductive Borrows (load : String → Option Json) : String → Json → Prop
  | here {location reference : String} {fields : List (Key × Json)} {value : Json} :
      reference? fields = none → Fields.get? fields "$ref" = some value →
        Unfolds load location value (.string reference) → Borrows load location (.object fields)
  | follow {location reference : String} {fields : List (Key × Json)} {found : Json} :
      reference? fields = some reference → named? load (target reference location) = some found →
        Borrows load (target reference location).1 found → Borrows load location (.object fields)
  | member {location : String} {fields : List (Key × Json)} {entry : Key × Json} :
      reference? fields = none → entry ∈ fields → entry.1 ∉ dataKeywords.map Key.text →
        Borrows load location entry.2 → Borrows load location (.object fields)
  | item {location : String} {items : List Json} {item : Json} :
      item ∈ items → Borrows load location item → Borrows load location (.array items)

/-- Inlining a schema at a base location or, if a string is given, the document at that location, meets an object
whose `$ref` is no string but unfolds to one. -/
def BorrowsTo (load : String → Option Json) (base : String) : Json → Prop
  | .string location => ∃ document, load location = some document ∧ Borrows load location document
  | schema => Borrows (registered load base schema) base schema

theorem refers_object {fields : List (Key × Json)} :
    Refers (.object fields) ↔ (∃ reference, reference? fields = some reference) ∨
      ∃ entry ∈ fields, entry.1 ∉ dataKeywords.map Key.text ∧ Refers entry.2 := by
  constructor
  · intro refers
    cases refers with
    | here referring => exact .inl ⟨_, referring⟩
    | member listed schema refers => exact .inr ⟨_, listed, schema, refers⟩
  · rintro (⟨reference, referring⟩ | ⟨entry, listed, schema, refers⟩)
    · exact .here referring
    · exact .member listed schema refers

theorem refers_array {items : List Json} : Refers (.array items) ↔ ∃ item ∈ items, Refers item := by
  constructor
  · intro refers
    cases refers with
    | item listed refers => exact ⟨_, listed, refers⟩
  · rintro ⟨item, listed, refers⟩
    exact .item listed refers

theorem not_refers_leaf {value : Json} (leaf : isLeaf value = true) : ¬ Refers value := by
  intro refers
  cases refers <;> cases leaf

section

variable {load : String → Option Json} {location : String} {fields results : List (Key × Json)}

theorem borrows_object (plain : reference? fields = none) :
    Borrows load location (.object fields) ↔
      (∃ value reference, Fields.get? fields "$ref" = some value ∧ Unfolds load location value (.string reference)) ∨
        ∃ entry ∈ fields, entry.1 ∉ dataKeywords.map Key.text ∧ Borrows load location entry.2 := by
  constructor
  · intro borrows
    cases borrows with
    | here _ found unfolds => exact .inl ⟨_, _, found, unfolds⟩
    | follow referring => simp [plain] at referring
    | member _ listed schema borrows => exact .inr ⟨_, listed, schema, borrows⟩
  · rintro (⟨value, reference, found, unfolds⟩ | ⟨entry, listed, schema, borrows⟩)
    · exact .here plain found unfolds
    · exact .member plain listed schema borrows

theorem borrows_reference {reference : String} {found : Json} (referring : reference? fields = some reference)
    (named : named? load (target reference location) = some found) :
    Borrows load location (.object fields) ↔ Borrows load (target reference location).1 found := by
  constructor
  · intro borrows
    cases borrows with
    | follow referring' named' borrows =>
        obtain rfl := Option.some.inj (referring.symm.trans referring')
        obtain rfl := Option.some.inj (named.symm.trans named')
        exact borrows
    | here plain | member plain => simp [referring] at plain
  · exact .follow referring named

theorem borrows_array {items : List Json} :
    Borrows load location (.array items) ↔ ∃ item ∈ items, Borrows load location item := by
  constructor
  · intro borrows
    cases borrows with
    | item listed borrows => exact ⟨_, listed, borrows⟩
  · rintro ⟨item, listed, borrows⟩
    exact .item listed borrows

theorem not_borrows_leaf {value : Json} (leaf : isLeaf value = true) : ¬ Borrows load location value := by
  intro borrows
  cases borrows <;> cases leaf

/-- What is found under a keyword of schemas is the unfolding of what was there. -/
theorem UnfoldsFields.get? (key : Key) (schema : key ∉ dataKeywords.map Key.text) {fields results : List (Key × Json)} :
    UnfoldsFields load location fields results →
      (Fields.get? fields key = none ∧ Fields.get? results key = none) ∨ ∃ value result,
        Fields.get? fields key = some value ∧ Fields.get? results key = some result ∧
          Unfolds load location value result
  | .nil => .inl ⟨rfl, rfl⟩
  | .data kept later => by
      have other := ne_of_mem_of_not_mem kept schema
      rw [Fields.get?_cons, Fields.get?_cons, if_neg other, if_neg other]
      exact later.get? key schema
  | .schema _ first later => by
      rw [Fields.get?_cons, Fields.get?_cons]
      split
      · exact .inr ⟨_, _, rfl, rfl, first⟩
      · exact later.get? key schema

end

/-! What unfolds has one unfolding. -/

variable {library : Library} {root : Option Root} {location : String}

theorem Unfolds.unique {value first second : Json} (unfolds : Unfolds (library.at? root) location value first)
    (unfolds' : Unfolds (library.at? root) location value second) : first = second := by
  obtain ⟨depth, yields⟩ := exists_unfoldWithin unfolds
  obtain ⟨depth', yields'⟩ := exists_unfoldWithin unfolds'
  exact (unfoldWithin_mono (Nat.le_max_left depth depth') yields.reaches).unique
    (unfoldWithin_mono (Nat.le_max_right depth depth') yields'.reaches)

theorem reference?_eq_some {fields : List (Key × Json)} {reference : String} :
    reference? fields = some reference ↔ Fields.get? fields "$ref" = some (.string reference) := by
  unfold reference?
  split
  · next found => simp [found]
  · next other => simpa using other reference

/-- What an object unfolds to is a reference exactly if its `$ref` unfolds to a string. -/
theorem refers_here {fields results : List (Key × Json)}
    (unfolds : UnfoldsFields (library.at? root) location fields results) :
    (∃ reference, reference? results = some reference) ↔ ∃ value reference, Fields.get? fields "$ref" = some value ∧
      Unfolds (library.at? root) location value (.string reference) := by
  simp only [reference?_eq_some]
  rcases unfolds.get? "$ref" (by decide) with ⟨missing, missing'⟩ | ⟨value, result, found, found', unfolds⟩
  · simp [missing, missing']
  · constructor
    · rintro ⟨reference, there⟩
      obtain rfl := Option.some.inj (found'.symm.trans there)
      exact ⟨value, reference, found, unfolds⟩
    · rintro ⟨other, reference, there, unfolds'⟩
      obtain rfl := Option.some.inj (found.symm.trans there)
      exact ⟨reference, by rw [found', unfolds.unique unfolds']⟩

mutual

/-- A reference is left in what a value unfolds to exactly if one is borrowed on the way. -/
theorem refers_iff_borrows {location : String} {value result : Json} :
    Unfolds (library.at? root) location value result → (Refers result ↔ Borrows (library.at? root) location value)
  | .leaf leaf => iff_of_false (not_refers_leaf leaf) (not_borrows_leaf leaf)
  | .array unfolds => by rw [refers_array, borrows_array, itemsRefer_iff unfolds]
  | .object plain unfolds => by
      rw [refers_object, borrows_object plain, refers_here unfolds, fieldsRefer_iff unfolds]
  | .reference referring named unfolds => by rw [borrows_reference referring named, refers_iff_borrows unfolds]

theorem itemsRefer_iff {location : String} {items results : List Json} :
    UnfoldsItems (library.at? root) location items results →
      ((∃ result ∈ results, Refers result) ↔ ∃ item ∈ items, Borrows (library.at? root) location item)
  | .nil => by simp
  | .cons first later => by
      simp only [List.exists_mem_cons_iff, refers_iff_borrows first, itemsRefer_iff later]

theorem fieldsRefer_iff {location : String} {fields results : List (Key × Json)} :
    UnfoldsFields (library.at? root) location fields results →
      ((∃ entry ∈ results, entry.1 ∉ dataKeywords.map Key.text ∧ Refers entry.2) ↔
        ∃ entry ∈ fields, entry.1 ∉ dataKeywords.map Key.text ∧ Borrows (library.at? root) location entry.2)
  | .nil => by simp
  | .data data later => by
      simp only [List.exists_mem_cons_iff, data, not_true, false_and, false_or, fieldsRefer_iff later]
  | .schema schema first later => by
      simp only [List.exists_mem_cons_iff, schema, not_false_eq_true, true_and, refers_iff_borrows first,
        fieldsRefer_iff later]

end

/-! Without references to follow, replacing changes nothing. -/

mutual

theorem replace_settled {load : String → Option Json} {location : String} {value result : Json}
    (follow : String → Run Json) : Unfolds load location value result → ¬ Refers result →
      replace follow result = pure result
  | .leaf leaf, _ => replace_of_isLeaf follow leaf
  | .array unfolds, settled => by
      rw [refers_array] at settled
      rw [replace, replaceItems_settled follow unfolds fun item listed refers => settled ⟨item, listed, refers⟩]
      rfl
  | .object plain unfolds, settled => by
      rw [refers_object, not_or] at settled
      have none : reference? _ = none := Option.eq_none_iff_forall_ne_some.mpr fun reference referring =>
        settled.1 ⟨reference, referring⟩
      rw [replace_object, none, replaceFields_settled follow unfolds fun entry listed schema refers =>
        settled.2 ⟨entry, listed, schema, refers⟩]
      rfl
  | .reference _ _ unfolds, settled => replace_settled follow unfolds settled

theorem replaceItems_settled {load : String → Option Json} {location : String} {items results : List Json}
    (follow : String → Run Json) : UnfoldsItems load location items results →
      (∀ result ∈ results, ¬ Refers result) → replaceItems follow results = pure results
  | .nil, _ => rfl
  | .cons first later, settled => by
      rw [replaceItems, replace_settled follow first (settled _ (by simp)),
        replaceItems_settled follow later fun result listed => settled result (by simp [listed])]
      rfl

theorem replaceFields_settled {load : String → Option Json} {location : String} {fields results : List (Key × Json)}
    (follow : String → Run Json) : UnfoldsFields load location fields results →
      (∀ entry ∈ results, entry.1 ∉ dataKeywords.map Key.text → ¬ Refers entry.2) →
        replaceFields follow results = pure results
  | .nil, _ => rfl
  | .data data later, settled => by
      rw [replaceFields_cons, replaceMember, if_pos data,
        replaceFields_settled follow later fun entry listed => settled entry (by simp [listed])]
      rfl
  | .schema schema first later, settled => by
      have here := replace_settled follow first (settled _ List.mem_cons_self schema)
      rw [replaceFields_cons, replaceMember, if_neg schema, here,
        replaceFields_settled follow later fun entry listed => settled entry (by simp [listed])]
      rfl

end

variable {base : String} {schema result : Json}

theorem inline_settled (unfolds : UnfoldsTo (library.at? none) base schema result) (settled : ¬ Refers result)
    (isObject : result.isObject = true) (other : Library) (base' : String) : inline other base' result = pure result := by
  have same : ∀ follow, replace follow result = pure result := fun follow => by
    cases schema with
    | string location =>
        obtain ⟨document, -, unfolds⟩ := unfolds
        exact replace_settled follow unfolds settled
    | _ => exact replace_settled follow unfolds settled
  obtain ⟨count, bounded⟩ : ∃ count, bound other result = count + 1 := ⟨_, rfl⟩
  cases result with
  | object fields =>
      rw [inline, inlineSchema, bounded, inlineAt_succ]
      · exact same _
      · nofun
  | _ => cases isObject

theorem refers_iff_borrowsTo (unfolds : UnfoldsTo (library.at? none) base schema result) :
    Refers result ↔ BorrowsTo (library.at? none) base schema := by
  have inMemory : ∀ schema, Unfolds (library.at? (some ⟨base, schema⟩)) base schema result →
      (Refers result ↔ Borrows (library.at? (some ⟨base, schema⟩)) base schema) := fun _ => refers_iff_borrows
  cases schema with
  | string location =>
      obtain ⟨document, found, unfolds⟩ := unfolds
      rw [refers_iff_borrows unfolds]
      constructor
      · exact fun borrows => ⟨document, found, borrows⟩
      · rintro ⟨other, found', borrows⟩
        obtain rfl := Option.some.inj (found.symm.trans found')
        exact borrows
  | _ => exact inMemory _ unfolds

/-- Inlining again: the object that inlining returns holds no reference that could be followed exactly if none was
borrowed, and then it is inlined to itself, at any base and by any library, which is not asked for anything. -/
theorem inlined_again (inlined : ((inline library base schema).run.run []).1 = .ok result)
    (isObject : result.isObject = true) :
    (Refers result ↔ BorrowsTo (library.at? none) base schema) ∧
      (¬ BorrowsTo (library.at? none) base schema → ∀ (other : Library) (base' : String),
        inline other base' result = pure result) := by
  have unfolds := unfoldsTo_of_inline ⟨[], inlined⟩
  have left := refers_iff_borrowsTo unfolds
  exact ⟨left, fun none => inline_settled unfolds (mt left.mp none) isObject⟩

/-- A schema with a property and with data that looks like a reference. -/
def keeping (id : Json) : Json :=
  .object [(.text "properties", .object [(.text "id", id)]),
    (.text "default", .object [(.text "$ref", .string "#/properties")])]

/-- A document in which a schema stands in data. -/
def identifiers : Fields String Json :=
  [("base/ids.json", .object [(.text "default", .object [(.text "type", .string "integer")])])]

/-- A reference out of data of another document is replaced, one in data is kept, and both for good. -/
theorem keptData_inlined_again :
    (((inline (.ofDocuments identifiers) "base/schema.json"
        (keeping (.object [(.text "$ref", .string "ids.json#/default")]))).run.run []).1 =
          .ok (keeping (.object [(.text "type", .string "integer")])) ∧
        (keeping (.object [(.text "type", .string "integer")])).isObject = true) ∧
      ∀ (other : Library) (base' : String), inline other base' (keeping (.object [(.text "type", .string "integer")])) =
        pure (keeping (.object [(.text "type", .string "integer")])) := by
  have inlined : ((inline (.ofDocuments identifiers) "base/schema.json"
      (keeping (.object [(.text "$ref", .string "ids.json#/default")]))).run.run []).1 =
        .ok (keeping (.object [(.text "type", .string "integer")])) := by rfl
  have settled : ¬ Refers (keeping (.object [(.text "type", .string "integer")])) := by
    have flat : ¬ Refers (.string "integer") := not_refers_leaf rfl
    simp [keeping, refers_object, reference?, Fields.get?, dataKeywords, flat]
  obtain ⟨left, again⟩ := inlined_again inlined rfl
  exact ⟨⟨inlined, rfl⟩, again (mt left.mpr settled)⟩

/-- A schema with a text that looks like a reference. -/
def borrowing (name : Json) : Json :=
  .object [(.text "title", .string "#/definitions/id"), (.text "definitions", .object [
    (.text "id", .object [(.text "type", .string "integer")]), (.text "name", name)])]

/-- An object whose `$ref` is an object that refers to a text becomes a reference, and the next time the reference is
followed. -/
theorem borrowed_reference_followed :
    ((inline (.ofDocuments []) "" (borrowing
        (.object [(.text "$ref", .object [(.text "$ref", .string "#/title")])]))).run.run []).1 =
        .ok (borrowing (.object [(.text "$ref", .string "#/definitions/id")])) ∧
      (borrowing (.object [(.text "$ref", .string "#/definitions/id")])).isObject = true ∧
      ((inline (.ofDocuments []) "" (borrowing
        (.object [(.text "$ref", .string "#/definitions/id")]))).run.run []).1 =
        .ok (borrowing (.object [(.text "type", .string "integer")])) ∧
      borrowing (.object [(.text "type", .string "integer")]) ≠
        borrowing (.object [(.text "$ref", .string "#/definitions/id")]) := by
  refine ⟨by rfl, rfl, by rfl, ?_⟩
  simp [borrowing]

end SchemaAlgebra.Inline
