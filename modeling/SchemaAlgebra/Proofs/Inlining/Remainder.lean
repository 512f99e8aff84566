import Mathlib.Data.List.Forall2
import SchemaAlgebra.Proofs.Inlining.Unfolding
import SchemaAlgebra.Proofs.Schema.Nodes
import SchemaAlgebra.Proofs.Session.History

/-!
References that inlining leaves behind. The unfolding of a value is walked by position, following
references on the way. A node of the result holds a reference exactly if the walk meets a schema whose
`$ref` is no string, which stays, or a property that goes by the name of a data keyword and holds a
reference, which is taken for data.
-/

namespace SchemaAlgebra.Inline

open Walk

/-- In the unfolding of a value at a location, an object that is no reference is met in a role. -/
inductive Meets (load : String → Option Json) : Role → String → Json → Role → List (Key × Json) → Prop
  | here {role : Role} {location : String} {fields : List (Key × Json)} :
      reference? fields = none → Meets load role location (.object fields) role fields
  | follow {role met : Role} {location reference : String} {fields found : List (Key × Json)}
      {part : Json} :
      reference? fields = some reference → named? load (target reference location) = some part →
        Meets load role (target reference location).1 part met found →
          Meets load role location (.object fields) met found
  | keyword {role under met : Role} {location keyword : String} {fields found : List (Key × Json)}
      {value : Json} :
      reference? fields = none → role.isNode = true → (keyword, under) ∈ keywords →
        Fields.get? fields keyword = some value → Meets load under location value met found →
          Meets load role location (.object fields) met found
  | member {met : Role} {location : String} {fields found : List (Key × Json)} {entry : Key × Json} :
      reference? fields = none → entry ∈ fields → entry.1 ∉ dataKeywords.map Key.text →
        Meets load .schema location entry.2 met found →
          Meets load .members location (.object fields) met found
  | item {role met : Role} {location : String} {items : List Json} {found : List (Key × Json)}
      {item : Json} :
      role.isList = true → item ∈ items → Meets load .schema location item met found →
        Meets load role location (.array items) met found

/-- An object that inlining meets in a role leaves a reference: as a schema, because its own is no
string, or as properties, because one that is named like a data keyword holds one. -/
def Leaves (role : Role) (fields : List (Key × Json)) : Prop :=
  (role.isNode = true ∧ Fields.has fields "$ref" = true) ∨
    (role = .members ∧ ∃ entry ∈ fields, entry.1 ∈ dataKeywords.map Key.text ∧
      HoldsReference .schema entry.2)

/-- The unfolding of a value at a location meets an object that leaves a reference. -/
def MeetsLeaving (load : String → Option Json) (role : Role) (location : String) (value : Json) : Prop :=
  ∃ met found, Meets load role location value met found ∧ Leaves met found

variable {load : String → Option Json} {role : Role} {location : String}

theorem meetsLeaving_leaf {value : Json} (leaf : isLeaf value = true) :
    ¬ MeetsLeaving load role location value := by
  rintro ⟨met, found, meets, -⟩
  cases meets <;> simp [isLeaf] at leaf

theorem meetsLeaving_array {items : List Json} :
    MeetsLeaving load role location (.array items) ↔
      role.isList = true ∧ ∃ item ∈ items, MeetsLeaving load .schema location item := by
  constructor
  · rintro ⟨met, found, meets, leaves⟩
    cases meets with
    | item own listed meets => exact ⟨own, _, listed, met, found, meets, leaves⟩
  · rintro ⟨own, item, listed, met, found, meets, leaves⟩
    exact ⟨met, found, .item own listed meets, leaves⟩

theorem meetsLeaving_reference {fields : List (Key × Json)} {reference : String} {part : Json}
    (referring : reference? fields = some reference)
    (named : named? load (target reference location) = some part) :
    MeetsLeaving load role location (.object fields) ↔
      MeetsLeaving load role (target reference location).1 part := by
  constructor
  · rintro ⟨met, found, meets, leaves⟩
    cases meets with
    | follow referring' named' meets =>
        obtain rfl := Option.some.inj (referring.symm.trans referring')
        obtain rfl := Option.some.inj (named.symm.trans named')
        exact ⟨met, found, meets, leaves⟩
    | here none | keyword none | member none => simp [referring] at none
  · rintro ⟨met, found, meets, leaves⟩
    exact ⟨met, found, .follow referring named meets, leaves⟩

theorem meetsLeaving_object {fields : List (Key × Json)} (plain : reference? fields = none) :
    MeetsLeaving load role location (.object fields) ↔
      (role.isNode = true ∧ (Fields.has fields "$ref" = true ∨ ∃ entry ∈ keywords, ∃ value,
        Fields.get? fields (.text entry.1) = some value ∧ MeetsLeaving load entry.2 location value)) ∨
      (role = .members ∧ ∃ entry ∈ fields,
        (entry.1 ∈ dataKeywords.map Key.text ∧ HoldsReference .schema entry.2) ∨
        (entry.1 ∉ dataKeywords.map Key.text ∧ MeetsLeaving load .schema location entry.2)) := by
  constructor
  · rintro ⟨met, found, meets, leaves⟩
    cases meets with
    | here =>
        rcases leaves with ⟨own, has⟩ | ⟨rfl, entry, listed, data, holds⟩
        · exact .inl ⟨own, .inl has⟩
        · exact .inr ⟨rfl, entry, listed, .inl ⟨data, holds⟩⟩
    | follow referring => simp [plain] at referring
    | keyword _ own listed value meets =>
        exact .inl ⟨own, .inr ⟨_, listed, _, value, met, found, meets, leaves⟩⟩
    | member _ listed schema meets =>
        exact .inr ⟨rfl, _, listed, .inr ⟨schema, met, found, meets, leaves⟩⟩
  · rintro (⟨own, has | ⟨⟨keyword, under⟩, listed, value, there, met, found, meets, leaves⟩⟩ |
      ⟨rfl, entry, listed, ⟨data, holds⟩ | ⟨schema, met, found, meets, leaves⟩⟩)
    · exact ⟨role, fields, .here plain, .inl ⟨own, has⟩⟩
    · exact ⟨met, found, .keyword plain own listed there meets, leaves⟩
    · exact ⟨.members, fields, .here plain, .inr ⟨rfl, entry, listed, data, holds⟩⟩
    · exact ⟨met, found, .member plain listed schema meets, leaves⟩

theorem holdsReference_array {items : List Json} :
    HoldsReference role (.array items) ↔ role.isList = true ∧ ∃ item ∈ items, HoldsReference .schema item := by
  simp only [HoldsReference, isNode_array]
  constructor
  · rintro ⟨node, ⟨own, item, listed, isNode⟩, has⟩
    exact ⟨own, item, listed, node, isNode, has⟩
  · rintro ⟨own, item, listed, node, isNode, has⟩
    exact ⟨node, ⟨own, item, listed, isNode⟩, has⟩

theorem holdsReference_object {fields : List (Key × Json)} :
    HoldsReference role (.object fields) ↔
      (role.isNode = true ∧ (Fields.has fields "$ref" = true ∨ ∃ entry ∈ keywords, ∃ value,
        Fields.get? fields (.text entry.1) = some value ∧ HoldsReference entry.2 value)) ∨
      (role = .members ∧ ∃ entry ∈ fields, HoldsReference .schema entry.2) := by
  simp only [HoldsReference, isNode_object]
  constructor
  · rintro ⟨node, ⟨own, rfl | ⟨entry, listed, value, there, isNode⟩⟩ | ⟨rfl, entry, listed, isNode⟩, has⟩
    · exact .inl ⟨own, .inl has⟩
    · exact .inl ⟨own, .inr ⟨entry, listed, value, there, node, isNode, has⟩⟩
    · exact .inr ⟨rfl, entry, listed, node, isNode, has⟩
  · rintro (⟨own, has | ⟨entry, listed, value, there, node, isNode, has⟩⟩ |
      ⟨rfl, entry, listed, node, isNode, has⟩)
    · exact ⟨fields, .inl ⟨own, .inl rfl⟩, has⟩
    · exact ⟨node, .inl ⟨own, .inr ⟨entry, listed, value, there, isNode⟩⟩, has⟩
    · exact ⟨node, .inr ⟨rfl, entry, listed, isNode⟩, has⟩

theorem holdsReference_leaf {value : Json} (leaf : isLeaf value = true) : ¬ HoldsReference role value := by
  rintro ⟨node, isNode, -⟩
  cases isNode <;> simp [isLeaf] at leaf

/-- A member and what it unfolds to have one key and hold or leave references alike. -/
def Matches (load : String → Option Json) (location : String) (before after : Key × Json) : Prop :=
  before.1 = after.1 ∧
    ((before.1 ∈ dataKeywords.map Key.text ∧ before.2 = after.2) ∨
      (before.1 ∉ dataKeywords.map Key.text ∧
        ∀ role, HoldsReference role after.2 ↔ MeetsLeaving load role location before.2))

theorem get?_of_matches {fields results : List (Key × Json)}
    (matched : List.Forall₂ (Matches load location) fields results) {keyword : String}
    (schema : Key.text keyword ∉ dataKeywords.map Key.text) (role : Role) :
    (∃ value, Fields.get? results keyword = some value ∧ HoldsReference role value) ↔
      ∃ value, Fields.get? fields keyword = some value ∧ MeetsLeaving load role location value := by
  induction matched with
  | nil => simp
  | @cons before after fields results first _ ih =>
      obtain ⟨key, value⟩ := before
      obtain ⟨key', result⟩ := after
      obtain ⟨same, kept⟩ := first
      obtain rfl : key = key' := same
      simp only [Fields.get?_cons]
      by_cases here : key = .text keyword
      · subst here
        have alike := (kept.resolve_left fun data => schema data.1).2 role
        simpa using alike
      · simpa [here] using ih

theorem has_of_matches {fields results : List (Key × Json)}
    (matched : List.Forall₂ (Matches load location) fields results) (key : Key) :
    Fields.has results key = Fields.has fields key := by
  induction matched with
  | nil => rfl
  | @cons before after fields results first _ ih =>
      obtain ⟨k, value⟩ := before
      obtain ⟨k', result⟩ := after
      obtain rfl : k = k' := first.1
      simp only [Fields.has, Fields.get?_cons] at ih ⊢
      split
      · rfl
      · exact ih

theorem members_of_matches {fields results : List (Key × Json)}
    (matched : List.Forall₂ (Matches load location) fields results) :
    (∃ entry ∈ results, HoldsReference .schema entry.2) ↔ ∃ entry ∈ fields,
      (entry.1 ∈ dataKeywords.map Key.text ∧ HoldsReference .schema entry.2) ∨
      (entry.1 ∉ dataKeywords.map Key.text ∧ MeetsLeaving load .schema location entry.2) := by
  induction matched with
  | nil => simp
  | @cons before after fields results first _ ih =>
      simp only [List.exists_mem_cons_iff, ih]
      refine or_congr_left ?_
      rcases first.2 with ⟨data, same⟩ | ⟨schema, alike⟩
      · simp [data, same]
      · simp [schema, alike]

theorem items_of_alike {items results : List Json}
    (alike : List.Forall₂ (fun before after => ∀ role, HoldsReference role after ↔
      MeetsLeaving load role location before) items results) :
    (∃ result ∈ results, HoldsReference .schema result) ↔
      ∃ item ∈ items, MeetsLeaving load .schema location item := by
  induction alike with
  | nil => simp
  | cons first _ ih => simp only [List.exists_mem_cons_iff, ih, first .schema]

theorem keyword_isSchema {entry : String × Role} (listed : entry ∈ keywords) :
    Key.text entry.1 ∉ dataKeywords.map Key.text := by
  revert entry
  decide

mutual

/-- A node of what a value unfolds to holds a reference exactly if one is left on the way. -/
theorem holdsReference_iff {location : String} {value result : Json} :
    Unfolds load location value result →
      ∀ role, HoldsReference role result ↔ MeetsLeaving load role location value
  | .leaf leaf => fun role => iff_of_false (holdsReference_leaf leaf) (meetsLeaving_leaf leaf)
  | .array unfolds => fun role => by
      rw [holdsReference_array, meetsLeaving_array, items_of_alike (itemsHold_iff unfolds)]
  | .object plain unfolds => fun role => by
      have matched := fieldsHold_iff unfolds
      rw [holdsReference_object, meetsLeaving_object plain, has_of_matches matched,
        members_of_matches matched]
      refine or_congr_left (and_congr_right fun _ => or_congr_right ?_)
      refine exists_congr fun entry => and_congr_right fun listed => ?_
      exact get?_of_matches matched (keyword_isSchema listed) entry.2
  | .reference referring named unfolds => fun role => by
      rw [meetsLeaving_reference referring named]
      exact holdsReference_iff unfolds role

theorem itemsHold_iff {location : String} {items results : List Json} :
    UnfoldsItems load location items results →
      List.Forall₂ (fun before after => ∀ role, HoldsReference role after ↔
        MeetsLeaving load role location before) items results
  | .nil => .nil
  | .cons first later => .cons (holdsReference_iff first) (itemsHold_iff later)

theorem fieldsHold_iff {location : String} {fields results : List (Key × Json)} :
    UnfoldsFields load location fields results →
      List.Forall₂ (Matches load location) fields results
  | .nil => .nil
  | .data data later => .cons ⟨rfl, .inl ⟨data, rfl⟩⟩ (fieldsHold_iff later)
  | .schema schema first later =>
      .cons ⟨rfl, .inr ⟨schema, holdsReference_iff first⟩⟩ (fieldsHold_iff later)

end

end SchemaAlgebra.Inline

/-!
Builders of inlined schemas. Inlining returns a schema that a builder accepts, unless it leaves a reference
behind; it does so exactly where it takes a property for data because of its name, or meets a reference that
is no string.
-/

namespace SchemaAlgebra.Inline

open Walk

/-- Inlining a schema or, if a string is given, the document at that location, leaves a reference behind. -/
def LeavesReference (library : Library) (base : String) : Json → Prop
  | .string location => ∃ document, library.at? none location = some document ∧
      MeetsLeaving (library.at? none) .schema location document
  | schema => MeetsLeaving (library.at? (some ⟨base, schema⟩)) .schema base schema

variable {library : Library} {base : String} {schema result : Json}

theorem holdsReference_of_inlineSchema (reaches : Reaches (inlineSchema library base schema) result) :
    HoldsReference .schema result ↔ MeetsLeaving (library.at? (some ⟨base, schema⟩)) .schema base schema :=
  holdsReference_iff (unfolds_of_inlineAt _ _ _ _ _ _ _ reaches) .schema

theorem holdsReference_of_inlineDocument {location : String}
    (reaches : Reaches (inlineDocument library location) result) :
    HoldsReference .schema result ↔ LeavesReference library base (.string location) := by
  obtain ⟨document, fetched, reaches⟩ := Reaches.of_bind reaches
  have there := at?_of_reaches fetched
  rw [holdsReference_iff (unfolds_of_inlineAt _ _ _ _ _ _ _ reaches) .schema, LeavesReference]
  constructor
  · exact fun leaves => ⟨document, there, leaves⟩
  · rintro ⟨other, there', leaves⟩
    obtain rfl := Option.some.inj (there.symm.trans there')
    exact leaves

/-- What is inlined holds a reference exactly if inlining left one behind. -/
theorem holdsReference_of_inline (reaches : Reaches (inline library base schema) result) :
    HoldsReference .schema result ↔ LeavesReference library base schema := by
  cases schema with
  | string location => exact holdsReference_of_inlineDocument reaches
  | _ => exact holdsReference_of_inlineSchema reaches

end SchemaAlgebra.Inline

namespace SchemaAlgebra.Session

open Inline Walk

variable {session : Session} {name base : String} {schema overrides result : Json}

theorem outcome_wrapInlined
    (inlined : ((inline (.ofFiles session.files) base schema).run.run []).1 = .ok result) :
    outcome (wrapInlined name schema overrides base) session = outcome (wrap name result overrides) session := by
  rw [wrapInlined, outcome_bind_ok (outcome_get session)]
  rcases ran : (inline (.ofFiles session.files) base schema).run.run [] with ⟨failure | found, asked⟩
  · rw [ran] at inlined
    cases inlined
  · rw [ran] at inlined
    obtain rfl := Except.ok.inj inlined
    simp only [ran]

/-- Wrapping an object is refused for a reference exactly if a node of the object holds one. -/
theorem wrap_refusesReference_iff (closed : session.store.Closed) (isObject : result.isObject = true) :
    (∃ pointer shown, (outcome (wrap name result overrides) session).1 =
      .error (.builder (.refused (.reference pointer shown)))) ↔ HoldsReference .schema result := by
  obtain ⟨address, -, wrapped⟩ := Builder.outcome_wrap closed isObject
  cases found : firstReference? result with
  | none =>
      have free := (firstReference?_eq_none_iff result).mp found
      rw [found] at wrapped
      refine iff_of_false ?_ free
      rintro ⟨pointer, shown, refused⟩
      rw [wrap, outcome_bind_ok (by rw [outcome_change, wrapped]), outcome_bind, outcome_resolveOptions] at refused
      cases resolved : Options.resolve session.environment overrides .null with
      | error error => simp [resolved] at refused
      | ok options => simp [resolved] at refused
  | some reference =>
      have holds : HoldsReference .schema result := by
        by_contra free
        rw [(firstReference?_eq_none_iff result).mpr free] at found
        cases found
      rw [found] at wrapped
      refine iff_of_true ⟨reference.1, reference.2.literal, ?_⟩ holds
      rw [wrap, outcome_bind_error (by rw [outcome_change, wrapped])]

/-- What inlining returns holds a reference, and a builder refuses it for that, exactly if inlining left a
reference behind. -/
theorem inlined_refused_iff (library : Library) (base : String) (schema result : Json)
    (inlined : ((inline library base schema).run.run []).1 = .ok result) :
    (HoldsReference .schema result ↔ LeavesReference library base schema) ∧
      ∀ (session : Session) (name : String) (overrides : Json), session.store.Closed →
        library = .ofFiles session.files → result.isObject = true →
          ((∃ pointer shown, (outcome (wrapInlined name schema overrides base) session).1 =
            .error (.builder (.refused (.reference pointer shown)))) ↔ LeavesReference library base schema) := by
  have leaves := holdsReference_of_inline ⟨[], inlined⟩
  refine ⟨leaves, ?_⟩
  rintro session name overrides closed rfl isObject
  rw [outcome_wrapInlined inlined, wrap_refusesReference_iff closed isObject]
  exact leaves

/-- Two properties that refer to a definition; one goes by the name of a data keyword. -/
def twoProperties (name : String) : Json :=
  .object [
    ("definitions", .object [("id", .object [("type", .string "integer")])]),
    ("properties", .object [
      ("id", .object [("$ref", .string "#/definitions/id")]),
      (name, .object [("$ref", .string "#/definitions/id")])])]

/-- The two properties after inlining, the second being given. -/
def twoInlined (name : String) (second : Json) : Json :=
  .object [
    ("definitions", .object [("id", .object [("type", .string "integer")])]),
    ("properties", .object [("id", .object [("type", .string "integer")]), (name, second)])]

/-- A property named `default` keeps its reference, and no builder takes the result. -/
theorem property_default_keepsReference :
    ((inline (.ofDocuments []) "" (twoProperties "default")).run.run []).1 =
        .ok (twoInlined "default" (.object [("$ref", .string "#/definitions/id")])) ∧
      HoldsReference .schema (twoInlined "default" (.object [("$ref", .string "#/definitions/id")])) ∧
      (outcome (wrapInlined "b" (twoProperties "default") .null "") (.start [] .empty)).1 =
        .error (.builder (.refused (.reference "/properties/default" "'#/definitions/id'"))) := by
  refine ⟨rfl, ⟨[("$ref", .string "#/definitions/id")], ?_, rfl⟩, rfl⟩
  refine .keyword rfl (by decide : ("properties", Role.members) ∈ keywords) rfl ?_
  exact .member (List.mem_cons_of_mem _ List.mem_cons_self) (.here rfl)

/-- A property of another name is inlined, and the result is one that a builder takes. -/
theorem property_other_inlined :
    ((inline (.ofDocuments []) "" (twoProperties "other")).run.run []).1 =
        .ok (twoInlined "other" (.object [("type", .string "integer")])) ∧
      ¬ LeavesReference (.ofDocuments []) "" (twoProperties "other") ∧
      ¬ ∃ pointer shown, (outcome (wrapInlined "b" (twoProperties "other") .null "") (.start [] .empty)).1 =
        .error (.builder (.refused (.reference pointer shown))) := by
  have free : ¬ HoldsReference .schema (twoInlined "other" (.object [("type", .string "integer")])) :=
    (firstReference?_eq_none_iff _).mp rfl
  have here := inlined_refused_iff (.ofDocuments []) "" (twoProperties "other") _ rfl
  obtain ⟨files, built⟩ := inlined_refused_iff (.ofFiles .empty) "" (twoProperties "other") _ rfl
  have refused := built (.start [] .empty) "b" .null Store.closed_empty rfl rfl
  exact ⟨rfl, fun leaves => free (here.1.mpr leaves), fun given => free (files.mpr (refused.mp given))⟩

end SchemaAlgebra.Session
