import Mathlib.Logic.Relation
import SchemaAlgebra.Proofs.Inlining.Resolving
import SchemaAlgebra.Proofs.Schema.Pointers
import SchemaAlgebra.Proofs.Validation.Concurrence

/-!
Documents that refer only to themselves, the schemas that evaluating such a document comes to, and what replacing
the references makes of their keywords. Replacing looks at every place and evaluation only where a schema stands;
where the keywords have arguments that suit them, the two correspond.
-/

namespace SchemaAlgebra.Inline

open Evaluation Metaschema Schema

mutual

/-- Whether every reference in a value is local, and data holds none. -/
def refersLocally : Json → Bool
  | .object fields =>
      (match Fields.get? fields "$ref" with
        | none => true
        | some (.string reference) => isLocal reference
        | some _ => false) && fieldsReferLocally fields
  | .array items => itemsReferLocally items
  | _ => true

/-- Whether every reference in items is local. -/
def itemsReferLocally : List Json → Bool
  | [] => true
  | item :: rest => refersLocally item && itemsReferLocally rest

/-- Whether every reference in the values of members is local, and those that are data hold none. -/
def fieldsReferLocally : List (Key × Json) → Bool
  | [] => true
  | (key, value) :: rest =>
      refersLocally value && (key ∉ dataKeywords.map Key.text || Reference.count "$ref" value = 0) &&
        fieldsReferLocally rest

end

theorem itemsReferLocally_iff {items : List Json} :
    itemsReferLocally items = true ↔ ∀ item ∈ items, refersLocally item = true := by
  induction items with
  | nil => simp [itemsReferLocally]
  | cons item rest ih => simp [itemsReferLocally, ih]

theorem fieldsReferLocally_iff {fields : List (Key × Json)} :
    fieldsReferLocally fields = true ↔ ∀ entry ∈ fields, refersLocally entry.2 = true ∧
      (entry.1 ∈ dataKeywords.map Key.text → Reference.count "$ref" entry.2 = 0) := by
  induction fields with
  | nil => simp [fieldsReferLocally]
  | cons entry rest ih =>
      obtain ⟨key, value⟩ := entry
      simp only [fieldsReferLocally, Bool.and_eq_true, Bool.or_eq_true, decide_eq_true_eq, ih, List.forall_mem_cons]
      exact and_congr_left fun _ => and_congr_right fun _ => imp_iff_not_or.symm

/-- A value that refers only to itself: every reference is local, no part has a location or a dialect of its
own, and every number in it can be shown. -/
structure SelfContained (value : Json) : Prop where
  formed : value.wellFormed = true
  shown : value.isShowable = true
  unlocated : Reference.count "$id" value = 0
  silent : Reference.count "$schema" value = 0
  locally : refersLocally value = true

/-- A schema is a reference to a part of the document. -/
def Names (document schema found : Json) : Prop :=
  ∃ fields reference, schema = .object fields ∧ reference? fields = some reference ∧
    named document reference = .ok found

/-- The schemas that evaluating a document can come to: itself, what the keywords of such a schema look at, and
what a reference among them names. -/
inductive Comes (document : Json) : Json → Prop
  | root : Comes document document
  | held {fields : List (Key × Json)} {keyword : String} {argument schema : Json} :
      Comes document (.object fields) → reference? fields = none →
        Fields.get? fields (.text keyword) = some argument → schema ∈ heldBy keyword argument →
          Comes document schema
  | named {schema found : Json} : Comes document schema → Names document schema found → Comes document found

/-- What evaluating a document comes to by a reference passes the metaschema, and an `items` that leads to a truth
value by references does not stand beside `additionalItems`. -/
structure Tame (document : Json) : Prop where
  passes : ∀ schema found, Comes document schema → Names document schema found → isSchema found = true
  counted : ∀ fields argument b, Comes document (.object fields) → Fields.has fields "additionalItems" = true →
    Fields.get? fields "items" = some argument → argument.isObject = true →
      ¬ Relation.ReflTransGen (Names document) argument (.bool b)

namespace SelfContained

variable {items : List Json} {fields : List (Key × Json)}

theorem item (self : SelfContained (.array items)) {item : Json} (listed : item ∈ items) : SelfContained item where
  formed := (Json.wellFormed_array items).mp self.formed item listed
  shown := (Json.itemsShowable_iff items).mp self.shown item listed
  unlocated := (Reference.count_eq_zero self.unlocated).1 item listed
  silent := (Reference.count_eq_zero self.silent).1 item listed
  locally := itemsReferLocally_iff.mp self.locally item listed

theorem entry (self : SelfContained (.object fields)) {entry : Key × Json} (listed : entry ∈ fields) :
    SelfContained entry.2 where
  formed := ((Json.wellFormed_object fields).mp self.formed).2.2 entry listed
  shown := ((Json.fieldsShowable_iff fields).mp self.shown entry listed).2
  unlocated := ((Reference.count_eq_zero self.unlocated).2 entry listed).2
  silent := ((Reference.count_eq_zero self.silent).2 entry listed).2
  locally := by
    have each := self.locally
    rw [refersLocally, Bool.and_eq_true] at each
    exact (fieldsReferLocally_iff.mp each.2 entry listed).1

theorem reference (self : SelfContained (.object fields)) {argument : Json}
    (found : Fields.get? fields "$ref" = some argument) :
    ∃ reference, argument = .string reference ∧ isLocal reference = true := by
  have here := self.locally
  rw [refersLocally, Bool.and_eq_true, found] at here
  cases argument with
  | string reference => exact ⟨reference, rfl, here.1⟩
  | _ => exact absurd here.1 Bool.false_ne_true

theorem data (self : SelfContained (.object fields)) {entry : Key × Json} (listed : entry ∈ fields)
    (data : entry.1 ∈ dataKeywords.map Key.text) : Reference.count "$ref" entry.2 = 0 := by
  have each := self.locally
  rw [refersLocally, Bool.and_eq_true] at each
  exact (fieldsReferLocally_iff.mp each.2 entry listed).2 data

theorem get?_of_reference? (self : SelfContained (.object fields)) (plain : reference? fields = none) :
    Fields.get? fields "$ref" = none := by
  cases found : Fields.get? fields "$ref" with
  | none => rfl
  | some argument =>
      obtain ⟨reference, rfl, -⟩ := self.reference found
      simp [reference?, found] at plain

theorem isLocal (self : SelfContained (.object fields)) {reference : String}
    (referring : reference? fields = some reference) :
    Fields.get? fields "$ref" = some (.string reference) ∧ Inline.isLocal reference = true := by
  unfold reference? at referring
  split at referring
  · next found =>
      obtain rfl := Option.some.inj referring
      obtain ⟨other, same, own⟩ := self.reference found
      obtain rfl := Json.string.inj same
      exact ⟨found, own⟩
  · cases referring

theorem inherited : Pointer.Inherited SelfContained where
  member := fun self _ listed => self.entry listed
  item := fun self _ listed => self.item listed

theorem leadTokens {tokens : List (List Char)} {value found : Json} (self : SelfContained value)
    (led : Pointer.leadTokens value tokens = .ok found) : SelfContained found :=
  inherited.leadTokens self led

theorem held {keyword : String} {argument schema : Json} (self : SelfContained argument)
    (held : schema ∈ heldBy keyword argument) : SelfContained schema := by
  rcases heldBy_cases held with rfl | item | ⟨member, listed, rfl⟩
  · exact self
  · cases argument with
    | array items => exact self.item item
    | _ => cases item
  · cases argument with
    | object fields => exact self.entry listed
    | _ => cases listed

end SelfContained

namespace Comes

variable {document schema : Json}

theorem selfContained (self : SelfContained document) (comes : Comes document schema) : SelfContained schema := by
  induction comes with
  | root => exact self
  | held _ _ found held ih => exact (ih.entry (Fields.mem_of_get? found)).held held
  | named _ names _ =>
      obtain ⟨fields, reference, -, -, led⟩ := names
      exact self.leadTokens led

theorem passes (checked : isSchema document = true) (tame : Tame document) (comes : Comes document schema) :
    Passes schema := by
  induction comes with
  | root => exact passes_of_isSchema checked
  | held _ _ found held ih => exact ih.held found held
  | named inside names _ => exact passes_of_isSchema (tame.passes _ _ inside names)

end Comes

/-- The schemas that evaluating a schema of a document comes to next. -/
def nextSchemas (document : Json) : Json → List Json
  | .object fields =>
      match reference? fields with
      | some reference => (named document reference).toOption.toList
      | none => fields.flatMap fun (key, argument) =>
          match key with
          | .text keyword => heldBy keyword argument
          | _ => []
  | _ => []

theorem mem_nextSchemas_of_names {document schema found : Json} (names : Names document schema found) :
    found ∈ nextSchemas document schema := by
  obtain ⟨fields, reference, rfl, referring, led⟩ := names
  simp [nextSchemas, referring, led, Except.toOption]

/-- Schemas that hold the document and, with each one, the next ones hold all that evaluation comes to. -/
theorem Comes.mem_of_closed {document schema : Json} {schemas : List Json} (root : document ∈ schemas)
    (closed : ∀ schema ∈ schemas, ∀ next ∈ nextSchemas document schema, next ∈ schemas)
    (comes : Comes document schema) : schema ∈ schemas := by
  induction comes with
  | root => exact root
  | held _ plain found held ih =>
      refine closed _ ih _ ?_
      rw [nextSchemas, plain]
      exact List.mem_flatMap.mpr ⟨_, Fields.mem_of_get? found, held⟩
  | named _ names ih => exact closed _ ih _ (mem_nextSchemas_of_names names)

section

variable {follow : String → Run Json}

theorem forall₂_of_mem {α β : Type} {r s : α → β → Prop} {items : List α} {results : List β}
    (related : List.Forall₂ r items results) (each : ∀ item ∈ items, ∀ result, r item result → s item result) :
    List.Forall₂ s items results :=
  ((List.forall₂_and_left ..).mpr ⟨each, related⟩).imp fun _ result both => both.1 result both.2

theorem forall₂_of_replaceItems {items results : List Json} (reaches : Reaches (replaceItems follow items) results) :
    List.Forall₂ (fun item result => Reaches (replace follow item) result) items results := by
  induction items generalizing results with
  | nil =>
      obtain rfl := reaches_pure.mp reaches
      exact .nil
  | cons item rest ih =>
      obtain ⟨first, replaced, reaches⟩ := reaches.of_bind
      obtain ⟨later, others, reaches⟩ := reaches.of_bind
      obtain rfl := reaches_pure.mp reaches
      exact .cons replaced (ih others)

theorem relAt_of_replaceFields {fields results : List (Key × Json)}
    (reaches : Reaches (replaceFields follow fields) results) :
    Fields.RelAt (fun key value result => Reaches (replaceMember follow key value) result) fields results := by
  induction fields generalizing results with
  | nil =>
      obtain rfl := reaches_pure.mp reaches
      exact .nil
  | cons entry rest ih =>
      obtain ⟨key, value⟩ := entry
      rw [replaceFields_cons] at reaches
      obtain ⟨first, replaced, reaches⟩ := reaches.of_bind
      obtain ⟨later, others, reaches⟩ := reaches.of_bind
      obtain rfl := reaches_pure.mp reaches
      exact .cons ⟨rfl, replaced⟩ (ih others)

theorem replaced_array {items : List Json} {result : Json} (reaches : Reaches (replace follow (.array items)) result) :
    ∃ results, result = .array results ∧
      List.Forall₂ (fun item result => Reaches (replace follow item) result) items results := by
  obtain ⟨results, replaced, reaches⟩ := reaches.of_bind
  obtain rfl := reaches_pure.mp reaches
  exact ⟨results, rfl, forall₂_of_replaceItems replaced⟩

theorem replaced_object {fields : List (Key × Json)} {result : Json} (plain : reference? fields = none)
    (reaches : Reaches (replace follow (.object fields)) result) :
    ∃ results, result = .object results ∧
      Fields.RelAt (fun key value result => Reaches (replaceMember follow key value) result) fields results := by
  rw [replace_object, plain] at reaches
  obtain ⟨results, replaced, reaches⟩ := reaches.of_bind
  obtain rfl := reaches_pure.mp reaches
  exact ⟨results, rfl, relAt_of_replaceFields replaced⟩

theorem eq_of_forall₂ {α : Type} {r : α → α → Prop} {items results : List α} (related : List.Forall₂ r items results)
    (each : ∀ item ∈ items, ∀ result, r item result → result = item) : results = items := by
  induction related with
  | nil => rfl
  | @cons item result _ _ first _ ih =>
      rw [each item (by simp) result first, ih fun other member => each other (by simp [member])]

/-- Replacing the references in a value without any changes nothing. -/
theorem replaced_closed (value : Json) : ∀ result, Reference.count "$ref" value = 0 →
    Reaches (replace follow value) result → result = value := by
  induction value using Json.treeInduction with
  | array items ih =>
      intro result closed reaches
      obtain ⟨results, rfl, related⟩ := replaced_array reaches
      exact congrArg Json.array (eq_of_forall₂ related fun item listed result replaced =>
        ih item listed result ((Reference.count_eq_zero closed).1 item listed) replaced)
  | object fields ih =>
      intro result closed reaches
      have plain : reference? fields = none := by rw [reference?, Reference.get?_of_count closed]
      obtain ⟨results, rfl, related⟩ := replaced_object plain reaches
      refine congrArg Json.object (eq_of_forall₂ related fun entry listed result both => ?_)
      obtain ⟨named, reached⟩ := both
      refine Prod.ext named.symm ?_
      unfold replaceMember at reached
      split at reached
      · exact (reaches_pure.mp reached).symm
      · exact ih entry listed _ ((Reference.count_eq_zero closed).2 entry listed).2 reached
  | scalar value noArray noObject =>
      intro result closed reaches
      rw [replace_leaf follow noArray noObject] at reaches
      split at reaches
      · exact (reaches_pure.mp reaches).symm
      · exact absurd reaches not_reaches_throw

/-- What becomes of a map. A member that goes by the name of a data keyword is kept, and has no references. -/
theorem rel_of_replaced (good : Json → Prop) {related : Json → Json → Prop} {members : List (Key × Json)} {other : Json}
    (self : SelfContained (.object members)) (suits : ∀ member ∈ members, good member.2)
    (noText : ∀ text, ¬ good (.string text))
    (kept : ∀ member ∈ members, Reference.count "$ref" member.2 = 0 → related member.2 member.2)
    (each : ∀ member ∈ members, ∀ result, Reaches (replace follow member.2) result → related member.2 result)
    (reaches : Reaches (replace follow (.object members)) other) :
    ∃ members', other = .object members' ∧ Fields.Rel related members members' := by
  have plain : reference? members = none := by
    cases referring : reference? members with
    | none => rfl
    | some reference =>
        have found := (self.isLocal referring).1
        exact absurd (suits _ (Fields.mem_of_get? found)) (noText reference)
  obtain ⟨members', rfl, replaced⟩ := replaced_object plain reaches
  refine ⟨members', rfl, forall₂_of_mem replaced fun member listed result both => ⟨both.1, ?_⟩⟩
  obtain ⟨-, reached⟩ := both
  unfold replaceMember at reached
  split at reached
  · next data =>
      rw [← reaches_pure.mp reached]
      exact kept member listed (self.data listed data)
  · exact each member listed _ reached

theorem not_passes_string (text : String) : ¬ Passes (.string text) := by
  intro passes
  rcases passes.isSchema with isObject | ⟨b, same⟩
  · cases isObject
  · cases same

section

variable {same : Json → Json → Prop} {argument other : Json} {keyword : String}
  (self : SelfContained argument)
  (closed : ∀ schema, SelfContained schema → Passes schema → Reference.count "$ref" schema = 0 → same schema schema)
  (held : ∀ schema ∈ heldBy keyword argument, ∀ result, Reaches (replace follow schema) result → same schema result)

include self closed held

theorem rel_of_isSchemaMap (isMap : IsSchemaMap argument)
    (all : heldBy keyword argument = argument.members.map Prod.snd) (reaches : Reaches (replace follow argument) other) :
    ∃ members members', argument = .object members ∧ other = .object members' ∧ Fields.Rel same members members' := by
  obtain ⟨members, rfl, pass⟩ := isMap
  obtain ⟨members', rfl, related⟩ := rel_of_replaced Passes self pass not_passes_string
    (fun member listed free => closed _ (self.entry listed) (pass member listed) free)
    (fun member listed => held _ (all ▸ List.mem_map_of_mem listed)) reaches
  exact ⟨members, members', rfl, rfl, related⟩

omit closed in
theorem forall₂_of_isSchemas (isList : IsSchemas argument) (all : heldBy keyword argument = argument.items)
    (reaches : Reaches (replace follow argument) other) :
    ∃ items items', argument = .array items ∧ other = .array items' ∧ List.Forall₂ same items items' := by
  obtain ⟨items, rfl, pass⟩ := isList
  obtain ⟨items', rfl, related⟩ := replaced_array reaches
  exact ⟨items, items', rfl, rfl, forall₂_of_mem related fun item listed => held item (all ▸ listed)⟩

/-- A dependency that lists names is kept as it is. -/
theorem rel_of_isDependencies (isMap : IsDependencies argument)
    (all : heldBy keyword argument = (argument.members.map Prod.snd).filter fun schema => !schema.isArray)
    (reaches : Reaches (replace follow argument) other) :
    ∃ members members', argument = .object members ∧ other = .object members' ∧
      Fields.Rel (fun schema schema' => schema.isArray = true ∧ schema = schema' ∨ same schema schema') members
        members' := by
  obtain ⟨members, rfl, pass⟩ := isMap
  have noText : ∀ text, ¬ ((∃ names : List String, Json.string text = .array (names.map .string)) ∨
      Passes (.string text)) := by
    rintro text (⟨names, same⟩ | passes)
    · cases same
    · exact not_passes_string text passes
  have kept : ∀ member ∈ members, Reference.count "$ref" member.2 = 0 →
      member.2.isArray = true ∧ member.2 = member.2 ∨ same member.2 member.2 := by
    intro member listed free
    rcases pass member listed with ⟨names, isList⟩ | passes
    · exact .inl ⟨by simp [isList, Json.isArray], rfl⟩
    · exact .inr (closed _ (self.entry listed) passes free)
  have each : ∀ member ∈ members, ∀ result, Reaches (replace follow member.2) result →
      member.2.isArray = true ∧ member.2 = result ∨ same member.2 result := by
    intro member listed result replaced
    rcases pass member listed with ⟨names, isList⟩ | passes
    · have free : Reference.count "$ref" member.2 = 0 := by
        rw [isList, Reference.count, Reference.countItems_eq_zero]
        simp [Reference.count]
      exact .inl ⟨by simp [isList, Json.isArray], (replaced_closed _ _ free replaced).symm⟩
    · refine .inr (held _ ?_ result replaced)
      rw [all, List.mem_filter, passes.noArray]
      exact ⟨List.mem_map_of_mem listed, rfl⟩
  obtain ⟨members', rfl, related⟩ : ∃ members', other = .object members' ∧ Fields.Rel (fun schema schema' =>
      schema.isArray = true ∧ schema = schema' ∨ same schema schema') members members' :=
    rel_of_replaced (fun schema => (∃ names : List String, schema = .array (names.map .string)) ∨ Passes schema)
      self pass noText kept each reaches
  exact ⟨members, members', rfl, rfl, related⟩

/-- The argument of a keyword corresponds to what becomes of it, if the schemas that it holds are related to what
becomes of them. -/
theorem corresponds_of_replaced (suits : Suits keyword argument)
    (reaches : Reaches (replaceMember follow (.text keyword) argument) other) :
    Corresponds same keyword argument other := by
  by_cases data : Key.text keyword ∈ dataKeywords.map Key.text
  · rw [replaceMember, if_pos data] at reaches
    obtain rfl := reaches_pure.mp reaches
    have listed : keyword ∈ dataKeywords := by simpa using data
    simp only [dataKeywords, List.mem_cons, List.not_mem_nil, or_false] at listed
    rcases listed with rfl | rfl | rfl | rfl | rfl <;> exact fun _ => rfl
  · rw [replaceMember, if_neg data] at reaches
    unfold Corresponds
    split
    iterate 8 exact held argument (List.mem_singleton.mpr rfl) other reaches
    iterate 3 exact forall₂_of_isSchemas self held suits rfl reaches
    iterate 2 exact rel_of_isSchemaMap self closed held suits rfl reaches
    · exact rel_of_isDependencies self closed held suits rfl reaches
    · rcases suits with isList | passes
      · exact .inl (forall₂_of_isSchemas self held isList (by
          obtain ⟨items, rfl, -⟩ := isList
          rfl) reaches)
      · refine .inr (held argument ?_ other reaches)
        simp [heldBy, passes.noArray]
    · intro evaluated
      unfold Suits at suits
      split at suits
      iterate 13 contradiction
      · exact absurd evaluated (by decide)
      iterate 2 contradiction
      rcases suits evaluated with rfl | rfl | free
      · exact absurd (by decide) data
      · exact absurd (by decide) data
      · exact (replaced_closed _ _ (free _) reaches).symm

end

/-- What inlining leaves: a value without references and dialects, in which every number can be shown. -/
structure Finished (value : Json) : Prop where
  closed : Reference.count "$ref" value = 0
  silent : Reference.count "$schema" value = 0
  shown : value.isShowable = true

theorem finished_array {items : List Json} (finished : ∀ item ∈ items, Finished item) : Finished (.array items) where
  closed := Reference.countItems_eq_zero.mpr fun item listed => (finished item listed).closed
  silent := Reference.countItems_eq_zero.mpr fun item listed => (finished item listed).silent
  shown := (Json.itemsShowable_iff items).mpr fun item listed => (finished item listed).shown

theorem finished_object {fields : List (Key × Json)}
    (keys : ∀ entry ∈ fields, entry.1 ≠ .text "$ref" ∧ entry.1 ≠ .text "$schema" ∧ entry.1.toJson.isShowable = true)
    (finished : ∀ entry ∈ fields, Finished entry.2) : Finished (.object fields) where
  closed := Reference.countFields_eq_zero.mpr fun entry listed => ⟨(keys entry listed).1, (finished entry listed).closed⟩
  silent := Reference.countFields_eq_zero.mpr fun entry listed => ⟨(keys entry listed).2.1, (finished entry listed).silent⟩
  shown := (Json.fieldsShowable_iff fields).mpr fun entry listed =>
    ⟨(keys entry listed).2.2, (finished entry listed).shown⟩

/-- What holds of the second of each pair in two lists holds of every item of the second list. -/
theorem forall_of_forall₂ {α β : Type} {r : α → β → Prop} {good : β → Prop} {items : List α} {results : List β}
    (related : List.Forall₂ r items results) (each : ∀ item ∈ items, ∀ result, r item result → good result) :
    ∀ result ∈ results, good result := by
  induction related with
  | nil => simp
  | @cons item result _ _ first _ ih =>
      exact List.forall_mem_cons.mpr ⟨each item (by simp) result first, ih fun other member => each other (by simp [member])⟩

/-- Replacing references by finished values finishes a value that refers only to itself. -/
theorem finished_of_replace
    (each : ∀ fields reference, SelfContained (.object fields) → reference? fields = some reference →
      ∀ result, Reaches (follow reference) result → Finished result) (value : Json) :
    ∀ result, SelfContained value → Reaches (replace follow value) result → Finished result := by
  induction value using Json.treeInduction with
  | array items ih =>
      intro result self reaches
      obtain ⟨results, rfl, replaced⟩ := replaced_array reaches
      exact finished_array (forall_of_forall₂ replaced fun item listed result reached =>
        ih item listed result (self.item listed) reached)
  | object fields ih =>
      intro result self reaches
      cases referring : reference? fields with
      | some reference =>
          rw [replace_object, referring] at reaches
          exact each fields reference self referring result reaches
      | none =>
          obtain ⟨results, rfl, replaced⟩ := replaced_object referring reaches
          have unreferring := self.get?_of_reference? referring
          refine finished_object (forall_of_forall₂ replaced ?_) (forall_of_forall₂ replaced ?_)
          · rintro entry listed result ⟨named, -⟩
            rw [← named]
            refine ⟨fun same => ?_, ((Reference.count_eq_zero self.silent).2 entry listed).1,
              ((Json.fieldsShowable_iff fields).mp self.shown entry listed).1⟩
            have found := Fields.get?_of_mem ((Json.wellFormed_object fields).mp self.formed).2.1 listed
            rw [same, unreferring] at found
            cases found
          · rintro entry listed result ⟨-, reached⟩
            have inside := self.entry listed
            unfold replaceMember at reached
            split at reached
            · next data =>
                rw [← reaches_pure.mp reached]
                exact ⟨self.data listed data, inside.silent, inside.shown⟩
            · exact ih entry listed _ inside reached
  | scalar value noArray noObject =>
      intro result self reaches
      have closed : Reference.count "$ref" value = 0 := by
        cases value <;> simp_all [Json.isArray, Json.isObject, Reference.count]
      rw [replaced_closed value result closed reaches]
      exact ⟨closed, self.silent, self.shown⟩

end

end SchemaAlgebra.Inline
