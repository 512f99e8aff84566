import SchemaAlgebra.Proofs.Fields
import SchemaAlgebra.Proofs.Validation.Answers
import SchemaAlgebra.Proofs.Validation.Normalization

/-!
Schemas that say the same. Two schemas concur if they give the same answer about every value that can be
shown, and are of the same kind; only a schema object may concur with a truth value. Schema objects whose
keywords correspond, each with an argument that is equal or made of schemas that concur, concur again.
-/

namespace SchemaAlgebra

open Outcome

namespace Json

theorem itemsShowable_iff (items : List Json) :
    itemsShowable items = true ↔ ∀ item ∈ items, item.isShowable = true := by
  induction items with
  | nil => simp [itemsShowable]
  | cons item rest ih => simp [itemsShowable, ih]

theorem fieldsShowable_iff (fields : List (Key × Json)) :
    fieldsShowable fields = true ↔ ∀ entry ∈ fields, entry.1.toJson.isShowable = true ∧ entry.2.isShowable = true := by
  induction fields with
  | nil => simp [fieldsShowable]
  | cons entry rest ih =>
      obtain ⟨key, value⟩ := entry
      cases key <;> simp [fieldsShowable, ih, Key.toJson, isShowable, and_assoc]

/-- The members of objects have different texts for keys, and no number is too long to be shown. -/
structure Presentable (value : Json) : Prop where
  formed : value.wellFormed = true
  shown : value.isShowable = true

theorem presentable_hereditary : Hereditary Presentable where
  child value step child presentable found := by
    refine ⟨wellFormed_child presentable.formed found, ?_⟩
    have shown := presentable.shown
    cases step with
    | member key =>
        cases value <;> simp only [child?, get?, reduceCtorEq] at found
        rw [isShowable, fieldsShowable_iff] at shown
        exact (shown _ (Fields.mem_of_get? found)).2
    | index i =>
        cases value <;> simp only [child?, reduceCtorEq] at found
        rw [isShowable, itemsShowable_iff] at shown
        exact shown _ (List.mem_of_getElem? found)
  name value name presentable listed := by
    obtain ⟨text, rfl⟩ := namesOf_text presentable.formed listed
    exact ⟨rfl, rfl⟩

theorem exists_child_of_mem {value : Json} (formed : value.wellFormed = true) {name : Key}
    (listed : name ∈ namesOf value) : ∃ child, value.child? (.member name) = some child := by
  obtain ⟨text, rfl⟩ := namesOf_text formed listed
  exact Option.isSome_iff_exists.mp (text_mem_namesOf.mp listed)

end Json

/-- Two parts that leave values as they are say the same about each that can be shown. Both are of the same
kind, except that a schema object may concur with a truth value. -/
structure Part.Concurs (part other : Part) : Prop where
  runs : ∀ extent value, value.Presentable → part.reply extent value = other.reply extent value
  enters : ∀ extent value, value.Presentable → part.replyEntered extent value = other.replyEntered extent value
  keeps : part.Keeps .plain
  keeps' : other.Keeps .plain
  noArray : part.schema.isArray = false
  kind : part.schema.isObject = true ∧ (other.schema.isObject = true ∨ ∃ b, other = .flat (.bool b)) ∨
    part.schema.isObject = false ∧ part.schema = other.schema
  shown : part.schema.isShowable = true
  shown' : other.schema.isShowable = true

namespace Outcome

theorem inTurn_const {α : Type} (extent : Extent) (items : List α) (b : Bool) :
    inTurn extent (items.map fun _ => some b) = some (items.isEmpty || b) := by
  induction items with
  | nil => rfl
  | cons item rest ih =>
      cases b with
      | true => simpa [inTurn] using ih
      | false =>
          rw [List.map_cons, inTurn, ih]
          cases extent <;> rfl

/-- Lists of which each pair is related have the same images under functions that agree on such pairs. -/
theorem map_eq_map_of_forall₂ {α β γ : Type} {r : α → β → Prop} {items : List α} {others : List β}
    (related : List.Forall₂ r items others) {f : α → γ} {g : β → γ}
    (same : ∀ item other, r item other → f item = g other) : items.map f = others.map g := by
  induction related with
  | nil => rfl
  | cons first _ ih => rw [List.map_cons, List.map_cons, same _ _ first, ih]

end Outcome

namespace Part.Concurs

variable {part other : Part} {extent : Extent} {value : Json}

theorem below (concurs : part.Concurs other) (presentable : value.Presentable) (step : Step) :
    part.replyBelow extent step value = other.replyBelow extent step value := by
  unfold replyBelow
  cases found : value.child? step with
  | none => rfl
  | some child => exact concurs.enters extent child (Json.presentable_hereditary.child _ _ _ presentable found)

theorem replyEntered_flat_bool (b : Bool) (shown : value.isShowable = true) :
    (Part.flat (.bool b)).replyEntered extent value = some b := by
  cases b <;> simp [replyEntered, flat, Reference.enter, given, runFlat, refusal, shown]

/-- A part that concurs with a truth value accepts everything, or nothing. -/
theorem enters_bool {b : Bool} (concurs : part.Concurs (.flat (.bool b))) (presentable : value.Presentable) :
    part.replyEntered extent value = some b := by
  rw [concurs.enters extent value presentable, replyEntered_flat_bool b presentable.shown]

theorem noArray' (concurs : part.Concurs other) : other.schema.isArray = false := by
  rcases concurs.kind with ⟨-, isObject | ⟨b, rfl⟩⟩ | ⟨-, same⟩
  · cases schema : other.schema <;> simp_all [Json.isObject, Json.isArray]
  · rfl
  · exact same ▸ concurs.noArray

end Part.Concurs

namespace Structure

variable {argument argument' : Parts} {part part' : Part} {node node' : Node} {extent : Extent} {value : Json}
  {branches branches' : List Part}

theorem named_concur {members members' : List (Key × Part)} (related : Fields.Rel Part.Concurs members members')
    (presentable : value.Presentable) :
    (members.map fun member => member.2.replyBelow extent (.member member.1) value) =
      members'.map fun member => member.2.replyBelow extent (.member member.1) value := by
  refine map_eq_map_of_forall₂ related fun member member' both => ?_
  rw [both.1, both.2.below presentable]

theorem properties_concur (keep : argument.Keep .plain) (keep' : argument'.Keep .plain)
    {members members' : List (Key × Part)} (named : argument.named = .ok members)
    (named' : argument'.named = .ok members') (related : Fields.Rel Part.Concurs members members')
    (presentable : value.Presentable) :
    (properties argument .plain extent value).answer = (properties argument' .plain extent value).answer := by
  rw [answer_properties keep, answer_properties keep', named, named']
  simp only [Except.toOption, Option.bind_some, named_concur related presentable]

theorem patternProperties_concur (keep : argument.Keep .plain) (keep' : argument'.Keep .plain)
    {members members' : List (Key × Part)} (named : argument.named = .ok members)
    (named' : argument'.named = .ok members') (related : Fields.Rel Part.Concurs members members')
    (presentable : value.Presentable) :
    (patternProperties argument .plain extent value).answer =
      (patternProperties argument' .plain extent value).answer := by
  rw [answer_patternProperties keep, answer_patternProperties keep', named, named']
  simp only [Except.toOption, Option.bind_some]
  congr 2
  refine map_eq_map_of_forall₂ related fun member member' both => ?_
  rw [both.1]
  simp only [both.2.below presentable]

theorem propertyNames_concur (concurs : part.Concurs part') (presentable : value.Presentable) :
    (propertyNames part .plain extent value).answer = (propertyNames part' .plain extent value).answer := by
  rw [answer_propertyNames, answer_propertyNames]
  refine congrArg (inTurn extent) (List.map_congr_left fun name listed => ?_)
  exact concurs.enters extent _ (Json.presentable_hereditary.name _ _ presentable listed)

/-- A dependency that lists names is the same list, and one that is a schema concurs. -/
theorem dependencies_concur (keep : argument.Keep .plain) (keep' : argument'.Keep .plain)
    {members members' : List (Key × Part)} (named : argument.named = .ok members)
    (named' : argument'.named = .ok members')
    (related : Fields.Rel (fun part part' => part.schema.isArray = true ∧ part.schema = part'.schema ∨
      part.Concurs part') members members') (presentable : value.Presentable) :
    (dependencies argument .plain extent value).answer = (dependencies argument' .plain extent value).answer := by
  rw [answer_dependencies keep.members, answer_dependencies keep'.members, named, named']
  simp only [Except.toOption, Option.bind_some]
  congr 2
  refine map_eq_map_of_forall₂ related fun member member' both => ?_
  obtain ⟨name, part⟩ := member
  obtain ⟨name', part'⟩ := member'
  obtain ⟨rfl, ⟨listed, same⟩ | concurs⟩ := both
  · rw [answer_dependency, answer_dependency, ← same]
    cases schema : part.schema <;> simp_all [Json.isArray]
  · have noArray := concurs.noArray
    have noArray' := concurs.noArray'
    rw [answer_dependency, answer_dependency]
    cases schema : part.schema <;> cases schema' : part'.schema <;>
      simp_all [Json.isArray, concurs.enters extent value presentable]

theorem undeclaredNames_congr (patterns : node.patterns = node'.patterns)
    (declares : ∀ name, node.declares name = node'.declares name) :
    undeclaredNames node value = undeclaredNames node' value := by
  have same : node.declares = node'.declares := funext declares
  simp only [undeclaredNames, patterns, same]

theorem additionalProperties_concur (concurs : part.Concurs part')
    (same : undeclaredNames node value = undeclaredNames node' value) (presentable : value.Presentable) :
    (additionalProperties node part .plain extent value).answer =
      (additionalProperties node' part' .plain extent value).answer := by
  rw [answer_additionalProperties presentable.formed concurs.keeps,
    answer_additionalProperties presentable.formed concurs.keeps', ← same]
  cases found : undeclaredNames node value with
  | error fault => rfl
  | ok names =>
      simp only [Except.toOption, Option.bind_some]
      rcases concurs.kind with ⟨isObject, isObject' | ⟨b, rfl⟩⟩ | ⟨flat, same⟩
      · simp only [isObject, isObject', if_true, concurs.below presentable]
      · have everywhere : names.map (fun name => part.replyBelow extent (.member name) value) =
            names.map fun _ => some b := by
          refine List.map_congr_left fun name listed => ?_
          obtain ⟨child, there⟩ := Json.exists_child_of_mem presentable.formed (undeclaredNames_subset found listed)
          rw [Part.replyBelow, there]
          exact concurs.enters_bool (Json.presentable_hereditary.child _ _ _ presentable there)
        rw [if_pos isObject, everywhere, inTurn_const]
        rfl
      · simp only [← same, flat, Bool.false_eq_true, if_false]

theorem items_concur_all (keep : argument.Keep .plain) (keep' : argument'.Keep .plain)
    (concurs : argument.self.Concurs argument'.self) (presentable : value.Presentable) :
    (items argument .plain extent value).answer = (items argument' .plain extent value).answer := by
  rw [answer_items keep, answer_items keep', itemParts, itemParts, concurs.noArray, concurs.noArray']
  simp only [Bool.false_eq_true, if_false, atIndices_replicate, List.map_map]
  refine congrArg (inTurn extent) (List.map_congr_left fun i _ => ?_)
  exact concurs.below presentable _

theorem atIndices_concur (related : List.Forall₂ Part.Concurs branches branches') (presentable : value.Presentable)
    (start : Nat) :
    ((atIndices start branches).map fun entry => entry.2.replyBelow extent (.index entry.1) value) =
      (atIndices start branches').map fun entry => entry.2.replyBelow extent (.index entry.1) value := by
  induction related generalizing start with
  | nil => rfl
  | cons first _ ih => rw [atIndices, atIndices, List.map_cons, List.map_cons, first.below presentable, ih]

theorem items_concur_each (keep : argument.Keep .plain) (keep' : argument'.Keep .plain)
    (isArray : argument.self.schema.isArray = true) (isArray' : argument'.self.schema.isArray = true)
    (related : List.Forall₂ Part.Concurs argument.items argument'.items) (presentable : value.Presentable) :
    (items argument .plain extent value).answer = (items argument' .plain extent value).answer := by
  rw [answer_items keep, answer_items keep', itemParts, itemParts, if_pos isArray, if_pos isArray',
    atIndices_concur (List.forall₂_take _ related) presentable]

/-- The items beyond the declared ones are the same if `items` declares as many in both nodes. -/
theorem additionalItems_concur (concurs : part.Concurs part') {declared declared' : Parts}
    (found : node.argument? "items" = some declared) (found' : node'.argument? "items" = some declared')
    (objects : declared.self.schema.isObject = declared'.self.schema.isObject)
    (counts : declaredCount declared.self.schema = declaredCount declared'.self.schema)
    (presentable : value.Presentable) :
    (additionalItems node part .plain extent value).answer =
      (additionalItems node' part' .plain extent value).answer := by
  cases value with
  | array values =>
      rw [answer_additionalItems concurs.keeps found, answer_additionalItems concurs.keeps' found', ← objects,
        ← counts]
      cases (declaredCount declared.self.schema) with
      | error fault => rfl
      | ok count =>
          simp only [Except.toOption, Option.bind_some]
          have shown : (values.drop count).all Json.isShowable = true := by
            have all := presentable.shown
            rw [Json.isShowable, Json.itemsShowable_iff] at all
            exact List.all_eq_true.mpr fun item listed => all item (List.mem_of_mem_drop listed)
          rcases concurs.kind with ⟨isObject, isObject' | ⟨b, rfl⟩⟩ | ⟨flat, same⟩
          · simp only [isObject, isObject', if_true, concurs.below presentable]
          · have everywhere : (List.range' count (values.drop count).length).map
                (fun i => part.replyBelow extent (.index i) (.array values)) =
                  (List.range' count (values.drop count).length).map fun _ => some b := by
              refine List.map_congr_left fun i listed => ?_
              have bound : i < values.length := by
                have range := List.mem_range'_1.mp listed
                rw [List.length_drop] at range
                omega
              have there : (Json.array values).child? (.index i) = some values[i] := List.getElem?_eq_getElem bound
              rw [Part.replyBelow, there]
              exact concurs.enters_bool (Json.presentable_hereditary.child _ _ _ presentable there)
            rw [if_pos isObject, everywhere, inTurn_const, refusal, if_pos shown]
            refine if_congr Iff.rfl rfl ?_
            cases b <;> cases (values.drop count) <;>
              simp [Part.flat, Json.isObject, Json.isTruthy, List.range'_succ]
          · simp only [← same, flat, Bool.false_eq_true, if_false]
  | _ => simp [additionalItems]

theorem contains_concur (concurs : part.Concurs part') (presentable : value.Presentable) :
    (contains part .plain value).answer = (contains part' .plain value).answer := by
  cases value with
  | array values =>
      rw [answer_contains concurs.keeps, answer_contains concurs.keeps']
      refine congrArg (fun found => sought (firstOf found) _) (List.map_congr_left fun item listed => ?_)
      obtain ⟨i, inside, rfl⟩ := List.getElem_of_mem listed
      refine concurs.runs .first _ (Json.presentable_hereditary.child _ (.index i) _ presentable ?_)
      exact List.getElem?_eq_getElem inside
  | _ => simp [contains, Json.isArray]

section

variable (related : List.Forall₂ Part.Concurs branches branches') (presentable : value.Presentable)

include related

theorem keep_of_concur : (∀ branch ∈ branches, branch.Keeps .plain) ∧ ∀ branch ∈ branches', branch.Keeps .plain := by
  induction related with
  | nil => simp
  | cons first _ ih =>
      exact ⟨List.forall_mem_cons.mpr ⟨first.keeps, ih.1⟩, List.forall_mem_cons.mpr ⟨first.keeps', ih.2⟩⟩

include presentable

theorem allOf_concur :
    (allOf branches .plain extent value).answer = (allOf branches' .plain extent value).answer := by
  rw [answer_allOf (keep_of_concur related).1, answer_allOf (keep_of_concur related).2]
  exact congrArg (inTurn extent) (map_eq_map_of_forall₂ related fun _ _ concurs => concurs.enters extent value presentable)

theorem anyOf_concur : (anyOf branches .plain value).answer = (anyOf branches' .plain value).answer := by
  rw [answer_anyOf (keep_of_concur related).1, answer_anyOf (keep_of_concur related).2]
  refine congrArg (fun found => sought (firstOf found) value) ?_
  exact map_eq_map_of_forall₂ related fun _ _ concurs => concurs.enters .all value presentable

/-- Branches that concur agree on which of them accept, and every schema among them can be shown. -/
theorem agreeing_concur :
    (agreeing value branches = none ∧ agreeing value branches' = none) ∨
      ∃ found found', agreeing value branches = some found ∧ agreeing value branches' = some found' ∧
        found.isEmpty = found'.isEmpty ∧ found.all Json.isShowable = true ∧ found'.all Json.isShowable = true := by
  induction related with
  | nil => exact .inr ⟨[], [], rfl, rfl, rfl, rfl, rfl⟩
  | @cons first first' _ _ concurs _ ih =>
      rw [agreeing, agreeing, ← concurs.runs .first value presentable]
      cases first.reply .first value with
      | none => exact .inl ⟨rfl, rfl⟩
      | some valid =>
          rcases ih with ⟨none, none'⟩ | ⟨found, found', ended, ended', empty, shown, shown'⟩
          · exact .inl ⟨by rw [none]; rfl, by rw [none']; rfl⟩
          · rw [ended, ended']
            cases valid with
            | true => exact .inr ⟨_, _, rfl, rfl, rfl, by simpa [concurs.shown] using shown,
                by simpa [concurs.shown'] using shown'⟩
            | false => exact .inr ⟨_, _, rfl, rfl, empty, shown, shown'⟩

theorem oneOf_concur : (oneOf branches .plain value).answer = (oneOf branches' .plain value).answer := by
  rw [answer_oneOf (keep_of_concur related).1, answer_oneOf (keep_of_concur related).2]
  induction related with
  | nil => rfl
  | @cons first first' rest rest' concurs related ih =>
      rw [soleAnswer, soleAnswer, ← concurs.enters .all value presentable, ih]
      congr 1
      funext valid
      split
      · rcases agreeing_concur related presentable with ⟨none, none'⟩ |
          ⟨found, found', ended, ended', empty, shown, shown'⟩
        · rw [none, none']
          rfl
        · simp only [ended, ended', Option.bind_some, empty, refusal, List.all_cons, List.all_append, shown, shown',
            concurs.shown, concurs.shown', presentable.shown, List.all_nil]
      · rfl

end

theorem negation_concur (concurs : part.Concurs part') (presentable : value.Presentable) :
    (negation part .plain value).answer = (negation part' .plain value).answer := by
  rw [answer_negation concurs.keeps, answer_negation concurs.keeps', concurs.runs .first value presentable]
  simp [refusal, presentable.shown, concurs.shown, concurs.shown']

theorem conditional_concur (concurs : part.Concurs part')
    (both : ∀ keyword, keyword = "then" ∨ keyword = "else" →
      (node.argument? keyword = none ∧ node'.argument? keyword = none) ∨
        ∃ parts parts', node.argument? keyword = some parts ∧ node'.argument? keyword = some parts' ∧
          parts.self.Concurs parts'.self) (presentable : value.Presentable) :
    (conditional node part .plain extent value).answer = (conditional node' part' .plain extent value).answer := by
  rw [answer_conditional concurs.keeps, answer_conditional concurs.keeps', concurs.runs .first value presentable]
  congr 1
  funext valid
  have chosen : (if valid then "then" else "else") = "then" ∨ (if valid then "then" else "else") = "else" := by
    cases valid <;> simp
  rcases both _ chosen with ⟨none, none'⟩ | ⟨parts, parts', found, found', concurs'⟩
  · rw [none, none']
  · rw [found, found']
    exact concurs'.enters extent value presentable

end Structure

namespace Fields

variable {κ α β : Type} [DecidableEq κ]

/-- The same keys in the same order, with values that are related in a way that depends on their key. -/
def RelAt (r : κ → α → β → Prop) (fields : Fields κ α) (others : Fields κ β) : Prop :=
  List.Forall₂ (fun entry other => entry.1 = other.1 ∧ r entry.1 entry.2 other.2) fields others

theorem RelAt.get? {r : κ → α → β → Prop} {fields : Fields κ α} {others : Fields κ β}
    (related : RelAt r fields others) (key : κ) :
    (fields.get? key = none ∧ others.get? key = none) ∨
      ∃ value other, fields.get? key = some value ∧ others.get? key = some other ∧ r key value other := by
  induction related with
  | nil => exact .inl ⟨rfl, rfl⟩
  | @cons entry other fields others first _ ih =>
      obtain ⟨key', value⟩ := entry
      obtain ⟨key'', value'⟩ := other
      obtain ⟨rfl, holds⟩ := first
      rw [get?_cons, get?_cons]
      split
      · next same => exact .inr ⟨value, value', rfl, rfl, same ▸ holds⟩
      · exact ih

end Fields

namespace Schema

/-- Two arguments of a keyword correspond: the schemas that they hold are related, and where the keyword holds
no schemas they are equal. -/
def Corresponds (same : Json → Json → Prop) (keyword : String) (argument other : Json) : Prop :=
  match keyword with
  | "additionalItems" | "additionalProperties" | "contains" | "else" | "if" | "not"
  | "propertyNames" | "then" => same argument other
  | "allOf" | "anyOf" | "oneOf" =>
      ∃ items items', argument = .array items ∧ other = .array items' ∧ List.Forall₂ same items items'
  | "properties" | "patternProperties" =>
      ∃ members members', argument = .object members ∧ other = .object members' ∧ Fields.Rel same members members'
  | "dependencies" =>
      ∃ members members', argument = .object members ∧ other = .object members' ∧
        Fields.Rel (fun schema schema' => schema.isArray = true ∧ schema = schema' ∨ same schema schema')
          members members'
  | "items" =>
      (∃ items items', argument = .array items ∧ other = .array items' ∧ List.Forall₂ same items items') ∨
        same argument other
  | _ => keyword ∈ evaluatedKeywords → argument = other

/-- The keywords of two schema objects correspond one by one, and where items beyond the declared ones have a
schema, both declare them in one kind of value. -/
structure Parallel (same : Json → Json → Prop) (fields others : List (Key × Json)) : Prop where
  entries : Fields.RelAt (fun key argument other => ∀ keyword, key = Key.text keyword →
    Corresponds same keyword argument other) fields others
  counted : Fields.has fields "additionalItems" = true → ∀ argument other,
    Fields.get? fields "items" = some argument → Fields.get? others "items" = some other →
      argument.isObject = other.isObject

namespace Parallel

variable {same : Json → Json → Prop} {fields others : List (Key × Json)}

theorem get? (parallel : Parallel same fields others) (keyword : String) :
    (Fields.get? fields (.text keyword) = none ∧ Fields.get? others (.text keyword) = none) ∨
      ∃ argument other, Fields.get? fields (.text keyword) = some argument ∧
        Fields.get? others (.text keyword) = some other ∧ Corresponds same keyword argument other := by
  rcases parallel.entries.get? (.text keyword) with none | ⟨argument, other, found, found', related⟩
  · exact .inl none
  · exact .inr ⟨argument, other, found, found', related keyword rfl⟩

theorem has (parallel : Parallel same fields others) (keyword : String) :
    Fields.has others (.text keyword) = Fields.has fields (.text keyword) := by
  rcases parallel.get? keyword with ⟨none, none'⟩ | ⟨_, _, found, found', -⟩
  · rw [Fields.has, Fields.has, none, none']
  · rw [Fields.has, Fields.has, found, found']
    rfl

theorem keywords (parallel : Parallel same fields others) :
    List.Forall₂ (fun entry other => entry.1 = other.1 ∧ Corresponds same entry.1 entry.2 other.2 ∧
      (Key.text entry.1, entry.2) ∈ fields) (Evaluation.keywordsOf fields) (Evaluation.keywordsOf others) := by
  have inside : ∀ {fields' others' : List (Key × Json)}, Fields.RelAt (fun key argument other => ∀ keyword,
      key = Key.text keyword → Corresponds same keyword argument other) fields' others' → fields' ⊆ fields → List.Forall₂ (fun entry other => entry.1 = other.1 ∧
        Corresponds same entry.1 entry.2 other.2 ∧ (Key.text entry.1, entry.2) ∈ fields)
        (Evaluation.keywordsOf fields') (Evaluation.keywordsOf others') := by
    intro fields' others' related
    induction related with
    | nil => exact fun _ => .nil
    | @cons entry other fields' others' first _ ih =>
        intro listed
        obtain ⟨key, value⟩ := entry
        obtain ⟨key', value'⟩ := other
        obtain ⟨rfl, corresponds⟩ := first
        obtain ⟨here, later⟩ := List.cons_subset.mp listed
        cases key with
        | text keyword => exact .cons ⟨rfl, corresponds keyword rfl, here⟩ (ih later)
        | _ => exact ih later
  exact inside parallel.entries (List.Subset.refl _)

end Parallel

end Schema

namespace Evaluation

open Schema

/-- Two schemas say the same where they stand. -/
def Concur (meaning meaning' : Meaning) (location location' : String) (schema other : Json) : Prop :=
  (partWith meaning location schema).Concurs (partWith meaning' location' other)

section

variable {meaning meaning' : Meaning} {location location' : String} {fields others : List (Key × Json)}
  {argument other : Json} {extent : Extent} {value : Json}

theorem argumentWith_items (meaning : Meaning) (location : String) (items : List Json) :
    (argumentWith meaning location (.array items)).items = items.map (partWith meaning location) :=
  partsWith_eq_map ..

theorem partsWith_concur {items items' : List Json}
    (related : List.Forall₂ (Concur meaning meaning' location location') items items') :
    List.Forall₂ Part.Concurs (items.map (partWith meaning location)) (items'.map (partWith meaning' location')) :=
  List.forall₂_map_left_iff.mpr (List.forall₂_map_right_iff.mpr related)

theorem memberPartsWith_concur {r : Part → Part → Prop} {members members' : List (Key × Json)}
    (related : Fields.Rel (fun schema other => r (partWith meaning location schema) (partWith meaning' location' other))
      members members') :
    Fields.Rel r (members.map fun member => (member.1, partWith meaning location member.2))
      (members'.map fun member => (member.1, partWith meaning' location' member.2)) :=
  List.forall₂_map_left_iff.mpr (List.forall₂_map_right_iff.mpr related)

theorem branches_concur {items items' : List Json}
    (related : List.Forall₂ (Concur meaning meaning' location location') items items')
    {rule rule' : List Part → Outcome}
    (same : ∀ branches branches', List.Forall₂ Part.Concurs branches branches' →
      (rule branches).answer = (rule' branches').answer) :
    (given (argumentWith meaning location (.array items)).branches value rule).answer =
      (given (argumentWith meaning' location' (.array items')).branches value rule').answer := by
  rw [argumentWith_branches, argumentWith_branches]
  exact same _ _ (partsWith_concur related)

theorem declares_parallel (parallel : Parallel (Concur meaning meaning' location location') fields others)
    (name : Key) :
    (nodeWith meaning location fields).declares name = (nodeWith meaning' location' others).declares name := by
  rw [Node.declares, Node.declares, argument?_nodeWith, argument?_nodeWith]
  rcases parallel.get? "properties" with ⟨none, none'⟩ | ⟨_, _, found, found', members, members', rfl, rfl, related⟩
  · rw [none, none']
    rfl
  · simp only [found, found', Option.map_some, argumentWith_self, partWith_schema, Json.has, Json.get?, related.keys]
    exact congrArg Except.ok (related.has _)

theorem patterns_parallel (parallel : Parallel (Concur meaning meaning' location location') fields others) :
    (nodeWith meaning location fields).patterns = (nodeWith meaning' location' others).patterns := by
  rw [Node.patterns, Node.patterns, argument?_nodeWith, argument?_nodeWith]
  rcases parallel.get? "patternProperties" with ⟨none, none'⟩ |
    ⟨_, _, found, found', members, members', rfl, rfl, related⟩
  · rw [none, none']
    rfl
  · simp only [found, found', Option.map_some, argumentWith_self, partWith_schema, Json.elements?, related.keys]

theorem declaredCount_corresponds
    (corresponds : Corresponds (Concur meaning meaning' location location') "items" argument other) :
    Structure.declaredCount argument = Structure.declaredCount other := by
  rcases corresponds with ⟨items, items', rfl, rfl, related⟩ | concurs
  · rw [Structure.declaredCount, Structure.declaredCount, related.length_eq]
  · have kind := concurs.kind
    simp only [partWith_schema] at kind
    rcases kind with ⟨isObject, isObject' | ⟨b, isFlat⟩⟩ | ⟨-, same⟩
    · cases argument <;> cases other <;> simp_all [Json.isObject, Structure.declaredCount]
    · have same : other = .bool b := by
        rw [← partWith_schema meaning' location' other, isFlat]
        rfl
      cases argument <;> simp_all [Json.isObject, Structure.declaredCount]
    · rw [same]

theorem additionalItems_parallel
    (parallel : Parallel (Concur meaning meaning' location location') fields others)
    (present : (Key.text "additionalItems", argument) ∈ fields)
    (concurs : Concur meaning meaning' location location' argument other) (presentable : value.Presentable) :
    (Structure.additionalItems (nodeWith meaning location fields) (partWith meaning location argument) .plain extent
        value).answer =
      (Structure.additionalItems (nodeWith meaning' location' others) (partWith meaning' location' other) .plain
        extent value).answer := by
  rcases parallel.get? "items" with ⟨none, none'⟩ | ⟨declared, declared', found, found', corresponds⟩
  · simp only [Structure.additionalItems, argument?_nodeWith, none, none', Option.map_none]
  · have extra : Fields.has fields "additionalItems" = true :=
      (Fields.has_iff_mem_keys ..).mpr (List.mem_map_of_mem present)
    have objects := parallel.counted extra declared declared' found found'
    refine Structure.additionalItems_concur concurs (by rw [argument?_nodeWith, found]; rfl)
      (by rw [argument?_nodeWith, found']; rfl) ?_ ?_ presentable
    · simpa only [argumentWith_self, partWith_schema] using objects
    · simpa only [argumentWith_self, partWith_schema] using declaredCount_corresponds corresponds

variable (kept : meaning.Keeps) (kept' : meaning'.Keeps)
  (parallel : Parallel (Concur meaning meaning' location location') fields others)

include kept kept' parallel

/-- Corresponding keywords of parallel schema objects give the same answer. -/
theorem evaluate_concur {keyword : String} (present : (Key.text keyword, argument) ∈ fields)
    (corresponds : Corresponds (Concur meaning meaning' location location') keyword argument other)
    (presentable : value.Presentable) :
    (Structure.evaluate (nodeWith meaning location fields) keyword (argumentWith meaning location argument) .plain
        extent value).answer =
      (Structure.evaluate (nodeWith meaning' location' others) keyword (argumentWith meaning' location' other) .plain
        extent value).answer := by
  by_cases evaluated : keyword ∈ evaluatedKeywords
  · have keep := argumentWith_keep kept argument location
    have keep' := argumentWith_keep kept' other location'
    unfold Structure.evaluate
    split
    · rfl
    · obtain ⟨members, members', rfl, rfl, related⟩ := corresponds
      exact Structure.properties_concur keep keep' (argumentWith_named ..) (argumentWith_named ..)
        (memberPartsWith_concur related) presentable
    · obtain rfl := corresponds evaluated
      simp only [argumentWith_self, partWith_schema]
      rfl
    · obtain ⟨members, members', rfl, rfl, related⟩ := corresponds
      exact Structure.patternProperties_concur keep keep' (argumentWith_named ..) (argumentWith_named ..)
        (memberPartsWith_concur related) presentable
    · refine Structure.additionalProperties_concur corresponds ?_ presentable
      exact Structure.undeclaredNames_congr (patterns_parallel parallel) (declares_parallel parallel)
    · exact Structure.propertyNames_concur corresponds presentable
    · obtain ⟨members, members', rfl, rfl, related⟩ := corresponds
      refine Structure.dependencies_concur keep keep' (argumentWith_named ..) (argumentWith_named ..)
        (memberPartsWith_concur ?_) presentable
      simp only [partWith_schema]
      exact related
    · rcases corresponds with ⟨items, items', rfl, rfl, related⟩ | concurs
      · refine Structure.items_concur_each keep keep' rfl rfl ?_ presentable
        rw [argumentWith_items, argumentWith_items]
        exact partsWith_concur related
      · exact Structure.items_concur_all keep keep' concurs presentable
    · exact additionalItems_parallel parallel present corresponds presentable
    · exact Structure.contains_concur corresponds presentable
    · obtain ⟨items, items', rfl, rfl, related⟩ := corresponds
      exact branches_concur related fun _ _ concur => Structure.allOf_concur concur presentable
    · obtain ⟨items, items', rfl, rfl, related⟩ := corresponds
      exact branches_concur related fun _ _ concur => Structure.anyOf_concur concur presentable
    · obtain ⟨items, items', rfl, rfl, related⟩ := corresponds
      exact branches_concur related fun _ _ concur => Structure.oneOf_concur concur presentable
    · exact Structure.negation_concur corresponds presentable
    · refine Structure.conditional_concur corresponds (fun branch either => ?_) presentable
      rw [argument?_nodeWith, argument?_nodeWith]
      rcases parallel.get? branch with ⟨none, none'⟩ | ⟨_, _, found, found', concurs⟩
      · exact .inl ⟨by rw [none]; rfl, by rw [none']; rfl⟩
      · refine .inr ⟨_, _, by rw [found]; rfl, by rw [found']; rfl, ?_⟩
        rcases either with rfl | rfl <;> exact concurs
    · have same : argument = other := by
        unfold Corresponds at corresponds
        split at corresponds <;> first | exact corresponds evaluated | contradiction
      simp only [same, argumentWith_self, partWith_schema]
  · rw [Structure.evaluate_silent evaluated, Structure.evaluate_silent evaluated]

end

/-- A schema object that is no reference, gives itself no location and names no dialect. -/
structure Bare (fields : List (Key × Json)) : Prop where
  noReference : Fields.has fields "$ref" = false
  noLocation : Fields.has fields "$id" = false
  noDialect : Fields.has fields "$schema" = false

section

variable {meaning meaning' : Meaning} {location location' : String} {fields others : List (Key × Json)}

theorem get?_of_has {keyword : Key} (missing : Fields.has fields keyword = false) :
    Fields.get? fields keyword = none := by
  simpa [Fields.has] using missing

theorem Bare.reply (bare : Bare fields) (kept : meaning.Keeps) (extent : Extent) (value : Json) :
    (partWith meaning location (.object fields)).reply extent value =
      inTurn extent ((keywordsOf fields).map fun entry =>
        (Structure.evaluate (nodeWith meaning location fields) entry.1 (argumentWith meaning location entry.2)
          .plain extent value).answer) := by
  have inForce : optionsIn fields .plain = .ok .plain := by
    rw [optionsIn, get?_of_has bare.noDialect]
  simp only [partWith_object, Part.reply, runNode, inForce]
  exact answer_evaluateNode kept location bare.noReference extent value

theorem Bare.replyEntered (bare : Bare fields) (extent : Extent) (value : Json) :
    (partWith meaning location (.object fields)).replyEntered extent value =
      (partWith meaning location (.object fields)).reply extent value := by
  have enters : Reference.enter location (.object fields) = .ok location := by
    simp only [Reference.enter, bare.noReference, get?_of_has bare.noLocation, Reference.locationIn,
      Reference.ownLocation?, Bool.false_eq_true, if_false]
  rw [Part.replyEntered, enter_eq_given, enters]
  rfl

/-- Parallel schema objects without references say the same. -/
theorem concur_object (kept : meaning.Keeps) (kept' : meaning'.Keeps) (bare : Bare fields)
    (parallel : Parallel (Concur meaning meaning' location location') fields others)
    (shown : (Json.object fields).isShowable = true) (shown' : (Json.object others).isShowable = true) :
    Concur meaning meaning' location location' (.object fields) (.object others) := by
  have bare' : Bare others := ⟨(parallel.has _).trans bare.noReference, (parallel.has _).trans bare.noLocation,
    (parallel.has _).trans bare.noDialect⟩
  have runs : ∀ extent value, value.Presentable → (partWith meaning location (.object fields)).reply extent value =
      (partWith meaning' location' (.object others)).reply extent value := by
    intro extent value presentable
    rw [bare.reply kept, bare'.reply kept']
    refine congrArg (inTurn extent) (map_eq_map_of_forall₂ parallel.keywords fun entry other both => ?_)
    obtain ⟨same, corresponds, present⟩ := both
    rw [← same]
    exact evaluate_concur kept kept' parallel present corresponds presentable
  exact {
    runs
    enters := fun extent value presentable => by
      rw [bare.replyEntered, bare'.replyEntered, runs extent value presentable]
    keeps := partWith_keeps kept _ _
    keeps' := partWith_keeps kept' _ _
    noArray := rfl
    kind := .inl ⟨rfl, .inl rfl⟩
    shown
    shown' }

theorem concur_bool (b : Bool) : Concur meaning meaning' location location' (.bool b) (.bool b) where
  runs _ _ _ := rfl
  enters _ _ _ := rfl
  keeps := Part.flat_keeps _
  keeps' := Part.flat_keeps _
  noArray := rfl
  kind := .inr ⟨rfl, rfl⟩
  shown := rfl
  shown' := rfl

end

end Evaluation

end SchemaAlgebra
