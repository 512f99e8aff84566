import SchemaAlgebra.Proofs.Schema.Arguments
import SchemaAlgebra.Proofs.Validation.Concurrence
import SchemaAlgebra.Proofs.Validation.Undeclared

/-!
Evaluation without normalization does not depend on the order of keys. An evaluation that ends in a fault may do
so for one order and not for the other; answers are compatible if none is the opposite of the other. Each keyword
has compatible answers if what it looks at has, and so has the row of keywords of a schema object in any order.
-/

namespace SchemaAlgebra

open Outcome
open Json (Reordered)

namespace Outcome

/-- Two answers that do not contradict each other: they are the same, or one of them is missing. -/
def Compatible (answer other : Option Bool) : Prop :=
  ∀ b b', answer = some b → other = some b' → b' = b

theorem compatible_none (answer : Option Bool) : Compatible answer none := by
  intro b b' _ absent
  cases absent

theorem none_compatible (answer : Option Bool) : Compatible none answer := by
  intro b b' absent
  cases absent

theorem compatible_refl (answer : Option Bool) : Compatible answer answer := by
  intro b b' found found'
  exact Option.some.inj (found'.symm.trans found)

theorem compatible_of_eq {answer other : Option Bool} (same : answer = other) : Compatible answer other :=
  same ▸ compatible_refl answer

theorem compatible_bind {α β : Type} {found : Option α} {found' : Option β} {f : α → Option Bool}
    {g : β → Option Bool} (each : ∀ a b, found = some a → found' = some b → Compatible (f a) (g b)) :
    Compatible (found.bind f) (found'.bind g) := by
  cases found with
  | none => exact none_compatible _
  | some a =>
      cases found' with
      | none => exact compatible_none _
      | some b => exact each a b rfl rfl

/-- What is done with answers that are compatible is compatible if it is for each answer. -/
theorem Compatible.bind {answer other : Option Bool} (compatible : Compatible answer other)
    {f g : Bool → Option Bool} (each : ∀ b, Compatible (f b) (g b)) : Compatible (answer.bind f) (other.bind g) := by
  refine compatible_bind fun b b' found found' => ?_
  rw [compatible b b' found found']
  exact each b

theorem compatible_refusal (shown shown' : List Json) : Compatible (refusal shown) (refusal shown') := by
  unfold refusal
  split
  · split
    · exact compatible_refl _
    · exact compatible_none _
  · exact none_compatible _

/-- Two refusals and two acceptances do not contradict each other. -/
theorem compatible_unless {refused refused' : Bool} (same : refused' = refused) {value value' : Json}
    {keyword keyword' message message' : String} {shown shown' : List Json} :
    Compatible (if refused then reject value keyword shown message else accept value).answer
      (if refused' then reject value' keyword' shown' message' else accept value').answer := by
  cases same
  cases refused with
  | true =>
      simp only [if_true, answer_reject]
      exact compatible_refusal _ _
  | false => exact compatible_refl _

theorem inTurn_eq_true {extent : Extent} {answers : List (Option Bool)} :
    inTurn extent answers = some true ↔ ∀ answer ∈ answers, answer = some true := by
  induction answers with
  | nil => simp [inTurn]
  | cons answer rest ih =>
      rcases answer with _ | _ | _
      · simp [inTurn]
      · cases extent with
        | first => simp [inTurn]
        | all => cases later : inTurn .all rest <;> simp [inTurn, later]
      · simpa [inTurn] using ih

theorem false_mem_of_inTurn {extent : Extent} {answers : List (Option Bool)}
    (ended : inTurn extent answers = some false) : some false ∈ answers := by
  induction answers with
  | nil => simp [inTurn] at ended
  | cons answer rest ih =>
      rcases answer with _ | _ | _
      · simp [inTurn] at ended
      · exact List.mem_cons_self
      · exact List.mem_cons_of_mem _ (ih (by simpa [inTurn] using ended))

/-- Rows of evaluations are compatible if the evaluations are, in whatever order. -/
theorem compatible_inTurn {answers answers' : List (Option Bool)} (matched : Matched Compatible answers answers')
    (extent extent' : Extent) : Compatible (inTurn extent answers) (inTurn extent' answers') := by
  intro b b' ended ended'
  cases b with
  | true =>
      cases b' with
      | true => rfl
      | false =>
          obtain ⟨answer, listed, compatible⟩ := matched.back _ (false_mem_of_inTurn ended')
          exact compatible _ _ (inTurn_eq_true.mp ended answer listed) rfl
  | false =>
      cases b' with
      | false => rfl
      | true =>
          obtain ⟨answer, listed, compatible⟩ := matched.there _ (false_mem_of_inTurn ended)
          exact compatible _ _ rfl (inTurn_eq_true.mp ended' answer listed)

theorem true_mem_of_firstOf {answers : List (Option Bool)} (ended : firstOf answers = some true) :
    some true ∈ answers := by
  induction answers with
  | nil => simp [firstOf] at ended
  | cons answer rest ih =>
      rcases answer with _ | _ | _
      · simp [firstOf] at ended
      · exact List.mem_cons_of_mem _ (ih (by simpa [firstOf] using ended))
      · exact List.mem_cons_self

theorem firstOf_eq_false {answers : List (Option Bool)} :
    firstOf answers = some false ↔ ∀ answer ∈ answers, answer = some false := by
  induction answers with
  | nil => simp [firstOf]
  | cons answer rest ih =>
      rcases answer with _ | _ | _
      · simp [firstOf]
      · simpa [firstOf] using ih
      · simp [firstOf]

theorem compatible_firstOf {answers answers' : List (Option Bool)} (matched : Matched Compatible answers answers') :
    Compatible (firstOf answers) (firstOf answers') := by
  intro b b' ended ended'
  cases b with
  | true =>
      cases b' with
      | true => rfl
      | false =>
          obtain ⟨answer, listed, compatible⟩ := matched.there _ (true_mem_of_firstOf ended)
          exact compatible _ _ rfl (firstOf_eq_false.mp ended' answer listed)
  | false =>
      cases b' with
      | false => rfl
      | true =>
          obtain ⟨answer, listed, compatible⟩ := matched.back _ (true_mem_of_firstOf ended')
          exact compatible _ _ (firstOf_eq_false.mp ended answer listed) rfl

theorem compatible_toOption {ε ε' α β : Type} {found : Except ε α} {found' : Except ε' β} {f : α → Option Bool}
    {g : β → Option Bool} (each : ∀ a b, found = .ok a → found' = .ok b → Compatible (f a) (g b)) :
    Compatible (found.toOption.bind f) (found'.toOption.bind g) := by
  refine compatible_bind fun a b there there' => each a b ?_ ?_
  · cases found <;> simp_all [Except.toOption]
  · cases found' <;> simp_all [Except.toOption]

end Outcome

/-- Two parts that leave values as they are and never contradict each other about values that differ in the order
of keys only. -/
structure Part.Accords (part other : Part) : Prop where
  runs : ∀ extent extent' value value', Reordered value value' →
    Compatible (part.reply extent value) (other.reply extent' value')
  enters : ∀ extent extent' value value', Reordered value value' →
    Compatible (part.replyEntered extent value) (other.replyEntered extent' value')
  keeps : part.Keeps .plain
  keeps' : other.Keeps .plain
  schema : Reordered part.schema other.schema

theorem Part.Accords.below {part other : Part} (accords : part.Accords other) {value value' : Json}
    (reordered : Reordered value value') {step : Step} (exactly : Json.IsExact step) (extent extent' : Extent) :
    Compatible (part.replyBelow extent step value) (other.replyBelow extent' step value') := by
  unfold replyBelow
  rcases reordered.child? exactly with ⟨missing, missing'⟩ | ⟨child, child', found, found', related⟩
  · rw [missing, missing']
    exact compatible_refl _
  · rw [found, found']
    exact accords.enters extent extent' child child' related

theorem keeps_of_accord {branches branches' : List Part} (accord : List.Forall₂ Part.Accords branches branches') :
    ∀ branch ∈ branches, branch.Keeps .plain := by
  intro branch listed
  obtain ⟨_, -, accords⟩ := (Matched.of_forall₂ accord).there branch listed
  exact accords.keeps

theorem keeps_of_accord' {branches branches' : List Part} (accord : List.Forall₂ Part.Accords branches branches') :
    ∀ branch ∈ branches', branch.Keeps .plain := by
  intro branch listed
  obtain ⟨_, -, accords⟩ := (Matched.of_forall₂ accord).back branch listed
  exact accords.keeps'

/-- Two named parts have one name, which is a text, and are related. -/
def Part.Named (related : Part → Part → Prop) (member other : Key × Part) : Prop :=
  other.1 = member.1 ∧ (∃ name, member.1 = .text name) ∧ related member.2 other.2

namespace Structure

variable {argument argument' : Parts} {part part' : Part} {node node' : Node} {extent extent' : Extent}
  {value value' : Json} {branches branches' : List Part} (reordered : Reordered value value')

include reordered

theorem properties_accord (keep : argument.Keep .plain) (keep' : argument'.Keep .plain)
    (matched : ∀ members members', argument.named = .ok members → argument'.named = .ok members' →
      Matched (Part.Named Part.Accords) members members') :
    Compatible (properties argument .plain extent value).answer
      (properties argument' .plain extent' value').answer := by
  rw [answer_properties keep, answer_properties keep', reordered.isObject]
  split
  · refine compatible_toOption fun members members' named named' => compatible_inTurn ?_ _ _
    refine (matched members members' named named').map fun member _ member' _ both => ?_
    obtain ⟨same, ⟨name, isText⟩, accords⟩ := both
    rw [same]
    exact accords.below reordered (isText ▸ .text name) _ _
  · exact compatible_refl _

theorem matchingNames_reordered {name : String} {found found' : List Key}
    (matching : matchingNames (.text name) value = .ok found)
    (matching' : matchingNames (.text name) value' = .ok found')
    (key : Key) : key ∈ found ↔ key ∈ found' := by
  rw [(mem_matchingNames reordered.formed matching).2, (mem_matchingNames reordered.formed' matching').2,
    reordered.namesOf.mem_iff]

theorem patternProperties_accord (keep : argument.Keep .plain) (keep' : argument'.Keep .plain)
    (matched : ∀ members members', argument.named = .ok members → argument'.named = .ok members' →
      Matched (Part.Named Part.Accords) members members') :
    Compatible (patternProperties argument .plain extent value).answer
      (patternProperties argument' .plain extent' value').answer := by
  rw [answer_patternProperties keep, answer_patternProperties keep', reordered.isObject]
  split
  · refine compatible_toOption fun members members' named named' => compatible_inTurn ?_ _ _
    refine (matched members members' named named').map fun member _ member' _ both => ?_
    obtain ⟨same, ⟨name, isText⟩, accords⟩ := both
    rw [same, isText]
    refine compatible_toOption fun found found' matching matching' => compatible_inTurn ?_ _ _
    refine (Matched.of_same (matchingNames_reordered reordered matching matching')).map ?_
    rintro key listed _ - rfl
    obtain ⟨-, text, rfl, -⟩ := ((mem_matchingNames reordered.formed matching).2 _).mp listed
    exact accords.below reordered (.text text) _ _
  · exact compatible_refl _

theorem additionalProperties_accord {meaning meaning' : Evaluation.Meaning} {location location' : String}
    {fields others : List (Key × Json)} (node : Reordered (.object fields) (.object others))
    (names : Schema.Names fields) (joins : Schema.Joins fields) (joins' : Schema.Joins others)
    (accords : part.Accords part') :
    Compatible (additionalProperties (Evaluation.nodeWith meaning location fields) part .plain extent value).answer
      (additionalProperties (Evaluation.nodeWith meaning' location' others) part' .plain extent' value').answer := by
  rw [answer_additionalProperties reordered.formed accords.keeps,
    answer_additionalProperties reordered.formed' accords.keeps',
    reordered.isObject, accords.schema.isObject, accords.schema.isTruthy]
  split
  · refine compatible_toOption fun found found' undeclared undeclared' => ?_
    obtain ⟨-, listed⟩ := mem_undeclaredNames names reordered.formed undeclared
    obtain ⟨-, listed'⟩ := mem_undeclaredNames (names.reordered node) reordered.formed' undeclared'
    have same : ∀ key, key ∈ found ↔ key ∈ found' := by
      intro key
      simp only [listed, listed', reordered.namesOf.mem_iff, Schema.undeclared_reordered node names joins joins']
    split
    · refine compatible_inTurn ((Matched.of_same same).map ?_) _ _
      rintro key present _ - rfl
      obtain ⟨-, name, rfl, -⟩ := (listed _).mp present
      exact accords.below reordered (.text name) _ _
    · have empty : found'.isEmpty = found.isEmpty := by
        rw [Bool.eq_iff_iff, List.isEmpty_iff, List.isEmpty_iff, List.eq_nil_iff_forall_not_mem,
          List.eq_nil_iff_forall_not_mem]
        simp only [same]
      rw [empty]
      exact compatible_refl _
  · exact compatible_refl _

theorem items_accord (keep : argument.Keep .plain) (keep' : argument'.Keep .plain)
    (matched : Matched (fun entry entry' => entry'.1 = entry.1 ∧ entry.2.Accords entry'.2)
      (itemParts argument (itemCount value)) (itemParts argument' (itemCount value'))) :
    Compatible (items argument .plain extent value).answer (items argument' .plain extent' value').answer := by
  rw [answer_items keep, answer_items keep']
  refine compatible_inTurn (matched.map fun entry _ entry' _ both => ?_) _ _
  rw [both.1]
  exact both.2.below reordered (.index _) _ _

theorem additionalItems_accord {declared declared' : Parts} (found : node.argument? "items" = some declared)
    (found' : node'.argument? "items" = some declared')
    (related : Reordered declared.self.schema declared'.self.schema)
    (accords : part.Accords part') :
    Compatible (additionalItems node part .plain extent value).answer
      (additionalItems node' part' .plain extent' value').answer := by
  cases reordered with
  | scalar noArray noObject =>
      cases value with
      | array => cases noArray
      | _ => exact compatible_refl _
  | object => exact compatible_refl _
  | @array listed listed' lengths each =>
      have reordered := Reordered.array lengths each
      rw [answer_additionalItems accords.keeps found, answer_additionalItems accords.keeps' found', related.isObject,
        accords.schema.isObject, accords.schema.isTruthy]
      have counted : declaredCount declared'.self.schema = declaredCount declared.self.schema := by
        generalize declared.self.schema = schema, declared'.self.schema = schema' at related
        cases related with
        | scalar => rfl
        | object => rfl
        | array lengths => simp only [declaredCount, lengths]
      rw [counted]
      split
      · exact compatible_refl _
      · refine compatible_toOption fun count count' here here' => ?_
        obtain rfl := Except.ok.inj (here.symm.trans here')
        have beyond : (listed'.drop count).length = (listed.drop count).length := by
          rw [List.length_drop, List.length_drop, lengths]
        rw [beyond, Reordered.isEmpty_eq_of_length beyond]
        split
        · refine compatible_inTurn ((Matched.of_same fun _ => Iff.rfl).map ?_) _ _
          rintro i - _ - rfl
          exact accords.below reordered (.index _) _ _
        · split
          · exact compatible_refl _
          · exact compatible_refusal _ _

omit reordered in
/-- A search for something that is accepted. -/
theorem compatible_sought {found found' : Option Bool} (compatible : Compatible found found') :
    Compatible (sought found value) (sought found' value') := by
  refine compatible.bind fun b => ?_
  cases b with
  | true => exact compatible_refl _
  | false => exact compatible_refusal _ _

theorem contains_accord (accords : part.Accords part') :
    Compatible (contains part .plain value).answer (contains part' .plain value').answer := by
  cases reordered with
  | scalar noArray noObject =>
      cases value with
      | array => cases noArray
      | _ => exact compatible_refl _
  | object => exact compatible_refl _
  | array lengths each =>
      have reordered := Reordered.array lengths each
      rw [answer_contains accords.keeps, answer_contains accords.keeps']
      refine compatible_sought (compatible_firstOf ((Matched.of_forall₂ reordered.items).map ?_))
      exact fun item _ item' _ related => accords.runs _ _ _ _ related

theorem allOf_accord (accord : List.Forall₂ Part.Accords branches branches') :
    Compatible (allOf branches .plain extent value).answer (allOf branches' .plain extent' value').answer := by
  rw [answer_allOf (keeps_of_accord accord), answer_allOf (keeps_of_accord' accord)]
  refine compatible_inTurn ((Matched.of_forall₂ accord).map fun branch _ branch' _ accords => ?_) _ _
  exact accords.enters _ _ _ _ reordered

theorem anyOf_accord (accord : List.Forall₂ Part.Accords branches branches') :
    Compatible (anyOf branches .plain value).answer (anyOf branches' .plain value').answer := by
  rw [answer_anyOf (keeps_of_accord accord), answer_anyOf (keeps_of_accord' accord)]
  refine compatible_sought (compatible_firstOf ((Matched.of_forall₂ accord).map ?_))
  exact fun branch _ branch' _ accords => accords.enters _ _ _ _ reordered

/-- The same branches agree, as far as both searches find out. -/
theorem agreeing_accord (accord : List.Forall₂ Part.Accords branches branches') :
    ∀ others others', agreeing value branches = some others → agreeing value' branches' = some others' →
      others'.length = others.length := by
  induction accord with
  | nil =>
      intro others others' found found'
      obtain rfl := Option.some.inj found
      obtain rfl := Option.some.inj found'
      rfl
  | @cons branch branch' rest rest' accords _ ih =>
      intro others others' found found'
      rw [agreeing, Option.bind_eq_some_iff] at found found'
      obtain ⟨b, ran, found⟩ := found
      obtain ⟨b', ran', found'⟩ := found'
      obtain ⟨later, listed, rfl⟩ := Option.map_eq_some_iff.mp found
      obtain ⟨later', listed', rfl⟩ := Option.map_eq_some_iff.mp found'
      have same := ih later later' listed listed'
      rw [accords.runs _ _ _ _ reordered b b' ran ran']
      cases b <;> simp [same]

theorem oneOf_accord (accord : List.Forall₂ Part.Accords branches branches') :
    Compatible (oneOf branches .plain value).answer (oneOf branches' .plain value').answer := by
  rw [answer_oneOf (keeps_of_accord accord), answer_oneOf (keeps_of_accord' accord)]
  induction accord with
  | nil => exact compatible_refusal _ _
  | @cons branch branch' rest rest' accords later ih =>
      rw [soleAnswer, soleAnswer]
      refine (accords.enters _ _ _ _ reordered).bind fun b => ?_
      cases b with
      | false => exact ih
      | true =>
          simp only [if_true]
          refine compatible_bind fun others others' found found' => ?_
          rw [Reordered.isEmpty_eq_of_length (agreeing_accord reordered later others others' found found')]
          split
          · exact compatible_refl _
          · exact compatible_refusal _ _

theorem negation_accord (accords : part.Accords part') :
    Compatible (negation part .plain value).answer (negation part' .plain value').answer := by
  rw [answer_negation accords.keeps, answer_negation accords.keeps']
  refine (accords.runs _ _ _ _ reordered).bind fun b => ?_
  cases b with
  | false => exact compatible_refl _
  | true => exact compatible_refusal _ _

theorem conditional_accord (accords : part.Accords part')
    (either : ∀ keyword ∈ ["then", "else"], (node.argument? keyword = none ∧ node'.argument? keyword = none) ∨
      ∃ parts parts', node.argument? keyword = some parts ∧ node'.argument? keyword = some parts' ∧
        parts.self.Accords parts'.self) :
    Compatible (conditional node part .plain extent value).answer
      (conditional node' part' .plain extent' value').answer := by
  rw [answer_conditional accords.keeps, answer_conditional accords.keeps']
  refine (accords.runs _ _ _ _ reordered).bind fun b => ?_
  have listed : (if b then "then" else "else") ∈ ["then", "else"] := by cases b <;> simp
  rcases either _ listed with ⟨missing, missing'⟩ | ⟨parts, parts', found, found', accords'⟩
  · rw [missing, missing']
    exact compatible_refl _
  · rw [found, found']
    exact accords'.enters _ _ _ _ reordered

end Structure

end SchemaAlgebra
