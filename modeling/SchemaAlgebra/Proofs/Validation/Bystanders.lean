import SchemaAlgebra.Proofs.Validation.Footprints

/-!
The keywords that apply no schema to children. Most of them normalize nothing and only look; what `required` looks
for it finds after the defaults are filled in; `allOf` and `if` may hand the whole value on to schemas that edit it.
-/

namespace SchemaAlgebra

open Outcome Evaluation Schema
open Json (Reordered SameShape IsExact child?)

variable {options : Options} {fields others : List (Key × Json)} {extent extent' : Extent}

namespace Json

variable {value value' : Json}

theorem namesOf_perm (formed : value.wellFormed = true) (formed' : value'.wellFormed = true)
    (same : ∀ name : String, (value'.child? (.member (.text name))).isSome = (value.child?
      (.member (.text name))).isSome) :
    (namesOf value).Perm (namesOf value') := by
  refine perm_of_mem_iff (namesOf_nodup formed) (namesOf_nodup formed') fun key => ?_
  constructor
  · intro listed
    obtain ⟨name, rfl⟩ := namesOf_text formed listed
    rwa [text_mem_namesOf, same, ← text_mem_namesOf]
  · intro listed
    obtain ⟨name, rfl⟩ := namesOf_text formed' listed
    rwa [text_mem_namesOf, ← same, ← text_mem_namesOf]

/-- Values of one shape whose children differ in the order of keys only do so too. -/
theorem reordered_of_children (shape : SameShape value value') (formed : value.wellFormed = true)
    (formed' : value'.wellFormed = true)
    (same : ∀ step, IsExact step → Option.Rel Reordered (value.child? step) (value'.child? step)) :
    Reordered value value' := by
  cases shape with
  | same => exact reordered_refl formed
  | array lengths =>
      refine .array lengths fun i item item' found found' => ?_
      have related := same (.index i) (.index i)
      simp only [Json.child?, found, found'] at related
      cases related
      assumption
  | object fields others =>
      obtain ⟨textual, distinct, -⟩ := (wellFormed_object fields).mp formed
      have perm := namesOf_perm formed formed' fun name =>
        by
          have alike : (Aspect.child (.member (.text name))).Alike (Json.object fields).child?
            (Json.object others).child? :=
            same (.member (.text name)) (.text name)
          exact alike.presence
      refine .object (fun key listed => ?_) distinct perm fun key child child' found found' => ?_
      · obtain ⟨entry, present, rfl⟩ := List.mem_map.mp listed
        exact textual entry present
      · obtain ⟨name, rfl⟩ := textual _ (Fields.mem_of_get? found)
        have related := same (.member (.text name)) (.text name)
        rw [child?_text, child?_text, found, found'] at related
        cases related
        assumption

end Json

theorem Schema.Inert.agrees {schema : Json} (formed : schema.wellFormed = true)
    (closed : Reference.count "$ref" schema = 0)
    (inert : Inert options schema) : (alone schema).Agrees (fun _ => True) options (alone schema) := by
  refine ⟨rfl, fun value _ extent => inert.run formed extent value, fun value _ extent => ?_, alone_keeps schema⟩
  rw [alone_enter closed, alone_enter closed]
  exact congrArg (given _ value) (funext fun _ => inert.run formed extent value)

/-- The keywords that only look, at a value as it is. -/
structure Silent (options : Options) (fields : List (Key × Json)) (keyword : String) : Prop where
  aside : keyword ∉ childKeywords
  notRequired : keyword ≠ "required"
  held : ∀ argument, Fields.get? fields (.text keyword) = some argument → keyword ≠ "propertyNames" →
    ∀ schema ∈ heldBy keyword argument, Inert options schema
  branches : keyword = "if" → ∀ other ∈ ["then", "else"], ∀ schema,
    Fields.get? fields (.text other) = some schema → Inert options schema

theorem Silent.reordered {keyword : String} (silent : Silent options fields keyword)
    (node : Reordered (.object fields) (.object others)) : Silent options others keyword where
  aside := silent.aside
  notRequired := silent.notRequired
  held argument' found' naming schema' listed' := by
    obtain ⟨argument, found, argued⟩ := node.symm.argument found'
    obtain ⟨schema, listed, related⟩ := (heldBy_reordered argued.symm keyword).back schema' listed'
    exact (silent.held argument found naming schema listed).reordered related
  branches isIf other branching schema' found' := by
    obtain ⟨schema, found, related⟩ := node.symm.argument found'
    exact (silent.branches isIf other branching schema found).reordered related.symm

/-- A keyword that only looks finds what it finds without normalization. -/
theorem Silent.evaluate {keyword : String} {argument : Json} (silent : Silent options fields keyword)
    (formed : (Json.object fields).wellFormed = true) (closed : Reference.count "$ref" (.object fields) = 0)
    (found : Fields.get? fields (.text keyword) = some argument)
    (value : Json) :
    Structure.evaluate (nodeWith noReference "" fields) keyword
      (argumentWith noReference "" argument) options extent value =
      Structure.evaluate (nodeWith noReference "" fields) keyword
        (argumentWith noReference "" argument) .plain extent
        value := by
  have below := fun {keyword : String} {argument schema : Json}
    (found : Fields.get? fields (.text keyword) = some argument)
      (listed : schema ∈ heldBy keyword argument) =>
    Reference.count_heldBy ((Reference.count_eq_zero closed).2 _ (Fields.mem_of_get? found)).2 listed
  have formed' := fun {keyword : String} {argument schema : Json}
    (found : Fields.get? fields (.text keyword) = some argument)
      (listed : schema ∈ heldBy keyword argument) =>
    wellFormed_heldBy (((Json.wellFormed_object _).mp formed).2.2 _ (Fields.mem_of_get? found)) listed
  have everything : Hereditary fun _ => True := ⟨fun _ _ _ _ _ => trivial, fun _ _ _ _ => trivial⟩
  by_cases naming : keyword = "propertyNames"
  · subst naming
    have scalars := agrees_on_scalars (below found (List.mem_singleton_self argument)) options
    refine chain_congr (fun name _ => ?_) fun _ _ => rfl
    have scalar : name.toJson.IsScalar := by cases name <;> exact ⟨rfl, rfl⟩
    simp only [argumentWith_self]
    rw [← alone, scalars.enter _ scalar]
  · refine Structure.evaluate_agree _ _ _ _ everything (fun editing => ?_) (fun schema listed => ?_)
      (fun isIf other schema branch listed => ?_) trivial
    · have aside := silent.aside
      have notRequired := silent.notRequired
      simp only [editingKeywords, childKeywords, List.mem_cons, List.not_mem_nil, or_false, not_or] at editing aside
      rcases editing with same | same | same | same | same
      · exact absurd same aside.1
      · exact absurd same notRequired
      · exact absurd same aside.2.2.2.1
      · exact absurd same aside.2.1
      · exact absurd same aside.2.2.1
    · exact (silent.held argument found naming schema listed).agrees (formed' found listed) (below found listed)
    · have present := Fields.get?_of_mem ((Json.wellFormed_object fields).mp formed).2.1 listed
      have branching : other ∈ ["then", "else"] := by simpa using branch
      have self : schema ∈ heldBy other schema := by rcases branch with rfl | rfl <;> exact List.mem_singleton_self _
      exact (silent.branches isIf other branching schema present).agrees (formed' present self) (below present self)

section

variable (rearranged : Rearranged (.object fields) (.object others))

include rearranged

/-- The keywords that hold schemas say the same about values that are alike in what they look at. -/
theorem evaluate_rearranged {keyword : String} {argument argument' : Json}
    (found : Fields.get? fields (.text keyword) = some argument)
    (found' : Fields.get? others (.text keyword) = some argument') (argued : Reordered argument argument')
    {value value' : Json} (formed : value.wellFormed = true) (formed' : value'.wellFormed = true)
    (shape : SameShape value value')
    (names : keyword ∈ "required" :: namingKeywords → (namesOf value).Perm (namesOf value'))
    (whole : keyword ∈ childKeywords ∨ Surveys keyword argument → Reordered value value') :
    Compatible
      (Structure.evaluate (nodeWith noReference "" fields) keyword
        (argumentWith noReference "" argument) .plain extent
        value).answer
      (Structure.evaluate (nodeWith noReference "" others) keyword
        (argumentWith noReference "" argument') .plain extent'
        value').answer :=
  Structure.evaluate_accord noReference_keeps noReference_keeps rearranged.reordered rearranged.passes
    rearranged.joins.holds rearranged.joins'.holds
    (fun _ _ _ there there' _ listed _ listed' related =>
      accords_of_rearranged (rearranged.held there there' listed listed' related))
    found found' argued formed formed' shape names whole

theorem silent_local {keyword : String} {argument argument' : Json}
    (found : Fields.get? fields (.text keyword) = some argument)
    (found' : Fields.get? others (.text keyword) = some argument') (argued : Reordered argument argument')
    (silent : Silent options fields keyword) :
    Local child? child? (Reads fields keyword) (Edits options fields keyword)
      (Structure.evaluate (nodeWith noReference "" fields) keyword
        (argumentWith noReference "" argument) options extent)
      (Structure.evaluate (nodeWith noReference "" others) keyword (argumentWith noReference "" argument') options
        extent') := by
  have keeps : ∀ (fields : List (Key × Json)) (argument : Json) (extent : Extent) (value : Json),
      (Structure.evaluate (nodeWith noReference "" fields) keyword
        (argumentWith noReference "" argument) .plain extent
        value).value = value := fun _ argument _ =>
    Structure.evaluate_plain_value (argumentWith_keep noReference_keeps argument "")
      (fun other listed => (nodeWith_keep noReference_keeps "" other listed).self) keyword
  have node := rearranged.reordered
  have silent' := silent.reordered node
  rw [funext (silent.evaluate node.formed rearranged.closed found),
    funext (silent'.evaluate node.formed' rearranged.closed' found')]
  refine local_of_kept (keeps fields argument extent)
    (keeps others argument' extent') fun value value' resembles => ?_
  refine evaluate_rearranged rearranged found found' argued resembles.formed resembles.formed' resembles.shape
    (fun listed => ?_) fun whole => ?_
  · rcases List.mem_cons.mp listed with same | naming
    · exact absurd same silent.notRequired
    · exact Json.namesOf_perm resembles.formed resembles.formed' fun name =>
        resembles.alike (.presence (.member (.text name))) (.text name) (.names naming)
  · rcases whole with aside | surveys
    · exact absurd aside silent.aside
    · exact Json.reordered_of_children resembles.shape resembles.formed resembles.formed' fun step exactly =>
        resembles.alike (.child step) exactly (.whole found surveys)

/-- What `required` does about a value in which defaults are filled in. -/
theorem required_local {argument argument' : Json} (found : Fields.get? fields "required" = some argument)
    (argued : Reordered argument argument') :
    Local child? child? (Reads fields "required") (Edits options fields "required")
      (Structure.required (nodeWith noReference "" fields) argument .plain extent)
      (Structure.required (nodeWith noReference "" others) argument' .plain extent') := by
  refine local_of_kept (Structure.required_plain_value argument) (Structure.required_plain_value argument')
    fun value value' resembles => ?_
  refine Structure.required_accord argued resembles.shape fun names listed name present key named => ?_
  obtain ⟨texts, rfl⟩ := rearranged.passes.required found
  obtain rfl := Option.some.inj listed
  obtain ⟨text, -, rfl⟩ := List.mem_map.mp present
  obtain rfl := Option.some.inj named
  exact resembles.alike (.presence (.member (.text text))) (.text text) (.required found present)

end

/-- A step that may look at and edit everything is local if it leads from values that differ in the order of keys to
such values. -/
theorem Local.of_whole {reads edits : Aspect → Prop} {step step' : Json → Outcome} (all : ∀ aspect, edits aspect)
    (everything : ∀ aspect, reads aspect)
    (keeps : ∀ value last, value.wellFormed = true → step value = accept last →
      SameShape value last ∧ last.wellFormed = true)
    (keeps' : ∀ value last, value.wellFormed = true → step' value = accept last →
      SameShape value last ∧ last.wellFormed = true)
    (follows : ∀ value value' last, Reordered value value' → step value = accept last → (step' value').fault = none →
      ∃ last', step' value' = accept last' ∧ Reordered last last') :
    Local child? child? reads edits step step' where
  inside aspect _ := everything aspect
  frame value last formed ran :=
    ⟨(keeps value last formed ran).1, (keeps value last formed ran).2, fun aspect _ free => absurd (all aspect) free⟩
  frame' value last formed ran :=
    ⟨(keeps' value last formed ran).1, (keeps' value last formed ran).2,
      fun aspect _ free => absurd (all aspect) free⟩
  agrees value value' last resembles ran ended := by
    have reordered := Json.reordered_of_children resembles.shape resembles.formed resembles.formed' fun step
      exactly =>
      resembles.alike (.child step) exactly (everything _)
    obtain ⟨last', ran', related⟩ := follows value value' last reordered ran ended
    refine ⟨last', ran', fun aspect exactly _ => ?_⟩
    have alike : (Aspect.child aspect.step).Alike last.child? last'.child? := by
      simp only [Aspect.Alike]
      rcases related.child? exactly with ⟨missing, missing'⟩ | ⟨child, child', found, found', same⟩
      · rw [missing, missing']
        exact .none
      · rw [found, found']
        exact .some same
    cases aspect with
    | presence step => exact alike.presence
    | child step => exact alike

namespace Structure

variable {branches branches' : List Part}

theorem allOf_forms (forms : ∀ branch ∈ branches, branch.Forms options extent)
    (shapes : ∀ branch ∈ branches, ∀ value last, value.wellFormed = true →
      branch.enter options extent value = accept last →
      SameShape value last) {value last : Json} (formed : value.wellFormed = true)
    (ran : allOf branches options extent value = accept last) : SameShape value last ∧ last.wellFormed = true := by
  induction branches generalizing value with
  | nil =>
      obtain rfl := accept_inj.mp ran
      exact ⟨.same _, formed⟩
  | cons branch rest ih =>
      obtain ⟨middle, first, later⟩ := chain_cons_eq_accept.mp ran
      have formed' := (forms branch List.mem_cons_self).enter value middle formed first
      obtain ⟨shape, formed''⟩ := ih (fun other listed => forms other (List.mem_cons_of_mem _ listed))
        (fun other listed => shapes other (List.mem_cons_of_mem _ listed)) formed' later
      exact ⟨(shapes branch List.mem_cons_self value middle formed first).trans shape, formed''⟩

/-- Branches that do the same, one after the other, do the same in a row. -/
theorem allOf_follows (follow : List.Forall₂ (Part.Follows options) branches branches') {value value' last : Json}
    (reordered : Reordered value value') (ran : allOf branches options extent value = accept last)
    (ended : (allOf branches' options extent' value').fault = none) :
    ∃ last', allOf branches' options extent' value' = accept last' ∧ Reordered last last' := by
  induction follow generalizing value value' with
  | nil =>
      obtain rfl := accept_inj.mp ran
      exact ⟨value', rfl, reordered⟩
  | @cons branch branch' rest rest' first _ ih =>
      obtain ⟨middle, here, later⟩ := chain_cons_eq_accept.mp ran
      simp only [allOf, List.map_cons, chain_cons] at ended ⊢
      obtain ⟨middle', here', between⟩ := first.enter extent extent' value value' middle reordered here
        (fault_of_andThen ended)
      rw [here', accept_andThen] at ended ⊢
      exact ih between later ended

/-- The selected schema decides, unless the condition cannot be finished. -/
theorem conditional_cases {node : Node} {part : Part}
    (keeps : ∀ value, (part.run options .first value).value = value)
    (value : Json) : (∃ fault, conditional node part options extent value = fail value fault) ∨
      ∃ valid, (part.run options .first value).answer = some valid ∧ conditional node part options extent value =
        match node.argument? (if valid then "then" else "else") with
        | some parts => parts.self.enter options extent value
        | none => accept value := by
  unfold conditional Part.probe
  simp only [keeps]
  cases ended : (part.run options .first value).fault with
  | some fault => exact .inl ⟨fault, rfl⟩
  | none => exact .inr ⟨_, answer_of_end ended, rfl⟩

end Structure

section

variable (rearranged : Rearranged (.object fields) (.object others)) (below : FollowBelow options fields others)

include rearranged below

theorem allOf_local {argument argument' : Json} (found : Fields.get? fields "allOf" = some argument)
    (found' : Fields.get? others "allOf" = some argument') (argued : Reordered argument argument') :
    Local child? child? (Reads fields "allOf") (Edits options fields "allOf")
      (Structure.evaluate (nodeWith noReference "" fields) "allOf"
        (argumentWith noReference "" argument) options extent)
      (Structure.evaluate (nodeWith noReference "" others) "allOf" (argumentWith noReference "" argument') options
        extent') := by
  obtain ⟨schemas, same, -⟩ : Metaschema.IsSchemas argument := rearranged.passes.suits found
  have isArray : argument.isArray = true := by rw [same]; rfl
  have follow : List.Forall₂ (Part.Follows options) (argumentWith noReference "" argument).items
      (argumentWith noReference "" argument').items :=
    Structure.items_matched argued fun item listed item' listed' related =>
      below "allOf" argument argument' found found' (by decide) item listed item' listed' related
  by_cases quiet : ∀ schema ∈ heldBy "allOf" argument, Inert options schema
  · refine silent_local rearranged found found' argued
      ⟨by decide, by decide, ?_, fun isIf => absurd isIf (by decide)⟩
    intro argument there _
    obtain rfl := Option.some.inj (there.symm.trans found)
    exact quiet
  · have all : ∀ aspect, Edits options fields "allOf" aspect := by
      intro aspect
      simp only [not_forall] at quiet
      obtain ⟨schema, held, loud⟩ := quiet
      exact .branch found held loud
    have rule := fun (fields : List (Key × Json)) (argument : Json) (extent : Extent)
      (isArray : argument.isArray = true) =>
      show Structure.evaluate (nodeWith noReference "" fields) "allOf"
        (argumentWith noReference "" argument) options extent =
        Structure.allOf (argumentWith noReference "" argument).items options extent from by
        funext value
        simp only [Structure.evaluate, Structure.branches_of_array isArray, given]
    rw [rule fields argument extent isArray, rule others argument' extent' (argued.isArray.trans isArray)]
    refine Local.of_whole all (fun aspect => (all aspect).reads) ?_ ?_ ?_
    · intro value last formed ran
      refine Structure.allOf_forms (fun branch listed => ?_) (fun branch listed => ?_) formed ran
      · obtain ⟨_, -, follows⟩ := (Matched.of_forall₂ follow).there branch listed
        exact follows.forms extent
      · obtain ⟨_, -, follows⟩ := (Matched.of_forall₂ follow).there branch listed
        exact follows.shape extent
    · intro value last formed ran
      refine Structure.allOf_forms (fun branch listed => ?_) (fun branch listed => ?_) formed ran
      · obtain ⟨_, -, follows⟩ := (Matched.of_forall₂ follow).back branch listed
        exact follows.forms' extent'
      · obtain ⟨_, -, follows⟩ := (Matched.of_forall₂ follow).back branch listed
        exact follows.shape' extent'
    · exact fun value value' last reordered ran ended => Structure.allOf_follows follow reordered ran ended

/-- The condition of `if` only looks; what it selects may edit. -/
theorem conditional_local {argument argument' : Json} (found : Fields.get? fields "if" = some argument)
    (found' : Fields.get? others "if" = some argument') (argued : Reordered argument argument')
    (inert : Inert options argument) :
    Local child? child? (Reads fields "if") (Edits options fields "if")
      (Structure.evaluate (nodeWith noReference "" fields) "if"
        (argumentWith noReference "" argument) options extent)
      (Structure.evaluate (nodeWith noReference "" others) "if" (argumentWith noReference "" argument') options
        extent') := by
  have single : ∀ schema argument : Json, schema ∈ heldBy "if" argument → schema = argument :=
    fun _ _ listed => List.mem_singleton.mp listed
  have inert' := inert.reordered argued
  by_cases quiet : ∀ keyword ∈ ["then", "else"], ∀ schema, Fields.get? fields (.text keyword) = some schema →
      Inert options schema
  · refine silent_local rearranged found found' argued ⟨by decide, by decide, ?_, fun _ => quiet⟩
    intro condition there _ schema listed
    obtain rfl := Option.some.inj (there.symm.trans found)
    exact single schema _ listed ▸ inert
  · have all : ∀ aspect, Edits options fields "if" aspect := by
      intro aspect
      simp only [not_forall] at quiet
      obtain ⟨keyword, branching, schema, there, loud⟩ := quiet
      exact .choice found branching there loud
    have rule := fun (fields : List (Key × Json)) (argument : Json) (extent : Extent) =>
      show Structure.evaluate (nodeWith noReference "" fields) "if"
        (argumentWith noReference "" argument) options extent =
        Structure.conditional (nodeWith noReference "" fields) (alone argument) options extent from rfl
    have keeps : ∀ {argument : Json}, argument.wellFormed = true → Inert options argument → ∀ value,
        ((alone argument).run options .first value).value = value := by
      intro argument formed inert value
      rw [inert.run formed .first value]
      exact (alone_keeps argument .first value).1
    have chosen : ∀ valid : Bool,
        ((nodeWith noReference "" fields).argument? (if valid then "then" else "else") = none ∧
          (nodeWith noReference "" others).argument? (if valid then "then" else "else") = none) ∨
        ∃ parts parts', (nodeWith noReference "" fields).argument? (if valid then "then" else "else") = some parts ∧
          (nodeWith noReference "" others).argument? (if valid then "then" else "else") = some parts' ∧
            parts.self.Follows options parts'.self := by
      intro valid
      rw [argument?_nodeWith, argument?_nodeWith]
      have carrying : (if valid then "then" else "else") ∈ carryingKeywords := by cases valid <;> decide
      have holds : ∀ schema, schema ∈ heldBy (if valid then "then" else "else") schema := by
        intro schema
        cases valid <;> exact List.mem_singleton_self _
      rcases rearranged.reordered.get? (.text (if valid then "then" else "else")) with
        ⟨missing, missing'⟩ | ⟨schema, schema', there, there', related⟩
      · exact .inl ⟨by rw [missing]; rfl, by rw [missing']; rfl⟩
      · refine .inr ⟨_, _, by rw [there]; rfl, by rw [there']; rfl, ?_⟩
        exact below _ _ _ there there' carrying _ (holds schema) _ (holds schema') related
    rw [rule, rule]
    refine Local.of_whole all (fun aspect => (all aspect).reads) ?_ ?_ ?_
    · intro value last formed ran
      rcases Structure.conditional_cases (keeps argued.formed inert) value with ⟨fault, failed⟩ | ⟨valid, -, same⟩
      · exact absurd (failed.symm.trans ran) fail_ne_accept
      · rw [same] at ran
        rcases chosen valid with ⟨missing, -⟩ | ⟨parts, parts', there, -, follows⟩
        · rw [missing] at ran
          obtain rfl := accept_inj.mp ran
          exact ⟨.same _, formed⟩
        · rw [there] at ran
          exact ⟨follows.shape extent value last formed ran, (follows.forms extent).enter value last formed ran⟩
    · intro value last formed ran
      rcases Structure.conditional_cases (keeps argued.formed' inert') value with ⟨fault, failed⟩ | ⟨valid, -, same⟩
      · exact absurd (failed.symm.trans ran) fail_ne_accept
      · rw [same] at ran
        rcases chosen valid with ⟨-, missing⟩ | ⟨parts, parts', -, there, follows⟩
        · rw [missing] at ran
          obtain rfl := accept_inj.mp ran
          exact ⟨.same _, formed⟩
        · rw [there] at ran
          exact ⟨follows.shape' extent' value last formed ran, (follows.forms' extent').enter value last formed ran⟩
    · intro value value' last reordered ran ended
      have accords := accords_of_rearranged (rearranged.held found found' (List.mem_singleton_self _)
        (List.mem_singleton_self _) argued)
      rcases Structure.conditional_cases (keeps argued.formed inert) value with ⟨fault, failed⟩ | ⟨valid, said, same⟩
      · exact absurd (failed.symm.trans ran) fail_ne_accept
      rcases Structure.conditional_cases (keeps argued.formed' inert') value' with ⟨fault, failed⟩ |
        ⟨valid', said', same'⟩
      · rw [failed] at ended
        cases ended
      rw [inert.run argued.formed .first value] at said
      rw [inert'.run argued.formed' .first value'] at said'
      obtain rfl := accords.runs .first .first value value' reordered valid valid' said said'
      rw [same] at ran
      rw [same'] at ended ⊢
      rcases chosen valid' with ⟨missing, missing'⟩ | ⟨parts, parts', there, there', follows⟩
      · rw [missing] at ran
        rw [missing']
        obtain rfl := accept_inj.mp ran
        exact ⟨value', rfl, reordered⟩
      · rw [there] at ran
        rw [there'] at ended ⊢
        exact follows.enter extent extent' value value' last reordered ran ended

end

end SchemaAlgebra
