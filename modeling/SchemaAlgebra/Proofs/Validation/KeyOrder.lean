import SchemaAlgebra.Proofs.Validation.Normalization
import SchemaAlgebra.Proofs.Validation.Rearranging

/-!
Validation in two orders of keys, for whole schemas. In an orderly schema, however its keys are ordered at any depth,
a validation that can be finished accepts the same values and leaves the same but for the order of keys.
-/

namespace SchemaAlgebra

open Outcome Evaluation Schema
open Json (Reordered SameShape IsExact child?)

variable {options : Options} {fields others : List (Key × Json)} {extent extent' : Extent}
  {schema schema' value value' last : Json}

/-- Two parts that evaluate values that differ in the order of keys only to such values, as far as both can be
finished. -/
structure Part.RunsAs (options : Options) (part other : Part) : Prop where
  frame : ∀ extent value last, value.wellFormed = true → part.run options extent value = accept last →
    SameShape value last ∧ last.wellFormed = true
  frame' : ∀ extent value last, value.wellFormed = true → other.run options extent value = accept last →
    SameShape value last ∧ last.wellFormed = true
  agrees : ∀ extent extent' value value' last, Reordered value value' → part.run options extent value = accept last →
    (other.run options extent' value').fault = none →
      ∃ last', other.run options extent' value' = accept last' ∧ Reordered last last'

namespace Schema

/-- Nothing is missing where no property is declared. -/
theorem completed_of_absent (absent : Fields.has fields "properties" = false) (value : Json) :
    Completed options fields value := by
  have none : Fields.get? fields "properties" = none := by simpa [Fields.has] using absent
  intro step exactly isObject some
  cases step with
  | index i => cases some
  | member name => simp [filling, declared, none] at some

section

variable {step : String → Json → Outcome} {names : List String}

/-- A row of keywords in which `properties` occurs leaves no default missing. -/
theorem chain_completed
    (formed : ∀ name ∈ names, ∀ value last, value.wellFormed = true → step name value = accept last →
      last.wellFormed = true)
    (completes : ∀ name ∈ names, ∀ value last, value.wellFormed = true → step name value = accept last →
      name = "properties" ∨ Completed options fields value → Completed options fields last)
    (wellFormed : value.wellFormed = true) (start : "properties" ∈ names ∨ Completed options fields value)
    (ran : chain extent (names.map step) value = accept last) : Completed options fields last := by
  induction names generalizing value with
  | nil =>
      obtain rfl := accept_inj.mp ran
      exact start.resolve_left List.not_mem_nil
  | cons name rest ih =>
      obtain ⟨middle, here, later⟩ := chain_cons_eq_accept.mp ran
      refine ih (fun other listed => formed other (List.mem_cons_of_mem _ listed))
        (fun other listed => completes other (List.mem_cons_of_mem _ listed))
        (formed name List.mem_cons_self value middle wellFormed here) ?_ later
      have completed := completes name List.mem_cons_self value middle wellFormed here
      rcases start with listed | already
      · rcases List.mem_cons.mp listed with same | listed
        · exact .inr (completed (.inl same.symm))
        · exact .inl listed
      · exact .inr (completed (.inr already))

end

/-- No keyword of an orderly schema object edits what another one looks at. -/
theorem Orderly.separate (orderly : Orderly options fields) (formed : (Json.object fields).wellFormed = true) :
    Separate (keywordNames fields) (Reads fields) (Edits options fields) :=
  ⟨nodup_keywordNames formed, fun _ _ _ => Edits.reads, fun keyword listed other listed' differ aspect edits =>
    orderly.apart.keywords keyword other (mem_keywordNames.mp listed)
      (mem_keywordNames.mp listed') differ aspect edits⟩

end Schema

section

variable (rearranged : Rearranged (.object fields) (.object others)) (below : FollowBelow options fields others)
  (orderly : Orderly options fields)

include rearranged below orderly

/-- All keywords of a schema object together are local. -/
theorem keywords_local (extent extent' : Extent) : Local (seen options fields) (seen options others)
    (fun aspect => ∃ keyword ∈ keywordNames fields, Reads fields keyword aspect)
    (fun aspect => ∃ keyword ∈ keywordNames fields, Edits options fields keyword aspect)
    (chain extent ((keywordNames fields).map (keywordStep options fields extent)))
    (chain extent' ((keywordNames others).map (keywordStep options others extent'))) :=
  .row (keywordNames_perm rearranged.reordered) (orderly.separate rearranged.reordered.formed)
    (fun _ listed => (keyword_steady rearranged below orderly (mem_keywordNames.mp listed)).locally) extent extent'

theorem keywords_completed (formed : value.wellFormed = true)
    (ran : chain extent ((keywordNames fields).map (keywordStep options fields extent)) value = accept last) :
    Completed options fields last := by
  have steady : ∀ keyword ∈ keywordNames fields, Steady options fields others extent extent keyword :=
    fun keyword listed => keyword_steady rearranged below orderly (mem_keywordNames.mp listed)
  refine chain_completed (fun keyword listed value last formed ran => ?_)
    (fun keyword listed => (steady keyword listed).completes) formed ?_ ran
  · exact ((steady keyword listed).locally.frame value last formed ran).formed
  · cases has : Fields.has fields "properties" with
    | true => exact .inl (mem_keywordNames.mpr has)
    | false => exact .inr (completed_of_absent has value)

theorem keywords_completed' (formed : value.wellFormed = true)
    (ran : chain extent ((keywordNames others).map (keywordStep options others extent)) value = accept last) :
    Completed options others last := by
  have permuted := keywordNames_perm rearranged.reordered
  have steady : ∀ keyword ∈ keywordNames others, Steady options fields others extent extent keyword :=
    fun keyword listed => keyword_steady rearranged below orderly (mem_keywordNames.mp (permuted.mem_iff.mpr listed))
  refine chain_completed (fun keyword listed value last formed ran => ?_)
    (fun keyword listed => (steady keyword listed).completes') formed ?_ ran
  · exact ((steady keyword listed).locally.frame' value last formed ran).formed
  · cases has : Fields.has others "properties" with
    | true => exact .inl (mem_keywordNames.mpr has)
    | false => exact .inr (completed_of_absent has value)

/-- The keywords of a schema object leave the same in both orders, but for the order of keys. -/
theorem keywords_follow (related : Reordered value value')
    (ran : chain extent ((keywordNames fields).map (keywordStep options fields extent)) value = accept last)
    (ended : (chain extent' ((keywordNames others).map (keywordStep options others extent')) value').fault = none) :
    ∃ last', chain extent' ((keywordNames others).map (keywordStep options others extent')) value' = accept last' ∧
      Reordered last last' := by
  have names := names_of_passes rearranged.reordered.formed rearranged.passes
  have children : ∀ step, IsExact step →
      Option.Rel Reordered (seen options fields value step) (seen options others value' step) := by
    intro step exactly
    have default := filling_reordered options rearranged.reordered names step
    simp only [seen, related.isObject]
    rcases related.child? exactly with ⟨missing, missing'⟩ | ⟨child, child', found, found', same⟩
    · rw [missing, missing', Option.none_or, Option.none_or]
      split
      · exact default
      · exact .none
    · rw [found, found', Option.some_or, Option.some_or]
      exact .some same
  have resembles : Resembles (fun _ => True) (seen options fields) (seen options others) value value' := by
    refine ⟨related.sameShape, related.formed, related.formed', fun aspect exactly _ => ?_⟩
    have alike : (Aspect.child aspect.step).Alike (seen options fields value) (seen options others value') :=
      children aspect.step exactly
    cases aspect with
    | presence step => exact alike.presence
    | child step => exact alike
  obtain ⟨last', ran', left⟩ := (keywords_local rearranged below orderly extent extent').resembles
    (fun _ _ => trivial)
    resembles ran ended
  have completed := keywords_completed rearranged below orderly related.formed ran
  have completed' := keywords_completed' rearranged below orderly related.formed' ran'
  refine ⟨last', ran', Json.reordered_of_children left.shape left.formed left.formed' fun step exactly => ?_⟩
  rw [← completed.seen exactly, ← completed'.seen exactly]
  exact left.alike (.child step) exactly trivial

end

namespace Schema

/-- A schema that is orderly under the options in force in it, or to which options make no difference. -/
def Manageable (options : Options) (schema : Json) : Prop :=
  Inert options schema ∨
    ∃ fields, schema = .object fields ∧ ∀ inForce, optionsIn fields options = .ok inForce → Orderly inForce fields

theorem inert_flat (notObject : schema.isObject = false) : Inert options schema := by
  intro other related extent value
  rw [alone, partWith_flat _ _ (related.isObject.trans notObject)]
  rfl

/-- What an orderly schema object holds for keywords that may edit is manageable. -/
theorem Orderly.manageable (orderly : Orderly options fields) {keyword : String} {argument : Json}
    (found : Fields.get? fields (.text keyword) = some argument) (carries : keyword ∈ carryingKeywords)
    (held : schema ∈ heldBy keyword argument) : Manageable options schema := by
  by_cases inert : Inert options schema
  · exact .inl inert
  · cases schema with
    | object inner =>
        cases orderly with
        | intro _ _ inside =>
            exact .inr ⟨inner, rfl, fun inForce here =>
              inside keyword argument inner inForce found carries held inert here⟩
    | _ => exact .inl (inert_flat rfl)

/-- Without normalization every schema object is orderly. -/
theorem orderly_plain (fields : List (Key × Json)) : Orderly .plain fields := by
  have inert : ∀ schema, Inert .plain schema := fun _ _ _ _ _ => rfl
  have quiet : ∀ schema, Quiet .plain schema :=
    fun schema => ⟨inert schema, fun coerces => absurd coerces (by decide)⟩
  refine .intro ⟨fun keyword other _ _ _ aspect edits => ?_, fun keyword _ _ _ aspect some => ?_,
    fun _ _ _ schema _ _ _ _ _ => quiet schema⟩ (fun _ _ _ _ schema _ => inert schema)
    fun _ _ inner _ _ _ _ loud => absurd (inert _) loud
  · cases edits with
    | child _ loud => exact absurd (quiet _) loud
    | removal removes => exact absurd removes (by decide)
    | branch _ _ loud => exact absurd (inert _) loud
    | choice _ _ _ loud => exact absurd (inert _) loud
  · cases step : aspect.step <;> rw [step] at some <;> cases some

/-- A schema object that holds no schemas is orderly. -/
theorem orderly_of_bare
    (bare : ∀ keyword argument, Fields.get? fields (.text keyword) = some argument → heldBy keyword argument = []) :
    Orderly options fields := by
  have free : ∀ {keyword : String} {argument schema : Json}, Fields.get? fields (.text keyword) = some argument →
      schema ∉ heldBy keyword argument := by
    intro keyword argument schema found held
    rw [bare keyword argument found] at held
    cases held
  have unclaimed : ∀ {keyword : String} {step : Step} {schema : Json}, ¬ Claims fields keyword step schema := by
    intro keyword step schema claims
    obtain ⟨-, argument, found, held⟩ := claims.held
    exact free found held
  refine .intro ⟨fun keyword other _ _ _ aspect edits => ?_, fun keyword _ _ _ aspect some => ?_,
    fun expression _ name schema listed _ _ finds _ => absurd (.found listed finds) unclaimed⟩
    (fun _ _ found _ _ held => absurd held (free found)) fun _ _ _ _ found _ held => absurd held (free found)
  · cases edits with
    | child claims _ => exact absurd claims unclaimed
    | removal _ found _ _ => exact absurd (List.mem_singleton_self _) (free found)
    | branch found held _ => exact absurd held (free found)
    | choice found _ _ _ => exact absurd (List.mem_singleton_self _) (free found)
  · cases step : aspect.step with
    | index i =>
        rw [step] at some
        cases some
    | member name =>
        rw [step, filling] at some
        split at some
        · obtain ⟨schema, found, -⟩ := Option.bind_eq_some_iff.mp (Option.eq_some_of_isSome some)
          exact absurd (.declared (Fields.mem_of_get? found)) unclaimed
        · cases some

end Schema

namespace Evaluation

theorem coerce_container (schema : Json) (options : Options) (container : value.isContainer = true) :
    (alone schema).coerce options value = .ok none := by
  cases isObject : schema.isObject with
  | true =>
      cases schema <;> simp only [Json.isObject, Bool.false_eq_true] at isObject
      rw [coerce_alone, coerceNode, if_pos container]
  | false =>
      rw [alone, partWith_flat _ _ isObject]
      rfl

/-- What values that differ in the order of keys only are converted to differs in nothing else. -/
theorem coerce_rearranged (rearranged : Rearranged schema schema') (related : Reordered value value')
    {converted converted' : Option Json} (coerced : (alone schema).coerce options value = .ok converted)
    (coerced' : (alone schema').coerce options value' = .ok converted') :
    Option.Rel Reordered converted converted' := by
  cases container : value.isContainer with
  | true =>
      rw [coerce_container schema options container] at coerced
      rw [coerce_container schema' options (related.isContainer.trans container)] at coerced'
      obtain rfl := Except.ok.inj coerced
      obtain rfl := Except.ok.inj coerced'
      exact .none
  | false =>
      obtain ⟨noArray, noObject⟩ := Json.isScalar_of_isContainer container
      obtain rfl := related.eq noArray noObject
      obtain rfl := (convertsAs_of_rearranged rearranged).coerce options value' converted converted' coerced coerced'
      cases converted' with
      | none => exact .none
      | some made => exact .some (Json.reordered_refl (Json.wellFormed_scalar (coerce_flat schema coerced)))

/-- Schemas that run alike do the same where they are applied to children. -/
theorem follows_of_runsAs (rearranged : Rearranged schema schema')
    (runs : (alone schema).RunsAs options (alone schema')) :
    (alone schema).Follows options (alone schema') := by
  have entered : ∀ {schema value last extent}, Reference.count "$ref" schema = 0 →
      (alone schema).enter options extent value = accept last →
        (alone schema).run options extent value = accept last := by
    intro schema value last extent closed entered
    rw [alone_enter closed] at entered
    obtain ⟨_, -, ran⟩ := given_eq_accept.mp entered
    exact ran
  refine ⟨fun value value' converted converted' related => coerce_rearranged rearranged related, ?_,
    fun extent => ⟨?_, ?_⟩,
    fun extent => ⟨?_, ?_⟩, ?_, ?_⟩
  · intro extent extent' value value' last related ran ended
    rw [alone_enter rearranged.closed'] at ended ⊢
    cases here : Reference.enter "" schema' with
    | error fault =>
        rw [here] at ended
        cases ended
    | ok _ =>
        rw [here] at ended
        exact runs.agrees extent extent' value value' last related (entered rearranged.closed ran) ended
  · exact fun value converted made => Json.wellFormed_scalar (coerce_flat schema made)
  · exact fun value last formed ran => (runs.frame extent value last formed (entered rearranged.closed ran)).2
  · exact fun value converted made => Json.wellFormed_scalar (coerce_flat schema' made)
  · exact fun value last formed ran => (runs.frame' extent value last formed (entered rearranged.closed' ran)).2
  · exact fun extent value last formed ran => (runs.frame extent value last formed (entered rearranged.closed ran)).1
  · exact fun extent value last formed ran => (runs.frame' extent value last formed
      (entered rearranged.closed' ran)).1

/-- A schema to which options make no difference changes nothing. -/
theorem runsAs_of_inert (rearranged : Rearranged schema schema') (inert : Inert options schema) :
    (alone schema).RunsAs options (alone schema') := by
  have runs := inert.run rearranged.reordered.formed
  have runs' := (inert.reordered rearranged.reordered).run rearranged.reordered.formed'
  have kept : ∀ {schema value last extent}, (alone schema).run .plain extent value = accept last → last = value := by
    intro schema value last extent ran
    have kept := (alone_keeps schema extent value).1
    rw [ran] at kept
    exact kept
  refine ⟨fun extent value last formed ran => ?_, fun extent value last formed ran => ?_, ?_⟩
  · obtain rfl := kept (runs extent value ▸ ran)
    exact ⟨.same _, formed⟩
  · obtain rfl := kept (runs' extent value ▸ ran)
    exact ⟨.same _, formed⟩
  · intro extent extent' value value' last related ran ended
    rw [runs] at ran
    rw [runs'] at ended ⊢
    obtain rfl := kept ran
    have said := (accords_of_rearranged rearranged).runs extent extent' last value' related true
      ((alone schema').run .plain extent' value').isValid (by rw [Part.reply, ran]; rfl) (answer_of_end ended)
    refine ⟨value', (eq_accept_iff_answer (alone_keeps schema' extent' value').1).mpr ?_, related⟩
    rw [answer_of_end ended, said]

/-- An orderly schema object leaves the same in both orders of keys, but for the order of keys. -/
theorem node_follows (rearranged : Rearranged (.object fields) (.object others))
    (below : FollowBelow options fields others) (orderly : Orderly options fields) (related : Reordered value value')
    (ran : evaluateNode noReference "" fields (nodeWith noReference "" fields) options extent value = accept last)
    (ended : (evaluateNode noReference "" others (nodeWith noReference "" others) options extent' value').fault =
      none) :
    ∃ last', evaluateNode noReference "" others
      (nodeWith noReference "" others) options extent' value' = accept last' ∧
      Reordered last last' := by
  rw [Schema.evaluateNode_alone rearranged.reordered.formed rearranged.closed] at ran
  rw [Schema.evaluateNode_alone rearranged.reordered.formed' rearranged.closed'] at ended ⊢
  exact keywords_follow rearranged below orderly related ran ended

/-- What an orderly schema object applies to children does the same in both orders, if what is manageable in it runs
alike. -/
theorem followBelow (rearranged : Rearranged (.object fields) (.object others)) (orderly : Orderly options fields)
    (runs : ∀ keyword argument, Fields.get? fields (.text keyword) = some argument →
      ∀ schema ∈ heldBy keyword argument,
      ∀ schema', Rearranged schema schema' → Manageable options schema →
        (alone schema).RunsAs options (alone schema')) :
    FollowBelow options fields others := by
  intro keyword argument argument' found found' carries schema held schema' held' related
  have inner := rearranged.held found found' held held' related
  exact follows_of_runsAs inner (runs keyword argument found schema held schema' inner
    (orderly.manageable found carries held))

/-- What differs in the order of keys only runs alike, if it is orderly or options make no difference to it. -/
theorem runsAs_of_manageable {schema : Json} : ∀ {schema' options}, Rearranged schema schema' →
    Manageable options schema → (alone schema).RunsAs options (alone schema') := by
  induction schema using Json.schemaInduction with
  | flat schema notObject => exact fun rearranged _ => runsAs_of_inert rearranged (inert_flat notObject)
  | object fields ih =>
      intro schema' options rearranged manageable
      rcases manageable with inert | ⟨_, same, orderly⟩
      · exact runsAs_of_inert rearranged inert
      obtain rfl := Json.object.inj same
      obtain ⟨others, rfl⟩ := rearranged.object
      have node := rearranged.reordered
      have below : ∀ inForce, Orderly inForce fields → FollowBelow inForce fields others := by
        intro inForce orderly
        refine followBelow rearranged orderly fun keyword argument found schema held schema' inner manageable => ?_
        obtain ⟨self, items, members⟩ := ih _ (Fields.mem_of_get? found)
        rcases heldBy_cases held with rfl | item | ⟨member, present, rfl⟩
        · exact self inner manageable
        · exact items schema item inner manageable
        · exact members member present inner manageable
      have runs : ∀ {fields extent value}, (alone (.object fields)).run options extent value =
          given (optionsIn fields options) value fun inForce =>
            evaluateNode noReference "" fields (nodeWith noReference "" fields) inForce extent value := by
        intro fields extent value
        rw [alone, partWith_object]
        rfl
      refine ⟨fun extent value last formed ran => ?_, fun extent value last formed ran => ?_, ?_⟩
      · rw [runs] at ran
        obtain ⟨inForce, here, ran⟩ := given_eq_accept.mp ran
        rw [Schema.evaluateNode_alone node.formed rearranged.closed] at ran
        have changed := (keywords_local rearranged (below inForce (orderly inForce here)) (orderly inForce here)
          extent extent).frame value last formed ran
        exact ⟨changed.shape, changed.formed⟩
      · rw [runs, optionsIn_reordered node] at ran
        obtain ⟨inForce, here, ran⟩ := given_eq_accept.mp ran
        rw [Schema.evaluateNode_alone node.formed' rearranged.closed'] at ran
        have changed := (keywords_local rearranged (below inForce (orderly inForce here)) (orderly inForce here)
          extent extent).frame' value last formed ran
        exact ⟨changed.shape, changed.formed⟩
      · intro extent extent' value value' last related ran ended
        rw [runs] at ran ended
        rw [runs]
        rw [optionsIn_reordered node] at ended ⊢
        obtain ⟨inForce, here, ran⟩ := given_eq_accept.mp ran
        rw [here] at ended ⊢
        exact node_follows rearranged (below inForce (orderly inForce here)) (orderly inForce here) related ran ended

end Evaluation

namespace Validation

theorem verdictOf_invalid {outcome : Outcome} (ended : outcome.fault = none) (invalid : outcome.isValid = false) :
    ∃ violations, verdictOf outcome = .invalid violations := by
  obtain ⟨value, problems, fault⟩ := outcome
  cases fault with
  | some fault => cases ended
  | none =>
      cases problems with
      | nil => cases invalid
      | cons problem rest => exact ⟨_, rfl⟩

/-- A root is evaluated alike in both orders of keys. -/
theorem rootOutcome_follows (rearranged : Rearranged schema schema')
    (orderly : ∀ fields, schema = .object fields → Orderly options fields) (related : Reordered value value')
    (ran : rootOutcome options schema value = accept last)
    (ended : (rootOutcome options schema' value').fault = none) :
    ∃ last', rootOutcome options schema' value' = accept last' ∧ Reordered last last' := by
  cases isObject : schema.isObject with
  | true =>
      cases schema <;> simp only [Json.isObject, Bool.false_eq_true] at isObject
      next fields =>
      obtain ⟨others, rfl⟩ := rearranged.object
      rw [rootOutcome_closed rearranged.closed] at ran
      rw [rootOutcome_closed rearranged.closed'] at ended ⊢
      have orderly := orderly fields rfl
      have below := followBelow rearranged orderly fun _ _ _ _ _ _ inner => runsAs_of_manageable inner
      exact node_follows rearranged below orderly related ran ended
  | false =>
      have leaves : ∀ {schema : Json}, schema.isObject = false → LeavesOptions schema options := by
        rintro _ notObject fields rfl
        cases notObject
      rw [rootOutcome_alone rearranged.closed (leaves isObject)] at ran
      rw [rootOutcome_alone rearranged.closed' (leaves (rearranged.reordered.isObject.trans isObject))] at ended ⊢
      exact (runsAs_of_inert rearranged (inert_flat isObject)).agrees _ _ _ _ _ related ran ended

theorem coerceRoot_reordered (rearranged : Rearranged schema schema') (related : Reordered value value')
    {root root' : Json} (coerced : coerceRoot options (alone schema) value = .ok root)
    (coerced' : coerceRoot options (alone schema') value' = .ok root') : Reordered root root' := by
  unfold coerceRoot at coerced coerced'
  split at coerced
  · next coerces =>
      rw [if_pos coerces] at coerced'
      obtain ⟨converted, found, ended⟩ := bind_eq_ok.mp coerced
      obtain ⟨converted', found', ended'⟩ := bind_eq_ok.mp coerced'
      obtain rfl := Except.ok.inj ended
      obtain rfl := Except.ok.inj ended'
      cases coerce_rearranged rearranged related found found' with
      | none => exact related
      | some made => exact made
  · next coerces =>
      rw [if_neg coerces] at coerced'
      obtain rfl := Except.ok.inj coerced
      obtain rfl := Except.ok.inj coerced'
      exact related

/-- What is valid in one order of keys is valid in the other, if that validation can be finished. -/
theorem valid_reordered (rearranged : Rearranged schema schema')
    (orderly : ∀ fields, schema = .object fields → Orderly options fields) (related : Reordered value value')
    (valid : (validate options schema value).verdict = .valid last)
    (finished : ∀ fault, (validate options schema' value').verdict ≠ .faulty fault) :
    ∃ last', (validate options schema' value').verdict = .valid last' ∧ Reordered last last' := by
  obtain ⟨root, coerced, ran⟩ := validate_eq_valid.mp valid
  rw [partIn_closed rearranged.closed] at coerced
  have ended : ∃ root', coerceRoot options (alone schema') value' = .ok root' ∧
      (rootOutcome options schema' root').fault = none := by
    unfold validate at finished
    simp only [partIn_closed rearranged.closed'] at finished
    cases coerced' : coerceRoot options (alone schema') value' with
    | error fault =>
        rw [coerced'] at finished
        exact absurd rfl (finished fault)
    | ok root' =>
        refine ⟨root', rfl, ?_⟩
        rw [coerced'] at finished
        cases ended : (rootOutcome options schema' root').fault with
        | none => rfl
        | some fault =>
            refine absurd ?_ (finished fault)
            change verdictOf (rootOutcome options schema' root') = .faulty fault
            rw [verdictOf, ended]
  obtain ⟨root', coerced', ended⟩ := ended
  obtain ⟨last', ran', left⟩ :=
    rootOutcome_follows rearranged orderly (coerceRoot_reordered rearranged related coerced coerced') ran ended
  refine ⟨last', validate_eq_valid.mpr ⟨root', ?_, ran'⟩, left⟩
  rw [partIn_closed rearranged.closed', coerced']

/-- Validation does not depend on the order of keys, as long as no keyword edits what another one looks at: in both
orders a value is valid and leaves the same but for the order of keys, or in both it is not valid. -/
theorem validate_reordered (rearranged : Rearranged schema schema')
    (orderly : ∀ fields, schema = .object fields → Orderly options fields) (related : Reordered value value')
    (finished : ∀ fault, (validate options schema value).verdict ≠ .faulty fault)
    (finished' : ∀ fault, (validate options schema' value').verdict ≠ .faulty fault) :
    (∃ last last', (validate options schema value).verdict = .valid last ∧
        (validate options schema' value').verdict = .valid last' ∧ Reordered last last') ∨
      ∃ violations violations', (validate options schema value).verdict = .invalid violations ∧
        (validate options schema' value').verdict = .invalid violations' := by
  have orderly' : ∀ others, schema' = .object others → Orderly options others := by
    rintro others rfl
    obtain ⟨fields, rfl⟩ := rearranged.symm.object
    exact (orderly fields rfl).reordered rearranged
  cases valid : (validate options schema value).verdict with
  | valid last =>
      obtain ⟨last', valid', left⟩ := valid_reordered rearranged orderly related valid finished'
      exact .inl ⟨last, last', rfl, valid', left⟩
  | faulty fault => exact absurd valid (finished fault)
  | invalid violations =>
      cases valid' : (validate options schema' value').verdict with
      | valid last' =>
          obtain ⟨last, ended, -⟩ := valid_reordered rearranged.symm orderly' related.symm valid' finished
          cases valid.symm.trans ended
      | faulty fault => exact absurd valid' (finished' fault)
      | invalid violations' => exact .inr ⟨violations, violations', rfl, rfl⟩

/-- Objects that lose all their members before what is required of them is looked for. -/
def removalFirst : Json :=
  .object [("type", .string "object"), ("additionalProperties", .bool false),
    ("required", .array [.string "x"])]

/-- Where a requirement and a removal meet in one property, their order decides whether a value is valid. -/
theorem order_of_removal_decides :
    Reordered undeclaredRequirement removalFirst ∧ Metaschema.isSchema undeclaredRequirement = true ∧
      Metaschema.isSchema removalFirst = true ∧ Reference.count "$ref" undeclaredRequirement = 0 ∧
        (validate .all undeclaredRequirement (.object [("x", .int 1)])).verdict = .valid (.object []) ∧
          ∃ violations, (validate .all removalFirst (.object [("x", .int 1)])).verdict = .invalid violations := by
  refine ⟨.of_perm rfl (.cons _ (.swap _ _ _)), rfl, rfl, by decide,
    validate_eq_valid.mpr ⟨_, coerceRoot_container rfl, rfl⟩, ?_⟩
  have left : (alone removalFirst).coerce .all (.object [("x", .int 1)]) = .ok none := coerce_container _ _ rfl
  have ended : (rootOutcome .all removalFirst (.object [("x", .int 1)])).fault = none := rfl
  have invalid : (rootOutcome .all removalFirst (.object [("x", .int 1)])).isValid = false := rfl
  rw [validate_unconverted (by decide) left]
  exact verdictOf_invalid ended invalid

/-- The schema `declaredRequirement` with its keys in the opposite order. -/
def requirementReversed : Json :=
  .object declaredRequirement.members.reverse

theorem rearranged_declaredRequirement : Rearranged declaredRequirement requirementReversed where
  reordered := .of_perm rfl (List.reverse_perm _).symm
  passes := Metaschema.passes_of_isSchema rfl
  passes' := Metaschema.passes_of_isSchema rfl
  closed := by decide
  closed' := by decide
  joins := joins_of_count (by decide)
  joins' := joins_of_count (by decide)

/-- The keywords of `declaredRequirement`, with their arguments. -/
theorem declaredRequirement_cases {keyword : String} {argument : Json}
    (found : Fields.get? declaredRequirement.members (.text keyword) = some argument) :
    keyword = "type" ∧ argument = .string "object" ∨ keyword = "required" ∧ argument = .array [.string "a"] ∨
      keyword = "properties" ∧
        argument = .object [("a", .object [("type", .string "integer"), ("default", .int 0)])] ∨
        keyword = "additionalProperties" ∧ argument = .bool false := by
  have listed := Fields.mem_of_get? found
  simpa only [declaredRequirement, Json.members, List.mem_cons, Prod.mk.injEq, Key.text.injEq, List.not_mem_nil,
    or_false] using listed

/-- `properties` claims the declared property in `declaredRequirement`, and `additionalProperties` the others. -/
theorem declaredRequirement_claims {keyword : String} {step : Step} {schema : Json}
    (claims : Claims declaredRequirement.members keyword step schema) :
    keyword = "properties" ∧ step = .member "a" ∨
      keyword = "additionalProperties" ∧ ∃ name, name ≠ "a" ∧ step = .member (.text name) := by
  cases claims with
  | declared listed =>
      obtain ⟨rfl, -⟩ := Prod.mk.inj (List.mem_singleton.mp listed)
      exact .inl ⟨rfl, rfl⟩
  | found listed => cases listed
  | undeclared _ free =>
      refine .inr ⟨rfl, _, ?_, rfl⟩
      rintro rfl
      exact free.1 (by decide)
  | item found => cases found
  | further found => cases found

theorem declaredRequirement_reads {keyword : String} {aspect : Aspect}
    (reads : Reads declaredRequirement.members keyword aspect)
    (has : Fields.has declaredRequirement.members keyword = true) :
    keyword = "required" ∧ aspect = .presence (.member "a") ∨ keyword = "properties" ∧ aspect.step = .member "a" ∨
      keyword = "additionalProperties" ∧ ∃ name, name ≠ "a" ∧ aspect.step = .member (.text name) := by
  obtain ⟨argument, there⟩ := Option.isSome_iff_exists.mp has
  cases reads with
  | claim claims => exact .inr (declaredRequirement_claims claims)
  | required found listed =>
      obtain rfl := Json.array.inj (Option.some.inj found)
      obtain rfl := Json.string.inj (List.mem_singleton.mp listed)
      exact .inl ⟨rfl, rfl⟩
  | names listed =>
      rcases declaredRequirement_cases there with ⟨rfl, -⟩ | ⟨rfl, -⟩ | ⟨rfl, -⟩ | ⟨rfl, -⟩ <;>
        exact absurd listed (by decide)
  | whole found surveys =>
      rcases declaredRequirement_cases found with ⟨rfl, -⟩ | ⟨rfl, -⟩ | ⟨rfl, -⟩ | ⟨rfl, -⟩ <;>
        exact absurd surveys (by simp [Surveys, surveyingKeywords])

theorem declaredRequirement_edits {options : Options} {keyword : String} {aspect : Aspect}
    (edits : Edits options declaredRequirement.members keyword aspect) :
    keyword = "properties" ∧ aspect = .child (.member "a") ∨
      keyword = "additionalProperties" ∧ ∃ name, name ≠ "a" ∧ aspect.step = .member (.text name) := by
  cases edits with
  | child claims _ =>
      rcases declaredRequirement_claims claims with ⟨rfl, rfl⟩ | ⟨rfl, other⟩
      · exact .inl ⟨rfl, rfl⟩
      · exact .inr ⟨rfl, other⟩
  | removal _ found free here =>
      rcases declaredRequirement_claims (.undeclared found free) with ⟨aside, -⟩ | ⟨-, name, other, same⟩
      · exact absurd aside (by decide)
      · exact .inr ⟨rfl, name, other, here.trans same⟩
  | branch found _ _ => cases found
  | choice found _ _ _ => cases found

/-- The declared property is all that is required, and what is removed is not declared. -/
theorem orderly_declaredRequirement (options : Options) : Orderly options declaredRequirement.members := by
  refine .intro ⟨fun keyword other _ has differ aspect edits reads => ?_,
    fun keyword has aside aside' aspect some reads => ?_, fun _ _ _ _ listed => by cases listed⟩
    (fun keyword argument found aside schema held => ?_) fun keyword argument inner inForce found _ held _ _ => ?_
  · rcases declaredRequirement_edits edits with ⟨rfl, rfl⟩ | ⟨rfl, name, different, here⟩
    · rcases declaredRequirement_reads reads has with ⟨-, same⟩ | ⟨rfl, -⟩ | ⟨-, name, different, same⟩
      · cases same
      · exact differ rfl
      · exact different (Key.text.inj (Step.member.inj same)).symm
    · rcases declaredRequirement_reads reads has with ⟨-, rfl⟩ | ⟨-, same⟩ | ⟨rfl, -⟩
      · exact different (Key.text.inj (Step.member.inj here)).symm
      · exact different (Key.text.inj (Step.member.inj (here.symm.trans same)))
      · exact differ rfl
  · rcases declaredRequirement_reads reads has with ⟨same, -⟩ | ⟨same, -⟩ | ⟨-, name, different, here⟩
    · exact aside' same
    · exact aside same
    · have none : Fields.get? (declared declaredRequirement.members) (.text name) = none :=
        (Fields.get?_cons _ _ _ _).trans (if_neg fun same => different (Key.text.inj same).symm)
      rw [here] at some
      simp [filling, none] at some
  · rcases declaredRequirement_cases found with ⟨rfl, rfl⟩ | ⟨rfl, rfl⟩ | ⟨rfl, rfl⟩ | ⟨rfl, rfl⟩
    · cases held
    · cases held
    · exact absurd (by decide) aside
    · exact absurd (by decide) aside
  · have bare : ∀ keyword argument,
        Fields.get? ([("type", .string "integer"), ("default", .int 0)] : List (Key × Json)) (.text keyword) =
          some argument → heldBy keyword argument = [] := by
      intro keyword argument found
      have listed := Fields.mem_of_get? found
      simp only [List.mem_cons, Prod.mk.injEq, Key.text.injEq, List.not_mem_nil, or_false] at listed
      rcases listed with ⟨rfl, -⟩ | ⟨rfl, -⟩ <;> rfl
    rcases declaredRequirement_cases found with ⟨rfl, rfl⟩ | ⟨rfl, rfl⟩ | ⟨rfl, rfl⟩ | ⟨rfl, rfl⟩
    · cases held
    · cases held
    · obtain rfl := Json.object.inj (List.mem_singleton.mp held)
      exact orderly_of_bare bare
    · cases List.mem_singleton.mp held

/-- What is undeclared is removed, and what is declared is filled in, in either order. -/
theorem declaredRequirement_reordered :
    ∃ last last', (validate .all declaredRequirement (.object [("b", .null)])).verdict = .valid last ∧
      (validate .all requirementReversed (.object [("b", .null)])).verdict = .valid last' ∧
        Reordered last last' := by
  have valid : (validate .all declaredRequirement (.object [("b", .null)])).verdict = .valid
    (.object [("a", .int 0)]) :=
    validate_eq_valid.mpr ⟨_, coerceRoot_container rfl, rfl⟩
  have valid' : (validate .all requirementReversed (.object [("b", .null)])).verdict = .valid
    (.object [("a", .int 0)]) :=
    validate_eq_valid.mpr ⟨_, coerceRoot_container rfl, rfl⟩
  have orderly : ∀ fields, declaredRequirement = .object fields → Orderly .all fields := by
    rintro fields same
    exact Json.object.inj same ▸ orderly_declaredRequirement .all
  rcases validate_reordered rearranged_declaredRequirement orderly (Json.reordered_refl rfl)
    (fun fault failed => by cases valid.symm.trans failed)
      (fun fault failed => by cases valid'.symm.trans failed) with
    both | ⟨violations, _, invalid, -⟩
  · exact both
  · cases valid.symm.trans invalid

/-- Without normalization the order of keys never matters. -/
theorem accepts_reordered (rearranged : Rearranged schema schema') (related : Reordered value value')
    (finished : ∀ fault, (validate .plain schema value).verdict ≠ .faulty fault)
    (finished' : ∀ fault, (validate .plain schema' value').verdict ≠ .faulty fault) :
    Accepts schema value ↔ Accepts schema' value' := by
  have orderly := fun (schema : Json) (fields : List (Key × Json)) (_ : schema = .object fields) =>
    orderly_plain fields
  constructor
  · rintro ⟨last, valid⟩
    obtain ⟨last', valid', -⟩ := valid_reordered rearranged (orderly schema) related valid finished'
    exact ⟨last', valid'⟩
  · rintro ⟨last', valid'⟩
    obtain ⟨last, valid, -⟩ := valid_reordered rearranged.symm (orderly schema') related.symm valid' finished
    exact ⟨last, valid⟩

end Validation

end SchemaAlgebra
