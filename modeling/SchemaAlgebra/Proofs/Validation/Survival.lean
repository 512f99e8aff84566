import SchemaAlgebra.Proofs.Validation.Closed

/-!
Values that are accepted as they are, and what normalization without defaults makes of them. A keyword that
demands something of a value leaves an accepted value alone, because nothing in it needs to be edited. A
keyword that only tries a schema can be different: the schema may edit the value before it refuses it, and
what it has edited stays. The value survives if every schema that is tried restores what it refuses.
-/

namespace SchemaAlgebra

open Outcome

namespace Part

/-- What the part accepts without normalization it also accepts under the options, as it is, and finds
nothing in it to convert. -/
structure Survives (part : Part) (options : Options) : Prop where
  run : ∀ extent extent' value, part.run .plain extent value = accept value →
    part.run options extent' value = accept value
  enter : ∀ extent extent' value, part.enter .plain extent value = accept value →
    part.enter options extent' value = accept value
  coerce : ∀ extent value, part.run .plain extent value = accept value →
    part.coerce options value = .ok none
  entered : ∀ extent value, part.enter .plain extent value = accept value →
    part.run .plain extent value = accept value
  keeps : part.Keeps .plain

/-- An outcome that refuses a value and leaves it as it is. -/
def Refuses (outcome : Outcome) (value : Json) : Prop :=
  outcome.fault = none ∧ outcome.isValid = false ∧ outcome.value = value

/-- What the part refuses without normalization, tried up to the first problem, it refuses under the
options, and leaves it as it is. -/
def RestoresProbed (part : Part) (options : Options) : Prop :=
  ∀ value, Refuses (part.run .plain .first value) value → Refuses (part.run options .first value) value

/-- What the part refuses without normalization, entered and evaluated to the end, it refuses under the
options, and leaves it as it is. -/
def RestoresEntered (part : Part) (options : Options) : Prop :=
  ∀ value, Refuses (part.enter .plain .all value) value → Refuses (part.enter options .all value) value

variable {options : Options}

theorem flat_survives (schema : Json) : (flat schema).Survives options :=
  ⟨fun _ _ _ accepted => accepted, fun _ _ _ accepted => accepted, fun _ _ _ => rfl,
    fun _ _ accepted => (given_eq_accept.mp accepted).elim fun _ both => both.2, flat_keeps schema⟩

theorem flat_restoresProbed (schema : Json) : (flat schema).RestoresProbed options :=
  fun _ refused => refused

theorem flat_restoresEntered (schema : Json) : (flat schema).RestoresEntered options :=
  fun _ refused => refused

theorem accepted_of_valid {outcome : Outcome} {value : Json} (noFault : outcome.fault = none)
    (valid : outcome.isValid = true) (kept : outcome.value = value) : outcome = accept value := by
  obtain ⟨left, problems, fault⟩ := outcome
  cases problems <;> simp_all [Outcome.isValid, accept]

end Part

namespace Structure

variable {options : Options} {extent extent' : Extent} {value : Json} {part : Part}

/-- A row of steps survives if each of its steps does, whatever conversions come before it. -/
theorem row_survives {α : Type} {items : List α} {checks runs coerces : α → Json → Outcome}
    {converting : Bool} (keep : ∀ item ∈ items, (checks item value).value = value)
    (each : ∀ item ∈ items, checks item value = accept value →
      coerces item value = accept value ∧ runs item value = accept value)
    (accepted : chain extent (items.map checks) value = accept value) :
    chain extent' ((if converting then items.map coerces else []) ++ items.map runs) value =
      accept value := by
  have checked : ∀ item ∈ items, checks item value = accept value := by
    intro item member
    refine accept_of_chain ?_ accepted _ (List.mem_map_of_mem member)
    simpa using keep
  refine chain_append_eq_accept.mpr ⟨value, ?_, chain_of_accept ?_⟩
  · cases converting with
    | true =>
        refine chain_of_accept ?_
        simp only [if_true, List.mem_map, forall_exists_index, and_imp, forall_apply_eq_imp_iff₂]
        exact fun item member => (each item member (checked item member)).1
    | false => rfl
  · simp only [List.mem_map, forall_exists_index, and_imp, forall_apply_eq_imp_iff₂]
    exact fun item member => (each item member (checked item member)).2

theorem chain_survives {α : Type} {items : List α} {checks runs : α → Json → Outcome}
    (keep : ∀ item ∈ items, (checks item value).value = value)
    (each : ∀ item ∈ items, checks item value = accept value → runs item value = accept value)
    (accepted : chain extent (items.map checks) value = accept value) :
    chain extent' (items.map runs) value = accept value :=
  have ran : chain extent' ((if false then items.map runs else []) ++ items.map runs) value =
      accept value :=
    row_survives keep
      (fun item member checked => ⟨each item member checked, each item member checked⟩) accepted
  ran

theorem entered_child (survives : part.Survives options) {step : Step} {child : Json}
    (found : value.child? step = some child)
    (accepted : part.descend .plain extent step value = accept value) :
    part.enter .plain extent child = accept child := by
  rw [Part.descend, found] at accepted
  obtain ⟨last, entered, -⟩ := within_eq_accept.mp accepted
  have kept := (survives.keeps extent child).2
  rw [entered] at kept ⊢
  rw [show last = child from kept]

theorem coerceAt_survives (survives : part.Survives options) (step : Step)
    (accepted : part.descend .plain extent step value = accept value) :
    part.coerceAt options step value = accept value := by
  unfold Part.coerceAt
  split
  · next child found =>
      have entered := entered_child survives found accepted
      rw [survives.coerce extent child (survives.entered extent child entered), given]
  · rfl

theorem descend_survives (survives : part.Survives options) (step : Step)
    (accepted : part.descend .plain extent step value = accept value) :
    part.descend options extent' step value = accept value := by
  unfold Part.descend
  split
  · next child found =>
      rw [within_eq_accept]
      exact ⟨child, survives.enter extent extent' child (entered_child survives found accepted),
        Json.setChild_of_child? found⟩
  · rfl

theorem properties_survives {argument : Parts} (noDefaults : options.useDefaults = false)
    (survive : ∀ member ∈ argument.members, member.2.Survives options)
    (accepted : properties argument .plain extent value = accept value) :
    properties argument options extent' value = accept value := by
  unfold properties at accepted ⊢
  split at accepted
  · next isObject =>
      obtain ⟨members, found, ran⟩ := given_eq_accept.mp accepted
      rw [if_pos isObject, found, given]
      obtain rfl := named_members found
      simp only [noDefaults, Bool.false_eq_true, if_false]
      refine row_survives (fun member present => ?_) (fun member present => ?_) ran
      · exact Part.descend_value (survive member present).keeps _ _
      · exact fun step => ⟨coerceAt_survives (survive member present) _ step,
          descend_survives (survive member present) _ step⟩
  · next notObject => rw [if_neg notObject]

theorem required_survives {node : Node} {argument : Json} (noDefaults : options.useDefaults = false)
    (accepted : required node argument .plain extent value = accept value) :
    required node argument options extent' value = accept value := by
  unfold required at accepted ⊢
  split at accepted
  · next isObject =>
      simp only [if_pos isObject, noDefaults, Options.plain, Bool.false_eq_true, if_false] at accepted ⊢
      split at accepted
      · refine chain_survives (fun name _ => given_value fun present _ => ?_) (fun _ _ ran => ran)
          accepted
        split <;> simp
      · exact absurd accepted fail_ne_accept
  · next notObject => rw [if_neg notObject]

theorem patternProperties_survives {argument : Parts}
    (survive : ∀ member ∈ argument.members, member.2.Survives options)
    (accepted : patternProperties argument .plain extent value = accept value) :
    patternProperties argument options extent' value = accept value := by
  unfold patternProperties at accepted ⊢
  split at accepted
  · next isObject =>
      obtain ⟨members, found, ran⟩ := given_eq_accept.mp accepted
      rw [if_pos isObject, found, given]
      obtain rfl := named_members found
      refine row_survives (fun member present => ?_) (fun member present checked => ?_) ran
      · refine given_value fun names _ => chain_value ?_
        simp only [List.mem_map, forall_exists_index, and_imp, forall_apply_eq_imp_iff₂]
        exact fun name _ => Part.descend_value (survive member present).keeps _ _
      · obtain ⟨names, matched, walked⟩ := given_eq_accept.mp checked
        rw [matched, given, given]
        have keep : ∀ name ∈ names,
            (member.2.descend .plain extent (.member name) value).value = value :=
          fun name _ => Part.descend_value (survive member present).keeps _ _
        exact ⟨chain_survives keep (fun name _ => coerceAt_survives (survive member present) _) walked,
          chain_survives keep (fun name _ => descend_survives (survive member present) _) walked⟩
  · next notObject => rw [if_neg notObject]

theorem additionalProperties_survives {node : Node} (survives : part.Survives options)
    (accepted : additionalProperties node part .plain extent value = accept value) :
    additionalProperties node part options extent' value = accept value := by
  unfold additionalProperties at accepted ⊢
  split at accepted
  · next isObject =>
      obtain ⟨names, found, ran⟩ := given_eq_accept.mp accepted
      rw [if_pos isObject, found, given]
      simp only [Options.plain, Bool.false_and, Bool.false_eq_true, if_false] at ran ⊢
      split at ran
      · next isSchema =>
          rw [if_pos isSchema]
          refine row_survives (fun name _ => ?_) (fun name _ => ?_) ran
          · exact Part.descend_value survives.keeps _ _
          · exact fun step => ⟨coerceAt_survives survives _ step, descend_survives survives _ step⟩
      · next noSchema =>
          rw [if_neg noSchema]
          split at ran
          · next allowed =>
              split
              · next removes =>
                  -- nothing is undeclared where the keyword forbids it
                  have forbids : part.schema = .bool false := by
                    have := (Bool.and_eq_true_iff.mp removes).2
                    unfold Shape.isFalse at this
                    split at this <;> simp_all
                  rw [forbids] at allowed
                  obtain rfl : names = [] := by simpa [Json.isTruthy] using allowed
                  cases value <;> rfl
              · rfl
          · obtain ⟨message, -, refused⟩ := given_eq_accept.mp ran
            exact absurd refused reject_ne_accept
  · next notObject => rw [if_neg notObject]

theorem propertyNames_survives (survives : part.Survives options)
    (accepted : propertyNames part .plain extent value = accept value) :
    propertyNames part options extent' value = accept value := by
  refine chain_survives (fun _ _ => rfl) (fun name _ checked => ?_) accepted
  have entered : part.enter .plain extent name.toJson = accept name.toJson := by
    have kept := (survives.keeps extent name.toJson).2
    have problems := congrArg Outcome.problems checked
    have fault := congrArg Outcome.fault checked
    simp only at problems fault
    generalize part.enter .plain extent name.toJson = outcome at kept problems fault
    obtain ⟨left, found, ending⟩ := outcome
    simp_all [accept]
  rw [survives.enter extent extent' _ entered]
  rfl

theorem dependency_survives {property : Key} (survives : part.Survives options)
    (accepted : dependency property part .plain extent value = accept value) :
    dependency property part options extent' value = accept value := by
  unfold dependency at accepted ⊢
  split at accepted
  · next present =>
      rw [if_pos present]
      split at accepted
      · refine chain_survives (fun name _ => given_value fun present _ => ?_) (fun _ _ ran => ran)
          accepted
        split <;> simp
      · exact survives.enter extent extent' value accepted
  · next absent => rw [if_neg absent]

theorem dependencies_survives {argument : Parts}
    (survive : ∀ member ∈ argument.members, member.2.Survives options)
    (accepted : dependencies argument .plain extent value = accept value) :
    dependencies argument options extent' value = accept value := by
  unfold dependencies at accepted ⊢
  split at accepted
  · next isObject =>
      obtain ⟨members, found, ran⟩ := given_eq_accept.mp accepted
      rw [if_pos isObject, found, given]
      obtain rfl := named_members found
      refine chain_survives (fun member present => ?_) (fun member present => ?_) ran
      · exact dependency_value (survive member present).keeps _ _
      · exact dependency_survives (survive member present)
  · next notObject => rw [if_neg notObject]

theorem items_survives {argument : Parts}
    (survive : ∀ count, ∀ entry ∈ itemParts argument count, entry.2.Survives options)
    (accepted : items argument .plain extent value = accept value) :
    items argument options extent' value = accept value := by
  refine row_survives (fun entry member => ?_) (fun entry member => ?_) accepted
  · exact Part.descend_value (survive _ entry member).keeps _ _
  · exact fun step => ⟨coerceAt_survives (survive _ entry member) _ step,
      descend_survives (survive _ entry member) _ step⟩

theorem additionalItems_survives {node : Node} (survives : part.Survives options)
    (accepted : additionalItems node part .plain extent value = accept value) :
    additionalItems node part options extent' value = accept value := by
  unfold additionalItems at accepted ⊢
  split at accepted
  · next values declared found =>
      simp only
      split at accepted
      · next single => rw [if_pos single]
      · next several =>
          rw [if_neg several]
          obtain ⟨count, counted, ran⟩ := given_eq_accept.mp accepted
          rw [counted, given]
          simp only at ran ⊢
          split at ran
          · next isSchema =>
              rw [if_pos isSchema]
              have same : ∀ entry ∈ atIndices count (List.replicate (values.drop count).length part),
                  entry.2 = part :=
                fun entry member => List.eq_of_mem_replicate (mem_atIndices member)
              refine chain_survives (fun entry member => ?_) (fun entry member step => ?_) ran
              · rw [same entry member]
                exact Part.descend_value survives.keeps _ _
              · rw [same entry member] at step ⊢
                exact descend_survives survives _ step
          · next noSchema =>
              rw [if_neg noSchema]
              exact ran
  · rfl

/-- A part that is tried either accepts the value under the options too, or refuses it and restores it, as
it does without normalization. -/
theorem probed (survives : part.Survives options) (restores : part.RestoresProbed options)
    (noFault : (part.run .plain .first value).fault = none) :
    (part.run .plain .first value = accept value ∧ part.run options .first value = accept value) ∨
      (Part.Refuses (part.run .plain .first value) value ∧
        Part.Refuses (part.run options .first value) value) := by
  have kept := (survives.keeps .first value).1
  cases valid : (part.run .plain .first value).isValid with
  | true =>
      have accepted := Part.accepted_of_valid noFault valid kept
      exact .inl ⟨accepted, survives.run .first .first value accepted⟩
  | false =>
      have refused : Part.Refuses (part.run .plain .first value) value := ⟨noFault, valid, kept⟩
      exact .inr ⟨refused, restores value refused⟩

theorem entered (survives : part.Survives options) (restores : part.RestoresEntered options)
    (noFault : (part.enter .plain .all value).fault = none) :
    (part.enter .plain .all value = accept value ∧ part.enter options .all value = accept value) ∨
      (Part.Refuses (part.enter .plain .all value) value ∧
        Part.Refuses (part.enter options .all value) value) := by
  have kept := (survives.keeps .all value).2
  cases valid : (part.enter .plain .all value).isValid with
  | true =>
      have accepted := Part.accepted_of_valid noFault valid kept
      exact .inl ⟨accepted, survives.enter .all .all value accepted⟩
  | false =>
      have refused : Part.Refuses (part.enter .plain .all value) value := ⟨noFault, valid, kept⟩
      exact .inr ⟨refused, restores value refused⟩

theorem contains_look_survives (survives : part.Survives options) (restores : part.RestoresProbed options)
    {indices : List Nat} (accepted : contains.look part .plain indices value = accept value) :
    contains.look part options indices value = accept value := by
  induction indices with
  | nil => exact absurd accepted reject_ne_accept
  | cons i rest ih =>
      rw [contains.look] at accepted ⊢
      cases found : value.child? (.index i) with
      | none =>
          rw [found] at accepted
          exact ih accepted
      | some item =>
          simp only [found] at accepted ⊢
          cases ended : (part.run .plain .first item).fault with
          | some fault =>
              simp only [ended] at accepted
              exact absurd accepted fail_ne_accept
          | none =>
              rcases probed survives restores ended with ⟨plain, ran⟩ | ⟨plain, ran⟩
              · simp [ran, Outcome.isValid, Json.setChild_of_child? found]
              · rw [ended, plain.2.1, plain.2.2, Json.setChild_of_child? found] at accepted
                rw [ran.1, ran.2.1, ran.2.2, Json.setChild_of_child? found]
                exact ih (by simpa using accepted)

theorem contains_survives (survives : part.Survives options) (restores : part.RestoresProbed options)
    (accepted : contains part .plain value = accept value) :
    contains part options value = accept value := by
  unfold contains at accepted ⊢
  split at accepted
  · next isArray =>
      rw [if_pos isArray]
      exact contains_look_survives survives restores accepted
  · next notArray => rw [if_neg notArray]

theorem allOf_survives {branches : List Part} (survive : ∀ branch ∈ branches, branch.Survives options)
    (accepted : allOf branches .plain extent value = accept value) :
    allOf branches options extent' value = accept value := by
  refine chain_survives (fun branch member => ?_) (fun branch member => ?_) accepted
  · exact ((survive branch member).keeps extent value).2
  · exact (survive branch member).enter extent extent' value

theorem firstValid_survives {branches : List Part}
    (survive : ∀ branch ∈ branches, branch.Survives options)
    (restore : ∀ branch ∈ branches, branch.RestoresEntered options) {left : Json} {branch : Part}
    {rest : List Part} (found : firstValid .plain branches value = .ok (left, some (branch, rest))) :
    left = value ∧ (∀ other ∈ rest, other ∈ branches) ∧
      firstValid options branches value = .ok (value, some (branch, rest)) := by
  induction branches with
  | nil => simp [firstValid] at found
  | cons first others ih =>
      rw [firstValid] at found ⊢
      cases ended : (first.enter .plain .all value).fault with
      | some fault => simp [ended] at found
      | none =>
          rcases entered (survive first (by simp)) (restore first (by simp)) ended with
            ⟨plain, ran⟩ | ⟨plain, ran⟩
          · simp only [plain, accept_fault, Outcome.isValid, accept_problems, List.isEmpty_nil, if_true,
              accept_value, Except.ok.injEq, Prod.mk.injEq, Option.some.injEq] at found
            obtain ⟨rfl, rfl, rfl⟩ := found
            exact ⟨rfl, fun other member => by simp [member], by simp [ran, Outcome.isValid]⟩
          · simp only [plain.1, plain.2.1, plain.2.2, Bool.false_eq_true, if_false] at found
            simp only [ran.1, ran.2.1, ran.2.2, Bool.false_eq_true, if_false]
            obtain ⟨same, within, found⟩ := ih (fun other member => survive other (by simp [member]))
              (fun other member => restore other (by simp [member])) found
            exact ⟨same, fun other member => by simp [within other member], found⟩

theorem anyOf_survives {branches : List Part} (survive : ∀ branch ∈ branches, branch.Survives options)
    (restore : ∀ branch ∈ branches, branch.RestoresEntered options)
    (accepted : anyOf branches .plain value = accept value) :
    anyOf branches options value = accept value := by
  unfold anyOf at accepted
  split at accepted
  · exact absurd accepted fail_ne_accept
  · next left choice found =>
      obtain ⟨-, -, ran⟩ := firstValid_survives survive restore found
      rw [anyOf, ran]
  · exact absurd accepted reject_ne_accept

theorem accepting_survives {branches : List Part}
    (survive : ∀ branch ∈ branches, branch.Survives options)
    (restore : ∀ branch ∈ branches, branch.RestoresProbed options) {left : Json}
    (found : accepting .plain branches value = .ok (left, [])) :
    accepting options branches value = .ok (value, []) := by
  induction branches with
  | nil => rfl
  | cons first others ih =>
      rw [accepting] at found ⊢
      cases ended : (first.run .plain .first value).fault with
      | some fault => simp [ended] at found
      | none =>
          rcases probed (survive first (by simp)) (restore first (by simp)) ended with
            ⟨plain, ran⟩ | ⟨plain, ran⟩
          · -- an accepting branch would be listed
            simp only [plain, accept_fault, accept_value] at found
            cases later : accepting .plain others value with
            | error ending => simp [later, bind, Except.bind] at found
            | ok ending => simp [later, bind, Except.bind, pure, Except.pure, Outcome.isValid] at found
          · simp only [plain.1, plain.2.1, plain.2.2, Bool.false_eq_true, if_false] at found
            simp only [ran.1, ran.2.1, ran.2.2, Bool.false_eq_true, if_false]
            cases later : accepting .plain others value with
            | error ending => simp [later, bind, Except.bind] at found
            | ok ending =>
                simp only [later, bind, Except.bind, pure, Except.pure, Except.ok.injEq] at found
                obtain rfl : ending = (left, []) := found
                rw [ih (fun other member => survive other (by simp [member]))
                  (fun other member => restore other (by simp [member])) later]
                rfl

theorem oneOf_survives {branches : List Part} (survive : ∀ branch ∈ branches, branch.Survives options)
    (restore : ∀ branch ∈ branches, branch.RestoresEntered options)
    (restore' : ∀ branch ∈ branches, branch.RestoresProbed options)
    (accepted : oneOf branches .plain value = accept value) :
    oneOf branches options value = accept value := by
  unfold oneOf at accepted
  split at accepted
  · exact absurd accepted fail_ne_accept
  · exact absurd accepted reject_ne_accept
  · next left branch rest found =>
      obtain ⟨rfl, within, ran⟩ := firstValid_survives survive restore found
      split at accepted
      · exact absurd accepted fail_ne_accept
      · next left' single =>
          have alone := accepting_survives (fun other member => survive other (within other member))
            (fun other member => restore' other (within other member)) single
          simp only [oneOf, ran, alone]
      · exact absurd accepted reject_ne_accept

/-- `not` accepts a value as it is exactly if its part refuses the value and leaves it as it is. -/
theorem negation_eq_accept :
    negation part options value = accept value ↔
      Part.Refuses (part.run options .first value) value := by
  unfold negation Part.probe Part.Refuses
  cases ended : (part.run options .first value).fault with
  | some fault => simp [ended, fail_ne_accept]
  | none =>
      cases valid : (part.run options .first value).isValid with
      | true => simp [ended, valid, reject_ne_accept]
      | false => simp [ended, valid, accept_inj]

theorem negation_survives (restores : part.RestoresProbed options)
    (accepted : negation part .plain value = accept value) :
    negation part options value = accept value :=
  negation_eq_accept.mpr (restores value (negation_eq_accept.mp accepted))

/-- The choice between a part and everything accepts a value as it is exactly if the part refuses the
value and leaves it as it is. -/
theorem alternative_eq_accept :
    oneOf [part, Part.flat (.bool true)] options value = accept value ↔
      Part.Refuses (part.enter options .all value) value := by
  unfold oneOf Part.Refuses
  simp only [firstValid]
  cases ended : (part.enter options .all value).fault with
  | some fault => simp [fail_ne_accept]
  | none =>
      cases valid : (part.enter options .all value).isValid with
      | true =>
          simp only [if_true, Bool.true_eq_false, false_and, and_false, iff_false]
          exact reject_ne_accept
      | false =>
          simp only [Bool.false_eq_true, if_false, true_and]
          exact accept_inj

theorem conditional_survives {node : Node} (survives : part.Survives options)
    (restores : part.RestoresProbed options)
    (others : ∀ keyword parts, keyword = "then" ∨ keyword = "else" →
      node.argument? keyword = some parts → parts.self.Survives options)
    (accepted : conditional node part .plain extent value = accept value) :
    conditional node part options extent' value = accept value := by
  unfold conditional Part.probe at accepted ⊢
  cases ended : (part.run .plain .first value).fault with
  | some fault =>
      simp only [ended] at accepted
      exact absurd accepted fail_ne_accept
  | none =>
      rcases probed survives restores ended with ⟨plain, ran⟩ | ⟨plain, ran⟩
      · simp only [plain, accept_fault, Outcome.isValid, accept_problems, List.isEmpty_nil, if_true,
          accept_value] at accepted
        simp only [ran, accept_fault, Outcome.isValid, accept_problems, List.isEmpty_nil, if_true,
          accept_value]
        cases found : node.argument? "then" with
        | none => rfl
        | some parts =>
            rw [found] at accepted
            exact (others "then" parts (.inl rfl) found).enter extent extent' value accepted
      · simp only [plain.1, plain.2.1, plain.2.2, Bool.false_eq_true, if_false] at accepted
        simp only [ran.1, ran.2.1, ran.2.2, Bool.false_eq_true, if_false]
        cases found : node.argument? "else" with
        | none => rfl
        | some parts =>
            rw [found] at accepted
            exact (others "else" parts (.inr rfl) found).enter extent extent' value accepted

end Structure

namespace Schema

/-- The keywords that try schemas up to the first problem. -/
def probingKeywords : List String := ["oneOf", "not", "if", "contains"]

/-- The keywords that enter schemas and pass over those that refuse. -/
def choosingKeywords : List String := ["oneOf", "anyOf"]

end Schema

namespace Structure

open Evaluation Schema

variable {meaning : Meaning} {location : String} {fields : List (Key × Json)} {options : Options}
  {extent extent' : Extent} {argument value : Json}

/-- The branches of an argument are its items, or hold no schema object. -/
theorem mem_branches {branches : List Part}
    (found : (argumentWith meaning location argument).branches = .ok branches) {branch : Part}
    (member : branch ∈ branches) :
    (∃ schema ∈ argument.items, branch = partWith meaning location schema) ∨
      ∃ schema, branch = Part.flat schema := by
  rw [argumentWith_branches] at found
  cases listed : argument.elements? with
  | none => simp [listed] at found
  | some elements =>
      simp only [listed, Except.ok.injEq] at found
      subst found
      obtain ⟨schema, present, rfl⟩ := List.mem_map.mp member
      rcases mem_elements? listed present with item | flat
      · exact .inl ⟨schema, item, rfl⟩
      · exact .inr ⟨schema, partWith_flat meaning location flat⟩

/-- What holds of the items of an argument and of flat schemas holds of all branches. -/
theorem branches_forall {holds : Part → Prop} {branches : List Part}
    (found : (argumentWith meaning location argument).branches = .ok branches)
    (each : ∀ schema ∈ argument.items, holds (partWith meaning location schema))
    (flat : ∀ schema, holds (.flat schema)) : ∀ branch ∈ branches, holds branch := by
  intro branch member
  rcases mem_branches found member with ⟨schema, item, rfl⟩ | ⟨schema, rfl⟩
  · exact each schema item
  · exact flat schema

theorem members_survive
    (survive : ∀ schema ∈ argument.members.map Prod.snd,
      (partWith meaning location schema).Survives options) :
    ∀ member ∈ (argumentWith meaning location argument).members, member.2.Survives options := by
  intro member listed
  obtain ⟨schema, present, same⟩ := mem_argumentWith_members meaning location listed
  rw [same]
  exact survive schema (List.mem_map_of_mem present)

theorem dependencies_members_survive
    (survive : ∀ schema ∈ heldBy "dependencies" argument,
      (partWith meaning location schema).Survives options) :
    ∀ member ∈ (argumentWith meaning location argument).members, member.2.Survives options := by
  intro member listed
  obtain ⟨schema, present, same⟩ := mem_argumentWith_members meaning location listed
  rw [same]
  cases isArray : schema.isArray with
  | true =>
      -- an array of names is no schema object
      rw [partWith_flat]
      · exact Part.flat_survives schema
      · cases schema <;> simp_all [Json.isArray, Json.isObject]
  | false =>
      refine survive schema (List.mem_filter.mpr ⟨List.mem_map_of_mem present, ?_⟩)
      simp [isArray]

theorem itemParts_survive
    (survive : ∀ schema ∈ heldBy "items" argument, (partWith meaning location schema).Survives options)
    (count : Nat) :
    ∀ entry ∈ itemParts (argumentWith meaning location argument) count, entry.2.Survives options := by
  intro entry listed
  unfold itemParts at listed
  split at listed
  · next isArray =>
      obtain ⟨schema, present, same⟩ := mem_argumentWith_items meaning location
        (List.mem_of_mem_take (mem_atIndices listed))
      rw [same]
      refine survive schema ?_
      rw [argumentWith_self, partWith_schema] at isArray
      simpa [heldBy, isArray] using present
  · next single =>
      rw [List.eq_of_mem_replicate (mem_atIndices listed)]
      refine survive argument ?_
      rw [argumentWith_self, partWith_schema] at single
      simp [heldBy, single]

theorem argument?_survives {other : String} {parts : Parts}
    (survive : ∀ schema, (Key.text other, schema) ∈ fields →
      (partWith meaning location schema).Survives options)
    (found : (nodeWith meaning location fields).argument? other = some parts) :
    parts.self.Survives options := by
  rw [argument?_nodeWith] at found
  obtain ⟨schema, present, rfl⟩ := Option.map_eq_some_iff.mp found
  exact survive schema (Fields.mem_of_get? present)

/-- A keyword leaves what it accepts alone, if what it holds does and what it only tries restores what it
refuses. -/
theorem evaluate_survives {keyword : String} (noDefaults : options.useDefaults = false)
    (survive : ∀ schema ∈ heldBy keyword argument,
      (partWith meaning location schema).Survives options)
    (probes : keyword ∈ probingKeywords → ∀ schema ∈ heldBy keyword argument,
      (partWith meaning location schema).RestoresProbed options)
    (choices : keyword ∈ choosingKeywords → ∀ schema ∈ heldBy keyword argument,
      (partWith meaning location schema).RestoresEntered options)
    (others : ∀ other schema, other = "then" ∨ other = "else" → (Key.text other, schema) ∈ fields →
      (partWith meaning location schema).Survives options)
    (accepted : evaluate (nodeWith meaning location fields) keyword
      (argumentWith meaning location argument) .plain extent value = accept value) :
    evaluate (nodeWith meaning location fields) keyword (argumentWith meaning location argument) options
      extent' value = accept value := by
  unfold evaluate at accepted ⊢
  split at accepted
  · exact absurd accepted fail_ne_accept
  · exact properties_survives noDefaults (members_survive survive) accepted
  · exact required_survives noDefaults accepted
  · exact patternProperties_survives (members_survive survive) accepted
  · exact additionalProperties_survives (survive argument (by simp [heldBy])) accepted
  · exact propertyNames_survives (survive argument (by simp [heldBy])) accepted
  · exact dependencies_survives (dependencies_members_survive survive) accepted
  · exact items_survives (itemParts_survive survive) accepted
  · exact additionalItems_survives (survive argument (by simp [heldBy])) accepted
  · exact contains_survives (survive argument (by simp [heldBy]))
      (probes (by decide) argument (by simp [heldBy])) accepted
  · obtain ⟨listed, found, ran⟩ := given_eq_accept.mp accepted
    rw [found]
    exact allOf_survives (branches_forall found survive Part.flat_survives) ran
  · obtain ⟨listed, found, ran⟩ := given_eq_accept.mp accepted
    rw [found]
    exact anyOf_survives (branches_forall found survive Part.flat_survives)
      (branches_forall found (choices (by decide)) Part.flat_restoresEntered) ran
  · obtain ⟨listed, found, ran⟩ := given_eq_accept.mp accepted
    rw [found]
    exact oneOf_survives (branches_forall found survive Part.flat_survives)
      (branches_forall found (choices (by decide)) Part.flat_restoresEntered)
      (branches_forall found (probes (by decide)) Part.flat_restoresProbed) ran
  · exact negation_survives (probes (by decide) argument (by simp [heldBy])) accepted
  · exact conditional_survives (survive argument (by simp [heldBy]))
      (probes (by decide) argument (by simp [heldBy]))
      (fun other parts branch found => argument?_survives (fun schema => others other schema branch) found)
      accepted
  · exact accepted

end Structure

end SchemaAlgebra
