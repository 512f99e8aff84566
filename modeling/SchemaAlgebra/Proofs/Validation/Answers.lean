import SchemaAlgebra.Proofs.Validation.Rewriting

/-!
Answers: what an evaluation without normalization says about a value, if it can be finished. Such an
evaluation changes nothing, so the answer of a keyword is made of the answers of the schemas it looks at.
There is one equation for each keyword, and one for the row of keywords of a schema object.
-/

namespace SchemaAlgebra

namespace Outcome

/-- Whether an evaluation accepts, if it could be finished. -/
def answer (outcome : Outcome) : Option Bool :=
  if outcome.fault.isSome then none else some outcome.isValid

/-- The answer of a row of evaluations, from theirs: it waits for the first problem, or for the end. -/
def inTurn (extent : Extent) : List (Option Bool) → Option Bool
  | [] => some true
  | none :: _ => none
  | some true :: rest => inTurn extent rest
  | some false :: rest => if extent = .first then some false else (inTurn extent rest).map fun _ => false

/-- The answer of a refusal that shows some values. -/
def refusal (shown : List Json) : Option Bool :=
  if shown.all Json.isShowable then some false else none

/-- The first of several answers that is not a refusal. -/
def firstOf : List (Option Bool) → Option Bool
  | [] => some false
  | some false :: rest => firstOf rest
  | answer :: _ => answer

@[simp] theorem answer_accept (value : Json) : (accept value).answer = some true := rfl

@[simp] theorem answer_fail (value : Json) (fault : Fault) : (fail value fault).answer = none := rfl

@[simp] theorem answer_reject (value : Json) (keyword message : String) (shown : List Json) :
    (reject value keyword shown message).answer = refusal shown := by
  unfold reject refusal
  split <;> rfl

theorem answer_of_fault {outcome : Outcome} {fault : Fault} (ended : outcome.fault = some fault) :
    outcome.answer = none := by
  simp [answer, ended]

theorem answer_of_end {outcome : Outcome} (ended : outcome.fault = none) :
    outcome.answer = some outcome.isValid := by
  simp [answer, ended]

theorem answer_given {α : Type} (found : Except Fault α) (value : Json) (next : α → Outcome) :
    (given found value next).answer = found.toOption.bind fun a => (next a).answer := by
  cases found <;> rfl

theorem answer_within (outcome : Outcome) (place : Problem → Problem) (whole : Json → Json) :
    (outcome.within place whole).answer = outcome.answer := by
  obtain ⟨value, problems, fault⟩ := outcome
  cases problems <;> rfl

/-- An evaluation that leaves the value accepts it exactly if it says so. -/
theorem eq_accept_iff_answer {outcome : Outcome} {value : Json} (kept : outcome.value = value) :
    outcome = accept value ↔ outcome.answer = some true := by
  obtain ⟨left, problems, fault⟩ := outcome
  obtain rfl : left = value := kept
  cases fault <;> cases problems <;> simp [accept, answer, isValid]

theorem answer_andThen {outcome : Outcome} {next : Json → Outcome} {value : Json} {answers : List (Option Bool)}
    (extent : Extent) (kept : outcome.value = value) (later : (next value).answer = inTurn extent answers) :
    (outcome.andThen extent next).answer = inTurn extent (outcome.answer :: answers) := by
  obtain ⟨left, problems, fault⟩ := outcome
  obtain rfl : left = value := kept
  cases fault with
  | some fault => simp [andThen, isOver, answer, inTurn]
  | none =>
      cases problems with
      | nil => simpa [andThen, isOver, answer, inTurn, isValid] using later
      | cons problem rest =>
          cases extent with
          | first => simp [andThen, isOver, answer, inTurn, isValid]
          | all =>
              rw [answer] at later
              cases ended : (next left).fault <;> rw [ended] at later <;>
                simp_all [andThen, isOver, answer, inTurn, isValid, ← later]

/-- The answer of a row of evaluations that leave the value. -/
theorem answer_chain {extent : Extent} {steps : List (Json → Outcome)} {value : Json}
    (keep : ∀ step ∈ steps, (step value).value = value) :
    (chain extent steps value).answer = inTurn extent (steps.map fun step => (step value).answer) := by
  induction steps with
  | nil => rfl
  | cons step rest ih =>
      rw [chain_cons]
      exact answer_andThen extent (keep step (by simp)) (ih fun other member => keep other (by simp [member]))

/-- The answer of a row of evaluations that are given by a list. -/
theorem answer_chain_map {α : Type} {extent : Extent} {items : List α} {operation : α → Json → Outcome} {value : Json}
    (keep : ∀ item ∈ items, (operation item value).value = value) :
    (chain extent (items.map operation) value).answer = inTurn extent (items.map fun item => (operation item value).answer) := by
  rw [answer_chain, List.map_map]
  · rfl
  · simpa using keep

end Outcome

namespace Part

open Outcome

/-- What the part says about a value when it is evaluated by itself. -/
def reply (part : Part) (extent : Extent) (value : Json) : Option Bool :=
  (part.run .plain extent value).answer

/-- What the part says about a value when it is entered. -/
def replyEntered (part : Part) (extent : Extent) (value : Json) : Option Bool :=
  (part.enter .plain extent value).answer

/-- What the part says about a child, if there is one. -/
def replyBelow (part : Part) (extent : Extent) (step : Step) (value : Json) : Option Bool :=
  match value.child? step with
  | some child => part.replyEntered extent child
  | none => some true

theorem answer_descend (part : Part) (extent : Extent) (step : Step) (value : Json) :
    (part.descend .plain extent step value).answer = part.replyBelow extent step value := by
  unfold descend replyBelow
  cases value.child? step with
  | none => rfl
  | some child => exact answer_within ..

theorem answer_probe {part : Part} (keeps : part.Keeps .plain) (value : Json) (decide : Bool → Json → Outcome) :
    (part.probe .plain value decide).answer = (part.reply .first value).bind fun valid => (decide valid value).answer := by
  have kept := (keeps .first value).1
  simp only [probe, kept, reply, answer]
  cases (part.run .plain .first value).fault <;> rfl

end Part

namespace Structure

open Outcome

variable {argument : Parts} {part : Part} {node : Node} {extent : Extent} {value : Json} {branches : List Part}

theorem answer_descents {α : Type} {items : List α} {part : α → Part} {step : α → Step}
    (keep : ∀ item ∈ items, (part item).Keeps .plain) :
    (chain extent (items.map fun item => (part item).descend .plain extent (step item)) value).answer =
      inTurn extent (items.map fun item => (part item).replyBelow extent (step item) value) := by
  rw [answer_chain_map fun item member => Part.descend_value (keep item member) _ _]
  simp only [Part.answer_descend]

theorem answer_properties (keep : argument.Keep .plain) :
    (properties argument .plain extent value).answer =
      if value.isObject then argument.named.toOption.bind fun members =>
        inTurn extent (members.map fun member => member.2.replyBelow extent (.member member.1) value)
      else some true := by
  unfold properties
  split
  · rw [answer_given]
    cases found : argument.named with
    | error fault => rfl
    | ok members =>
        obtain rfl := named_members found
        exact answer_descents keep.members
  · rfl

theorem answer_patternProperties (keep : argument.Keep .plain) :
    (patternProperties argument .plain extent value).answer =
      if value.isObject then argument.named.toOption.bind fun members =>
        inTurn extent (members.map fun member => (matchingNames member.1 value).toOption.bind fun names =>
          inTurn extent (names.map fun name => member.2.replyBelow extent (.member name) value))
      else some true := by
  unfold patternProperties
  split
  · rw [answer_given]
    cases found : argument.named with
    | error fault => rfl
    | ok members =>
        obtain rfl := named_members found
        simp only [Options.plain, Bool.false_eq_true, if_false, List.nil_append, Except.toOption, Option.bind_some]
        rw [← Options.plain, answer_chain_map]
        · simp only [answer_given]
          refine congrArg (inTurn extent) (List.map_congr_left fun member listed => ?_)
          refine congrArg ((matchingNames member.1 value).toOption.bind ·) (funext fun names => ?_)
          exact answer_descents fun _ _ => keep.members member listed
        · intro member listed
          refine given_value fun names _ => chain_value ?_
          simp only [List.mem_map, forall_exists_index, and_imp, forall_apply_eq_imp_iff₂]
          exact fun name _ => Part.descend_value (keep.members member listed) _ _
  · rfl

theorem answer_propertyNames :
    (propertyNames part .plain extent value).answer =
      inTurn extent ((namesOf value).map fun name => part.replyEntered extent name.toJson) := by
  unfold propertyNames
  rw [answer_chain_map fun _ _ => rfl]
  rfl

theorem answer_dependency {property : Key} :
    (dependency property part .plain extent value).answer =
      if value.has property then
        match part.schema with
        | .array names => inTurn extent (names.map fun name => (isThere name value).toOption.bind fun present =>
            if present then some true else refusal [name, property.toJson])
        | _ => part.replyEntered extent value
      else some true := by
  unfold dependency
  split
  · cases part.schema with
    | array names =>
        simp only
        rw [answer_chain_map]
        · simp only [answer_given]
          refine congrArg (inTurn extent) (List.map_congr_left fun name _ => ?_)
          refine congrArg ((isThere name value).toOption.bind ·) (funext fun present => ?_)
          cases present <;> simp
        · intro name _
          refine given_value fun present _ => ?_
          split <;> simp
    | _ => rfl
  · rfl

theorem answer_dependencies (keep : ∀ member ∈ argument.members, member.2.Keeps .plain) :
    (dependencies argument .plain extent value).answer =
      if value.isObject then argument.named.toOption.bind fun members =>
        inTurn extent (members.map fun member => (dependency member.1 member.2 .plain extent value).answer)
      else some true := by
  unfold dependencies
  split
  · rw [answer_given]
    cases found : argument.named with
    | error fault => rfl
    | ok members =>
        obtain rfl := named_members found
        exact answer_chain_map fun member listed => dependency_value (keep member listed) _ _
  · rfl

theorem answer_items (keep : argument.Keep .plain) :
    (items argument .plain extent value).answer =
      inTurn extent ((itemParts argument (itemCount value)).map fun entry =>
        entry.2.replyBelow extent (.index entry.1) value) := by
  refine answer_descents fun entry member => ?_
  rcases mem_itemParts member with same | listed
  · rw [same]
    exact keep.self
  · exact keep.items _ listed

/-- The message about undeclared properties is there where the properties are and their names are texts. -/
theorem undeclaredMessage_ok {names : List Key} (found : undeclaredNames node value = .ok names)
    (texts : ∀ name ∈ names, ∃ text, name = .text text) : ∃ message, undeclaredMessage node names = .ok message := by
  have written : ∃ written, names.mapM Key.text? = some written := by
    clear found
    induction names with
    | nil => exact ⟨[], rfl⟩
    | cons name rest ih =>
        obtain ⟨text, rfl⟩ := texts name (by simp)
        obtain ⟨written, same⟩ := ih fun other member => texts other (by simp [member])
        exact ⟨text :: written, by simp [List.mapM_cons, Key.text?, same]⟩
  obtain ⟨written, same⟩ := written
  have sorted : sortedNames names = .ok ((Text.sorted written).map Key.text) := by
    simp only [sortedNames, same]
  obtain ⟨patterns, listed, -⟩ := bind_eq_ok.mp found
  unfold undeclaredMessage
  split
  · exact ⟨_, by rw [listed, sorted]; rfl⟩
  · exact ⟨_, rfl⟩

theorem undeclaredNames_subset {names : List Key} (found : undeclaredNames node value = .ok names) :
    names ⊆ namesOf value := by
  obtain ⟨patterns, -, found⟩ := bind_eq_ok.mp found
  obtain ⟨left, picked, found⟩ := bind_eq_ok.mp found
  obtain ⟨holds, -, rfl⟩ := filterM_eq_ok.mp picked
  split at found
  · obtain rfl := Except.ok.inj found
    exact fun name listed => (List.mem_filter.mp listed).1
  · split at found
    · obtain ⟨holds', -, rfl⟩ := filterM_eq_ok.mp found
      exact fun name listed => (List.mem_filter.mp (List.mem_filter.mp listed).1).1
    · cases found

theorem answer_additionalProperties (formed : value.wellFormed = true) (keeps : part.Keeps .plain) :
    (additionalProperties node part .plain extent value).answer =
      if value.isObject then (undeclaredNames node value).toOption.bind fun names =>
        if part.schema.isObject then inTurn extent (names.map fun name => part.replyBelow extent (.member name) value)
        else some (names.isEmpty || part.schema.isTruthy)
      else some true := by
  unfold additionalProperties
  split
  · rw [answer_given]
    cases found : undeclaredNames node value with
    | error fault => rfl
    | ok names =>
        have texts : ∀ name ∈ names, ∃ text, name = .text text := fun name listed =>
          Json.namesOf_text formed (undeclaredNames_subset found listed)
        simp only [Except.toOption, Option.bind_some]
        split
        · exact answer_descents fun _ _ => keeps
        · simp only [Options.plain, Bool.false_and, Bool.false_eq_true, if_false]
          split
          · next quiet => rw [quiet]; rfl
          · next loud =>
              obtain ⟨message, worded⟩ := undeclaredMessage_ok found texts
              have shown : (names.map Key.toJson).all Json.isShowable = true := by
                rw [List.all_map, List.all_eq_true]
                intro name listed
                obtain ⟨text, rfl⟩ := texts name listed
                rfl
              rw [worded, given, answer_reject, refusal, if_pos shown, Bool.eq_false_iff.mpr loud]
  · rfl

theorem answer_additionalItems (keeps : part.Keeps .plain) {values : List Json} {declared : Parts}
    (found : node.argument? "items" = some declared) :
    (additionalItems node part .plain extent (.array values)).answer =
      if declared.self.schema.isObject then some true
      else (declaredCount declared.self.schema).toOption.bind fun count =>
        if part.schema.isObject then
          inTurn extent ((List.range' count (values.drop count).length).map fun i =>
            part.replyBelow extent (.index i) (.array values))
        else if (values.drop count).isEmpty || part.schema.isTruthy then some true
        else refusal (values.drop count) := by
  unfold additionalItems
  rw [found]
  simp only
  split
  · rfl
  · rw [answer_given]
    refine congrArg ((declaredCount _).toOption.bind ·) (funext fun count => ?_)
    split
    · rw [atIndices_replicate, List.map_map]
      exact answer_descents fun _ _ => keeps
    · split <;> simp

/-- The answer of a search for something that is accepted. -/
def sought (found : Option Bool) (value : Json) : Option Bool :=
  found.bind fun found => if found then some true else refusal [value]

theorem answer_look (keeps : part.Keeps .plain) {values : List Json} (indices : List Nat)
    (there : ∀ i ∈ indices, i < values.length) :
    (contains.look part .plain indices (.array values)).answer =
      sought (firstOf (indices.map fun i => part.reply .first (values.getD i .null))) (.array values) := by
  induction indices with
  | nil => simp [contains.look, firstOf, sought]
  | cons i rest ih =>
      have bound := there i (by simp)
      have found : (Json.array values).child? (.index i) = some values[i] := List.getElem?_eq_getElem bound
      have item : values.getD i .null = values[i] := by simp [List.getD, List.getElem?_eq_getElem bound]
      have later := ih fun j member => there j (by simp [member])
      rw [contains.look, found, List.map_cons, item]
      simp only [(keeps .first _).1, Json.setChild_of_child? found]
      cases ended : (part.run .plain .first values[i]).fault with
      | some fault =>
          rw [Part.reply, answer_of_fault ended]
          rfl
      | none =>
          rw [Part.reply, answer_of_end ended]
          cases (part.run .plain .first values[i]).isValid with
          | true => rfl
          | false => exact later

theorem answer_contains (keeps : part.Keeps .plain) {values : List Json} :
    (contains part .plain (.array values)).answer =
      sought (firstOf (values.map (part.reply .first))) (.array values) := by
  have items : (List.range values.length).map (fun i => part.reply .first (values.getD i .null)) =
      values.map (part.reply .first) := by
    refine List.ext_getElem (by simp) fun i inside _ => ?_
    rw [List.length_map, List.length_range] at inside
    simp [List.getD, inside]
  have looked := @answer_look part keeps values (List.range values.length)
    fun i member => List.mem_range.mp member
  rwa [items] at looked

theorem answer_allOf (keep : ∀ branch ∈ branches, branch.Keeps .plain) :
    (allOf branches .plain extent value).answer =
      inTurn extent (branches.map fun branch => branch.replyEntered extent value) :=
  answer_chain_map fun branch member => (keep branch member extent value).2

/-- Looking for the first valid branch finds one, or none, as the branches say. -/
theorem firstValid_answer (keep : ∀ branch ∈ branches, branch.Keeps .plain) :
    match firstValid .plain branches value with
    | .error (_, _) => firstOf (branches.map fun branch => branch.replyEntered .all value) = none
    | .ok (left, found) => left = value ∧
        firstOf (branches.map fun branch => branch.replyEntered .all value) = some found.isSome := by
  induction branches with
  | nil => exact ⟨rfl, rfl⟩
  | cons branch rest ih =>
      have kept := (keep branch (by simp) .all value).2
      rw [firstValid, List.map_cons, Part.replyEntered]
      cases ended : (branch.enter .plain .all value).fault with
      | some fault => simp [firstOf, answer_of_fault ended]
      | none =>
          rw [answer_of_end ended]
          cases valid : (branch.enter .plain .all value).isValid with
          | true => simp [firstOf, kept]
          | false => simpa [firstOf, kept] using ih fun other member => keep other (by simp [member])

theorem answer_anyOf (keep : ∀ branch ∈ branches, branch.Keeps .plain) :
    (anyOf branches .plain value).answer =
      sought (firstOf (branches.map fun branch => branch.replyEntered .all value)) value := by
  have looked := @firstValid_answer value branches keep
  unfold anyOf
  split at looked
  · next left fault ended => rw [ended, looked]; rfl
  · next left found ended =>
      obtain ⟨rfl, said⟩ := looked
      rw [ended, said]
      cases found <;> simp [noBranch, sought]

/-- The schemas of the branches that say they accept a value, if all of them say something. -/
def agreeing (value : Json) : List Part → Option (List Json)
  | [] => some []
  | branch :: rest => (branch.reply .first value).bind fun valid =>
      (agreeing value rest).map fun others => if valid then branch.schema :: others else others

/-- The answer of a search for the only branch that accepts a value. -/
def soleAnswer (value : Json) : List Part → Option Bool
  | [] => refusal [value]
  | branch :: rest => (branch.replyEntered .all value).bind fun valid =>
      if valid then (agreeing value rest).bind fun others =>
        if others.isEmpty then some true else refusal (value :: (others ++ [branch.schema]))
      else soleAnswer value rest

theorem accepting_answer (keep : ∀ branch ∈ branches, branch.Keeps .plain) :
    match accepting .plain branches value with
    | .error (_, _) => agreeing value branches = none
    | .ok (left, found) => left = value ∧ agreeing value branches = some found := by
  induction branches with
  | nil => exact ⟨rfl, rfl⟩
  | cons branch rest ih =>
      have kept := (keep branch (by simp) .first value).1
      have later := ih fun other member => keep other (by simp [member])
      rw [accepting, agreeing, Part.reply]
      cases ended : (branch.run .plain .first value).fault with
      | some fault => simp [answer_of_fault ended]
      | none =>
          simp only [answer_of_end ended, Option.bind_some, kept]
          cases looked : accepting .plain rest value with
          | error failed =>
              rw [looked] at later
              simp [bind, Except.bind, later]
          | ok found =>
              rw [looked] at later
              obtain ⟨left, said⟩ := later
              simp [bind, Except.bind, pure, Except.pure, left, said]

theorem answer_oneOf (keep : ∀ branch ∈ branches, branch.Keeps .plain) :
    (oneOf branches .plain value).answer = soleAnswer value branches := by
  induction branches with
  | nil => simp [oneOf, firstValid, noBranch, soleAnswer]
  | cons branch rest ih =>
      have kept := (keep branch (by simp) .all value).2
      have others : ∀ other ∈ rest, other.Keeps .plain := fun other member => keep other (by simp [member])
      have later := ih others
      have looked := @accepting_answer value rest others
      unfold oneOf at later ⊢
      rw [firstValid, soleAnswer, Part.replyEntered]
      cases ended : (branch.enter .plain .all value).fault with
      | some fault => simp [answer_of_fault ended]
      | none =>
          simp only [answer_of_end ended, Option.bind_some, kept]
          cases (branch.enter .plain .all value).isValid with
          | false => exact later
          | true =>
              simp only [if_true]
              split at looked
              · next left fault failed => simp [failed, looked]
              · next left found listed =>
                  obtain ⟨rfl, said⟩ := looked
                  rw [listed, said]
                  cases found <;> simp

theorem answer_negation (keeps : part.Keeps .plain) :
    (negation part .plain value).answer =
      (part.reply .first value).bind fun valid =>
        if valid then refusal [value, part.schema] else some true := by
  unfold negation
  rw [Part.answer_probe keeps]
  refine congrArg ((part.reply .first value).bind ·) (funext fun valid => ?_)
  cases valid <;> simp

theorem answer_conditional (keeps : part.Keeps .plain) :
    (conditional node part .plain extent value).answer =
      (part.reply .first value).bind fun valid =>
        match node.argument? (if valid then "then" else "else") with
        | some parts => parts.self.replyEntered extent value
        | none => some true := by
  unfold conditional
  rw [Part.answer_probe keeps]
  refine congrArg ((part.reply .first value).bind ·) (funext fun valid => ?_)
  cases node.argument? (if valid then "then" else "else") <;> rfl

end Structure

namespace Evaluation

open Outcome

/-- The answer of a schema object without reference: its keywords speak in turn. -/
theorem answer_evaluateNode {meaning : Meaning} (kept : meaning.Keeps) (location : String)
    {fields : List (Key × Json)} (alone : Fields.has fields "$ref" = false) (extent : Extent) (value : Json) :
    (evaluateNode meaning location fields (nodeWith meaning location fields) .plain extent value).answer =
      inTurn extent ((keywordsOf fields).map fun entry =>
        (Structure.evaluate (nodeWith meaning location fields) entry.1 (argumentWith meaning location entry.2)
          .plain extent value).answer) := by
  rw [evaluateNode_closed meaning location alone]
  refine answer_chain_map fun entry _ => ?_
  exact Structure.evaluate_plain_value (argumentWith_keep kept entry.2 location)
    (fun other listed => (nodeWith_keep kept location other listed).self) _ _

end Evaluation

end SchemaAlgebra
