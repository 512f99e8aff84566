import SchemaAlgebra.Proofs.Validation.Rewriting
import SchemaAlgebra.Proofs.Validation.Survival
import SchemaAlgebra.Proofs.Validation.Verdict

/-!
Validation of values that a schema accepts as they are, with normalization but without defaults. They
survive if every schema that is only tried restores what it refuses, and this cannot be weakened: the
schemas that merely negate a schema, or offer it as an alternative, leave accepted values alone exactly if
it restores.
-/

namespace SchemaAlgebra

open Outcome

namespace Schema

/-- A schema whose parts that are only tried, here and inside, restore what they refuse. -/
inductive Tidy (options : Options) : Json → Prop
  | flat {schema : Json} : schema.isObject = false → Tidy options schema
  | object {fields : List (Key × Json)} :
      (∀ keyword argument, (Key.text keyword, argument) ∈ fields →
        ∀ schema ∈ heldBy keyword argument, Tidy options schema) →
      (∀ keyword argument, (Key.text keyword, argument) ∈ fields → keyword ∈ probingKeywords →
        ∀ schema ∈ heldBy keyword argument, (Evaluation.alone schema).RestoresProbed options) →
      (∀ keyword argument, (Key.text keyword, argument) ∈ fields → keyword ∈ choosingKeywords →
        ∀ schema ∈ heldBy keyword argument, (Evaluation.alone schema).RestoresEntered options) →
      Tidy options (.object fields)

end Schema

namespace Coercion

/-- A value that has one of several types has one of those that are named by texts. -/
theorem hasOneOf_texts {checker : TypeChecker} {value : Json} {types : List Json}
    (typed : value.hasOneOf checker types = .ok true) :
    value.hasOneOf checker ((types.filterMap fun type =>
      match type with
      | .string name => some name
      | _ => none).map .string) = .ok true := by
  induction types with
  | nil => simp [Json.hasOneOf] at typed
  | cons type rest ih =>
      rw [Json.hasOneOf] at typed
      obtain ⟨here, found, typed⟩ := bind_eq_ok.mp typed
      cases type with
      | string name =>
          simp only [List.filterMap_cons, List.map_cons, Json.hasOneOf, found, bind, Except.bind]
          cases here with
          | true => rfl
          | false => exact ih typed
      | _ => simp [Json.isOfType] at found

/-- What has a declared type is left alone. -/
theorem conversion?_declared {fields : List (Key × Json)} {value argument : Json}
    (declared : Fields.get? fields "type" = some argument)
    (accepted : Keyword.checkType argument value = accept value)
    (some : declaredTypes (.object fields) ≠ []) :
    conversion? .byValue ((declaredTypes (.object fields)).map .string) value = .ok none := by
  obtain ⟨types, listed, typed⟩ := Keyword.checkType_eq_accept.mp accepted
  have read : (Json.object fields).get? "type" = Option.some argument := by
    simpa [Json.get?] using declared
  have named : value.hasOneOf .byValue ((declaredTypes (.object fields)).map .string) = .ok true := by
    rw [declaredTypes, read] at some ⊢
    cases argument with
    | string name =>
        obtain rfl := Option.some.inj listed
        exact typed
    | array items =>
        obtain rfl := Option.some.inj listed
        exact hasOneOf_texts typed
    | _ => simp at some
  unfold conversion?
  split
  · rfl
  · simp [named, bind, Except.bind, pure, Except.pure]

end Coercion

namespace Evaluation

variable {meaning : Meaning} {location : String} {fields : List (Key × Json)} {options : Options}
  {extent : Extent} {value : Json}

theorem coercionBranches_ok
    (listed : ∀ keyword ∈ ["oneOf", "anyOf", "allOf"], ∀ argument,
      Fields.get? fields (.text keyword) = some argument →
        ∃ branches, (argumentWith meaning location argument).branches = .ok branches) :
    ∃ branches, coercionBranches (nodeWith meaning location fields) = .ok branches := by
  unfold coercionBranches
  refine (mapM_ok_of_forall fun keyword member => ?_).elim fun lists found =>
    ⟨_, bind_eq_ok.mpr ⟨lists, found, rfl⟩⟩
  rw [argument?_nodeWith]
  cases found : Fields.get? fields (.text keyword) with
  | none => exact ⟨[], rfl⟩
  | some argument =>
      obtain ⟨branches, same⟩ := listed keyword member argument found
      simp only [Option.map_some]
      split
      · exact ⟨branches, same⟩
      · exact ⟨[], rfl⟩

/-- Nothing is converted in a value that the schema accepts. -/
theorem coerceNode_accepted {run : Options → Extent → Json → Outcome}
    (accepted : ∀ entry ∈ keywordsOf fields, Structure.evaluate (nodeWith meaning location fields)
      entry.1 (argumentWith meaning location entry.2) .plain extent value = accept value)
    (ran : run options .first value = accept value) :
    coerceNode fields (nodeWith meaning location fields) run options value = .ok none := by
  have evaluated : ∀ keyword argument, Fields.get? fields (.text keyword) = some argument →
      Structure.evaluate (nodeWith meaning location fields) keyword
        (argumentWith meaning location argument) .plain extent value = accept value :=
    fun keyword argument found => accepted _ (mem_keywordsOf.mpr (Fields.mem_of_get? found))
  unfold coerceNode
  split
  · rfl
  · split
    · have listed : ∀ keyword ∈ ["oneOf", "anyOf", "allOf"], ∀ argument,
          Fields.get? fields (.text keyword) = some argument →
            ∃ branches, (argumentWith meaning location argument).branches = .ok branches := by
        intro keyword member argument found
        have here := evaluated keyword argument found
        simp only [List.mem_cons, List.not_mem_nil, or_false] at member
        rcases member with rfl | rfl | rfl <;>
          exact (given_eq_accept.mp here).imp fun branches both => both.1
      obtain ⟨branches, found⟩ := coercionBranches_ok listed
      simp only [found, bind, Except.bind, accepts, ran, accept_fault, Outcome.isValid, accept_problems,
        List.isEmpty_nil, if_true]
      cases branches <;> rfl
    · next some =>
        cases found : Fields.get? fields "type" with
        | none => simp [Coercion.declaredTypes, Json.get?, found] at some
        | some argument =>
            have typed := evaluated "type" argument found
            exact Coercion.conversion?_declared found
              (by simpa [Structure.evaluate, Keyword.check] using typed) some

open Schema

/-- Each keyword of a schema accepts what the schema accepts. -/
theorem alone_accepted (closed : Reference.count "$ref" (.object fields) = 0)
    (silent : Reference.count "$schema" (.object fields) = 0)
    (accepted : (alone (.object fields)).run .plain extent value = accept value) :
    ∀ entry ∈ keywordsOf fields, Structure.evaluate (nodeWith noReference "" fields) entry.1
      (argumentWith noReference "" entry.2) .plain extent value = accept value := by
  intro entry member
  rw [alone_run closed silent] at accepted
  refine accept_of_chain ?_ accepted _ (List.mem_map_of_mem member)
  simp only [List.mem_map, forall_exists_index, and_imp, forall_apply_eq_imp_iff₂]
  intro other _
  have kept : Meaning.Keeps noReference := fun _ _ _ _ => rfl
  exact Structure.evaluate_plain_value (argumentWith_keep kept other.2 "")
    (fun inner listed => (nodeWith_keep kept "" inner listed).self) _ _

theorem alone_coerce (closed : Reference.count "$ref" (.object fields) = 0)
    (silent : Reference.count "$schema" (.object fields) = 0)
    (accepted : (alone (.object fields)).run .plain extent value = accept value)
    (ran : (alone (.object fields)).run options .first value = accept value) :
    (alone (.object fields)).coerce options value = .ok none := by
  have each := alone_accepted closed silent accepted
  rw [alone, partWith_object] at ran ⊢
  exact coerceNode_accepted each ran

/-- A tidy schema leaves alone what it accepts. -/
theorem alone_survives (noDefaults : options.useDefaults = false) {schema : Json}
    (tidy : Tidy options schema) (closed : Reference.count "$ref" schema = 0)
    (silent : Reference.count "$schema" schema = 0) : (alone schema).Survives options := by
  induction tidy with
  | flat notObject =>
      rw [alone, partWith_flat _ _ notObject]
      exact Part.flat_survives _
  | @object fields _ probed entered ih =>
      have inside : ∀ keyword argument, (Key.text keyword, argument) ∈ fields →
          ∀ schema ∈ heldBy keyword argument, (alone schema).Survives options := by
        intro keyword argument present schema held
        exact ih keyword argument present schema held
          (Reference.count_heldBy ((Reference.count_eq_zero closed).2 _ present).2 held)
          (Reference.count_heldBy ((Reference.count_eq_zero silent).2 _ present).2 held)
      have run : ∀ extent extent' value,
          (alone (.object fields)).run .plain extent value = accept value →
            (alone (.object fields)).run options extent' value = accept value := by
        intro extent extent' value accepted
        rw [alone_run closed silent]
        apply chain_of_accept
        simp only [List.mem_map, forall_exists_index, and_imp, forall_apply_eq_imp_iff₂]
        intro entry member
        have present := mem_keywordsOf.mp member
        refine Structure.evaluate_survives noDefaults (inside _ _ present) (probed _ _ present)
          (entered _ _ present) ?_ (alone_accepted closed silent accepted entry member)
        rintro other schema (rfl | rfl) branch <;> exact inside _ _ branch schema (by simp [heldBy])
      refine ⟨run, ?_, ?_, ?_, alone_keeps _⟩
      · intro extent extent' value accepted
        rw [alone_enter closed] at accepted ⊢
        obtain ⟨inner, found, accepted⟩ := given_eq_accept.mp accepted
        rw [found, given]
        exact run extent extent' value accepted
      · intro extent value accepted
        exact alone_coerce closed silent accepted (run extent .first value accepted)
      · intro extent value accepted
        rw [alone_enter closed] at accepted
        exact (given_eq_accept.mp accepted).elim fun _ both => both.2

/-- On scalars, options make no difference to a schema without references. -/
theorem alone_scalar {schema value : Json} (closed : Reference.count "$ref" schema = 0)
    (silent : Reference.count "$schema" schema = 0) (scalar : value.isContainer = false)
    (extent : Extent) :
    (alone schema).run options extent value = (alone schema).run .plain extent value ∧
      (alone schema).enter options extent value = (alone schema).enter .plain extent value := by
  have hereditary : Hereditary fun value : Json => value.isArray = false ∧ value.isObject = false := by
    constructor
    · intro value step child flat found
      cases value <;> cases step <;>
        simp_all [Json.isArray, Json.isObject, Json.child?, Json.get?]
    · intro value name flat listed
      cases name <;> exact ⟨rfl, rfl⟩
  have within : Within (fun keyword => keyword ∉ ["$ref", "$schema"]) schema := by
    refine within_of_count ?_
    simp only [List.mem_cons, List.not_mem_nil, or_false]
    rintro word (rfl | rfl) <;> assumption
  have agrees : (alone schema).Agrees (fun value => value.isArray = false ∧ value.isObject = false)
      options (alone schema) :=
    partWith_agrees (fun _ _ _ _ => rfl) hereditary (by simp) (by simp) (fun _ _ _ _ flat => flat) within
      "" ""
  have flat : value.isArray = false ∧ value.isObject = false := by
    cases value <;> simp_all [Json.isContainer, Json.isArray, Json.isObject]
  exact ⟨agrees.run value flat extent, agrees.enter value flat extent⟩

/-- A schema that edits nothing restores whatever it refuses. -/
theorem restores_of_editsNothing {schema : Json} (edits : EditsNothing schema) :
    (alone schema).RestoresProbed options ∧ (alone schema).RestoresEntered options := by
  have agrees : (alone schema).Agrees (fun _ => True) options (alone schema) :=
    agrees_of_editsNothing (fun _ _ _ _ => rfl) edits "" ""
  constructor
  · intro value refused
    rw [agrees.run value trivial]
    exact refused
  · intro value refused
    rw [agrees.enter value trivial]
    exact refused

theorem tidy_of_editsNothing {schema : Json} (edits : EditsNothing schema) : Tidy options schema := by
  induction edits with
  | flat notObject => exact .flat notObject
  | object _ inside ih =>
      exact .object ih
        (fun keyword argument present _ schema held =>
          (restores_of_editsNothing (inside keyword argument present schema held)).1)
        fun keyword argument present _ schema held =>
          (restores_of_editsNothing (inside keyword argument present schema held)).2

end Evaluation

namespace Validation

open Evaluation Schema

variable {options : Options} {schema value : Json}

theorem survives_of_tidy (noDefaults : options.useDefaults = false) (tidy : Tidy options schema)
    (closed : Reference.count "$ref" schema = 0) (silent : Reference.count "$schema" schema = 0)
    (accepted : Accepts schema value) : validate options schema value = ⟨.valid value, value⟩ := by
  have survives := alone_survives noDefaults tidy closed silent
  rw [accepts_iff, rootOutcome_alone closed (leavesOptions_of_count silent _)] at accepted
  rw [validate_unconverted closed (survives.coerce .all value accepted),
    rootOutcome_alone closed (leavesOptions_of_count silent _), survives.run .all .all value accepted, resultOf_accept]

/-- Where a schema object accepts exactly what has some property under the options in force, keeping the
property when normalization is switched on means that accepted values survive. -/
theorem survives_iff {fields : List (Key × Json)} (closed : Reference.count "$ref" (.object fields) = 0)
    (silent : Reference.count "$schema" (.object fields) = 0) (holds : Options → Json → Prop)
    (reads : ∀ options extent value,
      (alone (.object fields)).run options extent value = accept value ↔ holds options value) :
    (∀ value, holds .plain value → holds options value) ↔
      ∀ value, Accepts (.object fields) value →
        validate options (.object fields) value = ⟨.valid value, value⟩ := by
  have accepts : ∀ value, Accepts (.object fields) value ↔ holds .plain value := by
    intro value
    rw [accepts_iff, rootOutcome_alone closed (leavesOptions_of_count silent _), reads]
  constructor
  · intro kept value accepted
    have plain := (accepts value).mp accepted
    have ran := fun extent => (reads options extent value).mpr (kept value plain)
    rw [validate_unconverted closed (alone_coerce closed silent ((reads .plain .all value).mpr plain)
      (ran .first)), rootOutcome_alone closed (leavesOptions_of_count silent _), ran, resultOf_accept]
  · intro survive value plain
    cases container : value.isContainer with
    | false =>
        rw [← reads options .all, (alone_scalar closed silent container .all).1, reads]
        exact plain
    | true =>
        have validated := congrArg Result.verdict (survive value ((accepts value).mpr plain))
        obtain ⟨root, coerced, ended⟩ := validate_eq_valid.mp validated
        rw [coerceRoot_container container] at coerced
        obtain rfl := Except.ok.inj coerced
        rw [rootOutcome_alone closed (leavesOptions_of_count silent _), reads] at ended
        exact ended

/-- A schema that refuses what another one accepts. -/
def negated (schema : Json) : Json :=
  .object [("not", schema)]

/-- A schema that offers another one and everything, of which only one may accept. -/
def alternative (schema : Json) : Json :=
  .object [("oneOf", .array [schema, .bool true])]

theorem count_negated {word : Key} (other : word ≠ .text "not") (absent : Reference.count word schema = 0) :
    Reference.count word (negated schema) = 0 := by
  simp [negated, Reference.count, Reference.countFields, absent, Ne.symm other]

theorem count_alternative {word : Key} (other : word ≠ .text "oneOf")
    (absent : Reference.count word schema = 0) : Reference.count word (alternative schema) = 0 := by
  simp [alternative, Reference.count, Reference.countFields, Reference.countItems, absent, Ne.symm other]

theorem negated_run (closed : Reference.count "$ref" schema = 0)
    (silent : Reference.count "$schema" schema = 0) (options : Options) (extent : Extent) (value : Json) :
    (alone (negated schema)).run options extent value =
      Structure.negation (alone schema) options value := by
  rw [negated, alone_run (count_negated (by decide) closed) (count_negated (by decide) silent)]
  exact chain_cons .. |>.trans (andThen_accept ..)

theorem alternative_run (closed : Reference.count "$ref" schema = 0)
    (silent : Reference.count "$schema" schema = 0) (options : Options) (extent : Extent) (value : Json) :
    (alone (alternative schema)).run options extent value =
      Structure.oneOf [alone schema, Part.flat (.bool true)] options value := by
  rw [alternative, alone_run (count_alternative (by decide) closed)
    (count_alternative (by decide) silent)]
  refine (chain_cons ..).trans ((andThen_accept ..).trans ?_)
  simp only [Structure.evaluate, argumentWith_branches, Json.elements?, given, List.map_cons, List.map_nil]
  rw [partWith_flat noReference "" (rfl : (Json.bool true).isObject = false), alone]

/-- Without defaults, a schema whose parts that are only tried restore what they refuse leaves what it
accepts as it is. Restoring is just what it takes: a schema restores exactly if this holds of its negation,
where it is tried, and of the alternative to it, where it is entered. -/
theorem accepted_survives {options : Options} (noDefaults : options.useDefaults = false) :
    (∀ schema value, Reference.count "$ref" schema = 0 → Reference.count "$schema" schema = 0 →
      Tidy options schema → Accepts schema value →
        validate options schema value = ⟨.valid value, value⟩) ∧
    ∀ schema, Reference.count "$ref" schema = 0 → Reference.count "$schema" schema = 0 →
      ((alone schema).RestoresProbed options ↔ ∀ value, Accepts (negated schema) value →
        validate options (negated schema) value = ⟨.valid value, value⟩) ∧
      ((alone schema).RestoresEntered options ↔ ∀ value, Accepts (alternative schema) value →
        validate options (alternative schema) value = ⟨.valid value, value⟩) := by
  refine ⟨fun schema value closed silent tidy accepted =>
    survives_of_tidy noDefaults tidy closed silent accepted, fun schema closed silent => ⟨?_, ?_⟩⟩
  · refine survives_iff (count_negated (by decide) closed) (count_negated (by decide) silent)
      (fun options value => Part.Refuses ((alone schema).run options .first value) value) ?_
    intro options extent value
    rw [← negated, negated_run closed silent, Structure.negation_eq_accept]
  · refine survives_iff (count_alternative (by decide) closed) (count_alternative (by decide) silent)
      (fun options value => Part.Refuses ((alone schema).enter options .all value) value) ?_
    intro options extent value
    rw [← alternative, alternative_run closed silent, Structure.alternative_eq_accept]

/-- Objects with one of two properties and nothing else. -/
def eitherProperty : Json :=
  .object [("oneOf", .array [
    .object [("type", .string "object"), ("properties", .object [("a", .object [("type", .string "string")])]),
      ("required", .array [.string "a"]), ("additionalProperties", .bool false)],
    .object [("type", .string "object"), ("properties", .object [("b", .object [("type", .string "integer")])]),
      ("required", .array [.string "b"]), ("additionalProperties", .bool false)]])]

/-- The first branch removes, before it refuses, what the second one accepts. -/
theorem branch_removes :
    Reference.count "$ref" eitherProperty = 0 ∧ Reference.count "$schema" eitherProperty = 0 ∧
      Accepts eitherProperty (.object [("b", .int 1)]) ∧
        ¬ ∃ result, (validate ⟨true, true, false⟩ eitherProperty (.object [("b", .int 1)])).verdict =
          .valid result := by
  refine ⟨by decide, by decide, accepts_iff.mpr rfl, ?_⟩
  rintro ⟨result, validated⟩
  obtain ⟨root, coerced, ended⟩ := validate_eq_valid.mp validated
  rw [coerceRoot_container rfl] at coerced
  obtain rfl := Except.ok.inj coerced
  have invalid : (rootOutcome ⟨true, true, false⟩ eitherProperty
      (.object [("b", .int 1)])).isValid = false := rfl
  rw [ended] at invalid
  exact absurd invalid (by simp [Outcome.isValid])

/-- Objects with at most one property, which is a whole number or a text. -/
def numberOrText : Json :=
  .object [("type", .string "object"),
    ("properties", .object [("a", .object [("anyOf", .array [
      .object [("type", .string "integer")], .object [("type", .string "string")]])])]),
    ("additionalProperties", .bool false)]

theorem tidy_numberOrText (options : Options) : Tidy options numberOrText := by
  have typed : ∀ type : String, EditsNothing (.object [("type", .string type)]) := by
    intro type
    refine .object (fun keyword argument present => ?_) fun keyword argument present => ?_
    all_goals obtain ⟨⟨⟩, rfl⟩ := Prod.mk.inj (List.mem_singleton.mp present)
    · decide
    · simp [heldBy]
  have choice : EditsNothing (.object [("anyOf", .array [
      .object [("type", .string "integer")], .object [("type", .string "string")]])]) := by
    refine .object (fun keyword argument present => ?_) fun keyword argument present => ?_
    all_goals obtain ⟨⟨⟩, rfl⟩ := Prod.mk.inj (List.mem_singleton.mp present)
    · decide
    · rintro schema (_ | ⟨_, _ | ⟨_, ⟨⟩⟩⟩) <;> exact typed _
  refine .object (fun keyword argument present schema held => ?_) ?_ ?_
  · simp only [List.mem_cons, Prod.mk.injEq, Key.text.injEq, List.not_mem_nil, or_false] at present
    rcases present with ⟨rfl, rfl⟩ | ⟨rfl, rfl⟩ | ⟨rfl, rfl⟩
    · simp [heldBy] at held
    · obtain rfl := List.mem_singleton.mp held
      exact tidy_of_editsNothing choice
    · obtain rfl := List.mem_singleton.mp held
      exact .flat rfl
  all_goals
    intro keyword argument present trying
    simp only [List.mem_cons, Prod.mk.injEq, Key.text.injEq, List.not_mem_nil, or_false] at present
    rcases present with ⟨rfl, -⟩ | ⟨rfl, -⟩ | ⟨rfl, -⟩ <;> exact absurd trying (by decide)

/-- A text that could be read as a number stays a text, since the alternative for it accepts it. -/
theorem numberOrText_survives :
    validate ⟨true, true, false⟩ numberOrText (.object [("a", .string "5")]) =
      ⟨.valid (.object [("a", .string "5")]), .object [("a", .string "5")]⟩ :=
  (accepted_survives rfl).1 numberOrText _ (by decide) (by decide) (tidy_numberOrText _)
    (accepts_iff.mpr rfl)

end Validation

end SchemaAlgebra

/-!
Validation of scalars. No keyword edits a scalar, so at a scalar options matter only before the evaluation, when
it is converted; what it is converted to is a scalar again. A conversion is looked for only in what the schema
does not accept, since a schema accepts to the first problem just what it accepts to the end.
-/

namespace SchemaAlgebra

open Outcome Schema

namespace Evaluation

variable {schema value : Json} {options : Options}

/-- Without normalization nothing is edited, so that what is tried needs no restoring. -/
theorem tidy_plain (schema : Json) : Tidy .plain schema := by
  induction schema using Json.schemaInduction with
  | flat schema notObject => exact .flat notObject
  | object fields ih =>
      refine .object (fun keyword argument present schema held => ?_) (fun _ _ _ _ _ _ _ refused => refused)
        fun _ _ _ _ _ _ _ refused => refused
      obtain ⟨self, items, members⟩ := ih _ present
      rcases heldBy_cases held with rfl | listed | ⟨member, listed, rfl⟩
      · exact self
      · exact items schema listed
      · exact members member listed

/-- What a schema accepts to the end it accepts to the first problem. -/
theorem alone_exchanges (closed : Reference.count "$ref" schema = 0) (silent : Reference.count "$schema" schema = 0)
    {extent : Extent} (extent' : Extent) (accepted : (alone schema).run .plain extent value = accept value) :
    (alone schema).run .plain extent' value = accept value :=
  (alone_survives rfl (tidy_plain schema) closed silent).run extent extent' value accepted

/-- A scalar that a schema accepts is not converted, whatever the options are. -/
theorem scalar_unconverted (closed : Reference.count "$ref" schema = 0)
    (silent : Reference.count "$schema" schema = 0) (scalar : value.isContainer = false)
    (accepted : (alone schema).run .plain .all value = accept value) :
    (alone schema).coerce options value = .ok none := by
  cases isObject : schema.isObject with
  | false =>
      rw [alone, partWith_flat _ _ isObject]
      rfl
  | true =>
      cases schema <;> simp only [Json.isObject, Bool.false_eq_true] at isObject
      refine alone_coerce closed silent accepted ?_
      rw [(alone_scalar closed silent scalar .first).1]
      exact alone_exchanges closed silent .first accepted

end Evaluation

namespace Validation

open Evaluation

variable {options : Options} {schema value root : Json}

/-- The root of a scalar stays a scalar. -/
theorem coerceRoot_scalar (scalar : value.isContainer = false)
    (coerced : coerceRoot options (alone schema) value = .ok root) : root.isContainer = false := by
  unfold coerceRoot at coerced
  split at coerced
  · obtain ⟨converted, found, ended⟩ := bind_eq_ok.mp coerced
    cases converted with
    | none => exact Except.ok.inj ended ▸ scalar
    | some made =>
        obtain rfl : made = root := Except.ok.inj ended
        exact coerce_flat schema found
  · exact Except.ok.inj coerced ▸ scalar

/-- At a scalar every option leaves the evaluation of a schema as it is. -/
theorem rootOutcome_scalar (closed : Reference.count "$ref" schema = 0)
    (silent : Reference.count "$schema" schema = 0) (scalar : value.isContainer = false) :
    rootOutcome options schema value = rootOutcome .plain schema value := by
  rw [rootOutcome_alone closed (leavesOptions_of_count silent _),
    rootOutcome_alone closed (leavesOptions_of_count silent _), (alone_scalar closed silent scalar .all).1]

/-- What the validation of a scalar returns is accepted without normalization, and a scalar that is accepted without
normalization is returned as it is. Whether the schema passes the metaschema does not matter. -/
theorem scalar_normalized_soundly (closed : Reference.count "$ref" schema = 0)
    (silent : Reference.count "$schema" schema = 0) (options : Options) (scalar : value.isContainer = false) :
    (∀ result, (validate options schema value).verdict = .valid result → Accepts schema result) ∧
      (Accepts schema value → validate options schema value = ⟨.valid value, value⟩) := by
  constructor
  · intro result validated
    obtain ⟨root, coerced, ended⟩ := validate_eq_valid.mp validated
    rw [partIn_closed closed] at coerced
    rw [rootOutcome_scalar closed silent (coerceRoot_scalar scalar coerced)] at ended
    have kept := evaluateRoot_plain_value (scopeOf (ownLocation schema) schema) (ownLocation schema) schema root
    rw [← rootOutcome, ended] at kept
    obtain rfl : result = root := kept
    exact accepts_iff.mpr ended
  · intro accepted
    rw [accepts_iff] at accepted
    have ran : (alone schema).run .plain .all value = accept value := by
      rw [← rootOutcome_alone closed (leavesOptions_of_count silent _), accepted]
    rw [validate_unconverted closed (scalar_unconverted closed silent scalar ran),
      rootOutcome_scalar closed silent scalar, accepted, resultOf_accept]

/-- Truth values and null, but not false. -/
def truthOrNothing : Json :=
  .object [("not", .object [("const", .bool false)]), ("anyOf", .array [
    .object [("type", .string "null")], .object [("allOf", .array [.object [("type", .string "boolean")]])]])]

/-- A text becomes the truth value that the schema accepts, and null, which could be one too, stays null. -/
theorem truthOrNothing_reads :
    (validate .all truthOrNothing (.string "true")).verdict = .valid (.bool true) ∧
      Accepts truthOrNothing (.bool true) ∧ validate .all truthOrNothing .null = ⟨.valid .null, .null⟩ := by
  have normalized : ∀ value : Json, value.isContainer = false →
      (∀ result, (validate .all truthOrNothing value).verdict = .valid result → Accepts truthOrNothing result) ∧
        (Accepts truthOrNothing value → validate .all truthOrNothing value = ⟨.valid value, value⟩) :=
    fun _ scalar => scalar_normalized_soundly (by decide) (by decide) .all scalar
  have read : (validate .all truthOrNothing (.string "true")).verdict = .valid (.bool true) :=
    validate_eq_valid.mpr ⟨_, by rw [partIn_closed (by decide)]; rfl, rfl⟩
  exact ⟨read, (normalized _ rfl).1 _ read, (normalized _ rfl).2 (accepts_iff.mpr rfl)⟩

end Validation

end SchemaAlgebra
