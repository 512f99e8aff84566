import SchemaAlgebra.Proofs.Validation.Closed
import SchemaAlgebra.Proofs.Validation.Conversion
import SchemaAlgebra.Validation.Validator

/-!
Verdicts of whole validations. A value is accepted if validating it without normalization succeeds; this
never changes it. At its root a schema is evaluated as anywhere else, if it leaves the options as they are.
-/

namespace SchemaAlgebra

open Outcome Evaluation

namespace Validation

/-- The schema accepts the value as it is. -/
def Accepts (schema value : Json) : Prop :=
  ∃ result, (validate .plain schema value).verdict = .valid result

/-- Whether a value is accepted is decided by validating it. -/
instance (schema value : Json) : Decidable (Accepts schema value) :=
  match found : (validate .plain schema value).verdict with
  | .valid result => .isTrue ⟨result, found⟩
  | .invalid _ | .faulty _ => .isFalse fun ⟨result, accepted⟩ => by
      rw [found] at accepted
      cases accepted

theorem verdictOf_eq_valid {outcome : Outcome} {result : Json} :
    verdictOf outcome = .valid result ↔ outcome = accept result := by
  obtain ⟨value, problems, fault⟩ := outcome
  cases fault <;> cases problems <;> simp [verdictOf, accept]

theorem resultOf_valid {passed result : Json} {outcome : Outcome} :
    (resultOf passed outcome).verdict = .valid result ↔ outcome = accept result :=
  verdictOf_eq_valid

end Validation

namespace Evaluation

variable {scope : Reference.Scope} {location : String}

theorem partIn_flat {schema : Json} (flat : schema.isObject = false) (count : Nat) :
    partIn scope count location schema = .flat schema := by
  cases count <;> exact partWith_flat _ _ flat

theorem evaluateRoot_plain_value (scope : Reference.Scope) (location : String) (schema value : Json) :
    (evaluateRoot scope location .plain schema value).value = value := by
  unfold evaluateRoot
  split
  · exact evaluateNode_plain_value (meaningIn_partIn_keeps scope _) location _
      (nodeWith_keep (meaningIn_partIn_keeps scope _) location) _ _
  · exact (partIn_keeps scope _ location schema .all value).1

/-- The schema leaves the options as they are, since it does not name the draft 7 metaschema. -/
def LeavesOptions (schema : Json) (options : Options) : Prop :=
  ∀ fields, schema = .object fields → optionsIn fields options = .ok options

theorem leavesOptions_of_silent {schema : Json}
    (silent : ∀ fields, schema = .object fields → Fields.get? fields "$schema" = none)
    (options : Options) : LeavesOptions schema options := by
  intro fields same
  rw [optionsIn, silent fields same]

theorem evaluateRoot_eq_run {schema : Json} {options : Options} (leaves : LeavesOptions schema options)
    (value : Json) :
    evaluateRoot scope location options schema value =
      (partWith (meaningIn (partIn scope (scope.bound value)) scope) location schema).run options .all
        value := by
  cases isObject : schema.isObject with
  | true =>
      cases schema <;> simp only [Json.isObject, Bool.false_eq_true] at isObject
      next fields => simp only [evaluateRoot, partWith, runNode, leaves fields rfl, given]
  | false =>
      rw [partWith_flat _ _ isObject]
      cases schema <;> simp only [Json.isObject, reduceCtorEq] at isObject <;>
        simp only [evaluateRoot] <;> rw [partIn_flat rfl]

end Evaluation

namespace Validation

/-- The outcome of evaluating a schema at the root of a value. -/
def rootOutcome (options : Options) (schema value : Json) : Outcome :=
  evaluateRoot (scopeOf (ownLocation schema) schema) (ownLocation schema) options schema value

theorem validate_eq_valid {options : Options} {schema value result : Json} :
    (validate options schema value).verdict = .valid result ↔
      ∃ root, coerceRoot options (partIn (scopeOf (ownLocation schema) schema)
          ((scopeOf (ownLocation schema) schema).bound value) (ownLocation schema) schema) value =
            .ok root ∧ rootOutcome options schema root = accept result := by
  unfold validate
  simp only
  cases coerced : coerceRoot options (partIn (scopeOf (ownLocation schema) schema)
      ((scopeOf (ownLocation schema) schema).bound value) (ownLocation schema) schema) value with
  | error fault => simp
  | ok root => simp [resultOf_valid, rootOutcome]

theorem accepts_iff {schema value : Json} :
    Accepts schema value ↔ rootOutcome .plain schema value = accept value := by
  constructor
  · rintro ⟨result, accepted⟩
    obtain ⟨root, coerced, ended⟩ := validate_eq_valid.mp accepted
    obtain rfl : value = root := Except.ok.inj coerced
    have kept := evaluateRoot_plain_value (scopeOf (ownLocation schema) schema) (ownLocation schema)
      schema value
    rw [← rootOutcome, ended] at kept
    rw [ended, show result = value from kept]
  · intro accepted
    exact ⟨value, validate_eq_valid.mpr ⟨value, rfl, accepted⟩⟩

/-- At the root an object schema without references is evaluated by its keywords, under the options that are
given. -/
theorem rootOutcome_closed {fields : List (Key × Json)} {options : Options} {value : Json}
    (closed : Reference.count "$ref" (.object fields) = 0) :
    rootOutcome options (.object fields) value =
      evaluateNode noReference "" fields (nodeWith noReference "" fields) options .all value := by
  rw [rootOutcome, evaluateRoot]
  simp only [nodeWith_closed closed _ noReference _ ""]
  rw [evaluateNode_alone (Reference.get?_of_count closed)]

/-- A schema object without references accepts a value exactly if each of its keywords does. -/
theorem accepts_iff_keywords {fields : List (Key × Json)} {value : Json} (distinct : (Fields.keys fields).Nodup)
    (closed : Reference.count "$ref" (.object fields) = 0) :
    Accepts (.object fields) value ↔ ∀ keyword argument, Fields.get? fields (.text keyword) = some argument →
      Structure.evaluate (nodeWith noReference "" fields) keyword (argumentWith noReference "" argument) .plain .all
        value = accept value := by
  have noReferences : Fields.has fields "$ref" = false := by
    rw [Fields.has, Reference.get?_of_count closed]
    rfl
  have kept : Meaning.Keeps noReference := fun _ _ _ _ => rfl
  rw [accepts_iff, rootOutcome_closed closed, evaluateNode_closed noReference "" noReferences, chain_eq_accept_iff]
  · constructor
    · rintro ⟨-, each⟩ keyword argument found
      exact each _ (List.mem_map.mpr ⟨(keyword, argument), mem_keywordsOf.mpr (Fields.mem_of_get? found), rfl⟩)
    · refine fun each => ⟨rfl, fun step listed => ?_⟩
      obtain ⟨⟨keyword, argument⟩, among, rfl⟩ := List.mem_map.mp listed
      exact each keyword argument (Fields.get?_of_mem distinct (mem_keywordsOf.mp among))
  · simp only [List.mem_map, forall_exists_index, and_imp, forall_apply_eq_imp_iff₂]
    exact fun entry _ => Structure.evaluate_plain_value (argumentWith_keep kept entry.2 "")
      (fun other listed => (nodeWith_keep kept "" other listed).self) _ _

theorem coerceRoot_formed {options : Options} {scope : Reference.Scope} {count : Nat}
    {location : String} {schema value root : Json} (formed : value.wellFormed = true)
    (coerced : coerceRoot options (partIn scope count location schema) value = .ok root) :
    root.wellFormed = true := by
  unfold coerceRoot at coerced
  split at coerced
  · obtain ⟨converted, found, ended⟩ := bind_eq_ok.mp coerced
    cases converted with
    | none => exact Except.ok.inj ended ▸ formed
    | some made =>
        obtain rfl : made = root := Except.ok.inj ended
        cases count <;> exact Json.wellFormed_scalar (coerce_flat schema found)
  · exact Except.ok.inj coerced ▸ formed

theorem coerceRoot_container {options : Options} {scope : Reference.Scope} {count : Nat}
    {location : String} {schema value : Json} (container : value.isContainer = true) :
    coerceRoot options (partIn scope count location schema) value = .ok value := by
  have left : (partIn scope count location schema).coerce options value = .ok none := by
    cases schema <;> cases count <;> simp [partIn, partWith, Part.flat, coerceNode, container]
  unfold coerceRoot
  split
  · rw [left]
    rfl
  · rfl

theorem leavesOptions_of_count {schema : Json} (silent : Reference.count "$schema" schema = 0)
    (options : Options) : LeavesOptions schema options := by
  refine leavesOptions_of_silent ?_ options
  rintro fields rfl
  exact Reference.get?_of_count silent

variable {options : Options} {schema value : Json}

theorem rootOutcome_alone (closed : Reference.count "$ref" schema = 0)
    (leaves : LeavesOptions schema options) :
    rootOutcome options schema value = (alone schema).run options .all value := by
  rw [rootOutcome, evaluateRoot_eq_run leaves, partWith_closed closed, alone]

/-- A value that a part without references does not convert is validated as it is. -/
theorem validate_unconverted (closed : Reference.count "$ref" schema = 0)
    (left : (alone schema).coerce options value = .ok none) :
    validate options schema value = resultOf value (rootOutcome options schema value) := by
  have coerced : coerceRoot options (alone schema) value = .ok value := by
    unfold coerceRoot
    split
    · rw [left]
      rfl
    · rfl
  simp only [validate, partIn_closed closed, coerced, rootOutcome]

theorem resultOf_accept (value : Json) : resultOf value (accept value) = ⟨.valid value, value⟩ := by
  unfold resultOf
  split <;> rfl

end Validation

end SchemaAlgebra
