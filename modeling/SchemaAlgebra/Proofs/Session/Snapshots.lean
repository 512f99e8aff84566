import SchemaAlgebra.Proofs.Session.History
import SchemaAlgebra.Proofs.Store.Placing
import SchemaAlgebra.Session.Validate

/-!
Snapshots. A run interleaves calls, new validators and validations of values and lists of values. Which
schema a validation uses is said without the snapshots that the session keeps: it is the one that its name
stood for at the first such use at which it was a schema. Whatever happens in between, the answer is that of
a new validator over this schema; and validations change no schema.
-/

namespace SchemaAlgebra.Session

open Validation

/-- What is validated: single values or lists of values. -/
inductive Use
  | single
  | list
  deriving DecidableEq

namespace Use

/-- Validate with what a name is bound to. -/
def validate : Use → String → Json → Act Result
  | .single => Session.validate
  | .list => Session.validateList

/-- The result of validating against a schema that has been checked. -/
def result : Use → Options → Json → Json → Result
  | .single => Validation.validate
  | .list => Validation.validateList

/-- The snapshot that a target has. -/
def kept : Use → Target → Option Json
  | .single, target => target.single
  | .list, target => target.list

/-- A target with a snapshot. -/
def keep : Use → Target → Json → Target
  | .single, target, schema => { target with single := some schema }
  | .list, target, schema => { target with list := some schema }

@[simp] theorem root_keep (use : Use) (target : Target) (schema : Json) :
    (use.keep target schema).root = target.root := by
  cases use <;> rfl

@[simp] theorem options_keep (use : Use) (target : Target) (schema : Json) :
    (use.keep target schema).options = target.options := by
  cases use <;> rfl

end Use

/-- One thing that happens in a run. -/
inductive Move
  | call (step : Call)
  | attach (name source : String) (options : Options)
  | attachSchema (name : String) (schema : Json) (options : Options)
  | validate (use : Use) (name : String) (value : Json)
  /-- The files and the environment change. -/
  | meanwhile (environment : Fields String String) (files : Files)

namespace Move

/-- Carry out a move. The result of a validation is a value of its own, which nothing in the session holds. -/
def run : Move → Act Unit
  | .call step => step.run
  | .attach name source options => Session.attach name source options
  | .attachSchema name schema options => Session.attachSchema name schema options
  | .validate use name value => do
      let _ ← use.validate name value
  | .meanwhile environment files => modify fun session => { session with environment := environment, files := files }

/-- The session after a move, whether this succeeds or fails. -/
def after (move : Move) (session : Session) : Session :=
  (outcome move.run session).2

end Move

/-- The session that a run leads to. -/
def after (session : Session) (run : List Move) : Session :=
  run.foldl (fun session move => move.after session) session

/-- What a new validator over a schema answers. -/
def fresh (use : Use) (options : Options) (schema value : Json) : Except Error Result :=
  (outcome (do
    Session.attachSchema "validator" schema options
    use.validate "validator" value) (start [] .empty)).1

/-- The schema, if it passes the check, or why it does not. -/
def checked (schema : Json) : Except Error Json :=
  match Metaschema.check schema with
  | .ok none => .ok schema
  | .ok (some complaint) =>
      if complaint.subject.isShowable then .error (.builder (.refused (.invalidSchema complaint.message)))
      else .error (.fault .tooManyDigits)
  | .error defect => .error (.pattern defect)

theorem checked_eq_ok_iff {schema found : Json} :
    checked schema = .ok found ↔ found = schema ∧ Metaschema.isSchema schema = true := by
  unfold checked Metaschema.isSchema
  rcases Metaschema.check schema with defect | _ | complaint
  · simp
  · simp [eq_comm]
  · simp only [Bool.false_eq_true, and_false, iff_false]
    split <;> simp

/-- A snapshot is the schema as it is, or an error. -/
theorem outcome_snapshot (root : Slot) (session : Session) :
    outcome (snapshot root) session =
      (match session.store.tree? root with
        | some schema => checked schema
        | none => .error (.builder .endless), session) := by
  rw [snapshot, schema, outcome_bind, outcome_bind_ok (outcome_get session)]
  cases session.store.tree? root with
  | none => rfl
  | some schema =>
      simp only [outcome_pure, checked]
      rcases Metaschema.check schema with defect | (_ | complaint)
      · rfl
      · rfl
      · simp only
        split <;> rfl

/-- A validation uses the snapshot that is kept, or takes one and keeps it. -/
theorem outcome_validate (use : Use) (name : String) (value : Json) (session : Session) :
    outcome (use.validate name value) session =
      match session.targets.get? name with
      | none => (.error .unbound, session)
      | some target =>
          match use.kept target with
          | some schema => (.ok (use.result target.options schema value), session)
          | none =>
              match (outcome (snapshot target.root) session).1 with
              | .ok schema => (.ok (use.result target.options schema value),
                  { session with targets := session.targets.put name (use.keep target schema) })
              | .error error => (.error error, session) := by
  have taken (root : Slot) : outcome (snapshot root) session = ((outcome (snapshot root) session).1, session) := by
    rw [outcome_snapshot]
  cases use
  all_goals
    simp only [Use.validate, Session.validate, Session.validateList, target, Use.kept, Use.keep, Use.result]
    rw [outcome_bind, outcome_bind_ok (outcome_get session)]
    rcases session.targets.get? name with _ | target
    · rfl
    simp only [outcome_pure]
  · cases target.single with
    | some schema => rfl
    | none =>
        rw [outcome_bind, taken]
        cases (outcome (snapshot target.root) session).1 <;> rfl
  · cases target.list with
    | some schema => rfl
    | none =>
        rw [outcome_bind, taken]
        cases (outcome (snapshot target.root) session).1 <;> rfl

theorem store_validate (use : Use) (name : String) (value : Json) (session : Session) :
    (outcome (use.validate name value) session).2.store = session.store := by
  rw [outcome_validate]
  split
  · rfl
  · split
    · rfl
    · split <;> rfl

end SchemaAlgebra.Session
