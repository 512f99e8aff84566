import SchemaAlgebra.Proofs.Session.Copies
import SchemaAlgebra.Proofs.Session.Snapshots

/-!
Sessions that moves lead to: calls, validators that are made, validations, and changes of the files and the environment.
Validators and validations alter no schema and bind no builder, so such a session is whole and arranged, as one is that
calls alone lead to.
-/

namespace SchemaAlgebra.Session

variable {clean : Prop} {session : Session} {standings : Nat → Standing}

/-- The builders that a move is given are bound to names. -/
def Move.Known (session : Session) : Move → Prop
  | .call step => ∀ operand ∈ step.schemas, session.Has operand
  | _ => True

/-- The sessions that moves lead to from the start, whether these succeed or fail. -/
inductive Played : Session → Prop
  | start (environment : Fields String String) (files : Files) : Played (.start environment files)
  | move {session : Session} (move : Move) (known : move.Known session) (played : Played session) :
      Played (move.after session)

/-- A validator is bound to what a name is bound to. -/
theorem outcome_attach (name source : String) (options : Options) (session : Session) :
    outcome (attach name source options) session =
      match session.targets.get? source with
      | none => (.error .unbound, session)
      | some target => (.ok (), { session with
          targets := session.targets.put name ⟨.validator, target.root, options, none, none⟩ }) := by
  rw [attach, target, outcome_bind, outcome_bind_ok (outcome_get session)]
  cases session.targets.get? source <;> rfl

theorem after_attachSchema (name : String) (schema : Json) (options : Options) (session : Session) :
    (Move.attachSchema name schema options).after session = { session with
      store := (schema.place session.store).2
      targets := session.targets.put name ⟨.validator, (schema.place session.store).1, options, none, none⟩ } := by
  simp only [Move.after, Move.run, Session.attachSchema]
  rw [outcome_bind, outcome_change, Change.outcome_place]
  rfl

theorem after_validate (use : Use) (name : String) (value : Json) (session : Session) :
    (Move.validate use name value).after session = session ∨ ∃ target schema, session.targets.get? name = some target ∧
      (Move.validate use name value).after session =
        { session with targets := session.targets.put name (use.keep target schema) } := by
  have ran : (Move.validate use name value).after session = (outcome (use.validate name value) session).2 := by
    rw [Move.after, Move.run, outcome_bind]
    rcases outcome (use.validate name value) session with ⟨error | result, later⟩ <;> rfl
  rw [ran, outcome_validate]
  split
  · exact .inl rfl
  next target bound =>
    split
    · exact .inl rfl
    split
    · exact .inr ⟨target, _, bound, rfl⟩
    · exact .inl rfl

/-- Every move keeps a session arranged. -/
theorem Arranged.move {move : Move} (arranged : session.Arranged False standings) (known : move.Known session) :
    ∃ standings', (move.after session).Arranged False standings' := by
  cases move with
  | call step => exact arranged.call known step.suits
  | attach name source options =>
      rw [Move.after, Move.run, outcome_attach]
      split
      · exact ⟨standings, arranged⟩
      · exact ⟨standings, arranged.put name fun kind => by cases kind⟩
  | attachSchema name schema options =>
      obtain ⟨standings', arranged', advances, -⟩ :=
        Json.arranges_of_suits schema .data (.data : schema.Suits False .data) arranged.store
      rw [after_attachSchema]
      exact ⟨standings', (arranged.advance arranged' advances).put name fun kind => by cases kind⟩
  | validate use name value =>
      rcases after_validate use name value session with same | ⟨target, schema, bound, same⟩ <;> rw [same]
      · exact ⟨standings, arranged⟩
      · refine ⟨standings, arranged.put name fun kind root => arranged.roots
          (operand?_eq_builder.mpr ⟨target, bound, ?_⟩)⟩
        cases use <;> exact ⟨kind, root⟩
  | meanwhile environment files => exact ⟨standings, arranged.store, arranged.roots⟩

/-- Sessions that moves lead to are arranged. -/
theorem Played.arranged (played : session.Played) : ∃ standings, session.Arranged False standings := by
  induction played with
  | start environment files => exact ⟨_, arranged_start environment files⟩
  | move move known _ ih =>
      obtain ⟨standings, arranged⟩ := ih
      exact arranged.move known

/-- Every move keeps a session whole. -/
theorem Whole.move {move : Move} (whole : session.Whole) (known : move.Known session) :
    (move.after session).Whole := by
  cases move with
  | call step => exact whole.call known
  | attach name source options =>
      rw [Move.after, Move.run, outcome_attach]
      split
      · exact whole
      · next target bound =>
          have within := whole.roots bound
          exact whole.bind within
  | attachSchema name schema options =>
      obtain ⟨placed, within⟩ := whole.change (Change.stays_place schema)
      rw [outcome_change, Change.outcome_place] at placed within
      rw [after_attachSchema]
      exact placed.bind (within _ rfl)
  | validate use name value =>
      rcases after_validate use name value session with same | ⟨target, schema, bound, same⟩ <;> rw [same]
      · exact whole
      · have within := whole.roots bound
        refine whole.bind ?_
        cases use <;> exact within
  | meanwhile environment files => exact ⟨whole.closed, whole.roots⟩

/-- Sessions that moves lead to are whole. -/
theorem Played.whole (played : session.Played) : session.Whole := by
  induction played with
  | start environment files => exact whole_start environment files
  | move move known _ whole => exact whole.move known

end SchemaAlgebra.Session
