import SchemaAlgebra.Proofs.Builder.Wrapping
import SchemaAlgebra.Proofs.Session.History

/-!
What the schemas of builders require. If every document that is wrapped requires only what it declares, then so does the
schema of every builder, in every session that calls lead to, whether these succeed or are refused.
-/

namespace SchemaAlgebra.Session

/-- The documents that a call wraps require what they declare, and the names in an edit are texts. -/
def Call.Sound (session : Session) : Call → Prop
  | .wrap _ schema _ => Walk.Consistent schema
  | .wrapInlined _ schema _ base =>
      ∀ inlined, ((Inline.inline (.ofFiles session.files) base schema).run.run []).1 = .ok inlined → Walk.Consistent inlined
  | .edit _ change => change.Named
  | .make _ _ | .clone _ _ _ => True

/-- A builder that does not give what it is asked for has refused it. -/
def Answers (result : Except Error Unit) : Prop :=
  ∀ failure, result = .error (.builder failure) → ∃ refusal, failure = .refused refusal

/-- The sessions that sound calls lead to, whether these succeed or are refused. -/
inductive Sound : Session → Prop
  | start (environment : Fields String String) (files : Files) : Sound (.start environment files)
  | meanwhile {session : Session} (environment : Fields String String) (files : Files)
      (sound : Sound session) : Sound { session with environment := environment, files := files }
  | call {session : Session} (call : Call) (known : ∀ operand ∈ call.schemas, session.Has operand)
      (soundCall : call.Sound session) (answers : Answers (outcome call.run session).1) (sound : Sound session) :
      Sound (outcome call.run session).2

/-- The store is in order, and what builders are bound to is a schema. -/
structure Orderly (session : Session) (duties : Nat → Duty) : Prop where
  store : session.store.Orderly duties
  roots : ∀ {name address}, session.operand? name = some (.builder address) → duties address = .schema

variable {session : Session} {duties duties' : Nat → Duty}

theorem Sound.reached (sound : session.Sound) : session.Reached := by
  induction sound with
  | start environment files => exact .start environment files
  | meanwhile environment files _ reached => exact reached.meanwhile environment files
  | call call known _ _ _ reached => exact reached.call call known

theorem orderly_start (environment : Fields String String) (files : Files) :
    (start environment files).Orderly fun _ => .data where
  store :=
    { closed := Store.closed_empty
      inside := fun other => absurd rfl other
      serves := fun _ => trivial }
  roots := fun bound => by simp [start, operand?] at bound

namespace Orderly

theorem progress {later : Store} (orderly : session.Orderly duties)
    (progress : session.store.Progress duties later duties') : Orderly { session with store := later } duties' where
  store := progress.orderly
  roots := fun bound => progress.duty orderly.store (by simp) (orderly.roots bound)

theorem bind (orderly : session.Orderly duties) {address : Nat} (schema : duties address = .schema) (name : String)
    (options : Options) : Orderly
      { session with targets := session.targets.put name ⟨.builder, .node address, options, none, none⟩ } duties := by
  refine ⟨orderly.store, fun {other root} bound => ?_⟩
  obtain ⟨target, found, kind, same⟩ := operand?_eq_builder.mp bound
  rw [Fields.get?_put] at found
  split at found
  · obtain rfl := Option.some.inj found
    obtain rfl := Slot.node.inj same
    exact schema
  · exact orderly.roots (operand?_eq_builder.mpr ⟨target, found, kind, same⟩)

theorem schematic {operand : Operand} (orderly : session.Orderly duties) (has : session.Has operand) :
    operand.Schematic duties := by
  intro address same
  obtain ⟨name, bound⟩ := has address same
  exact orderly.roots bound

/-- What makes a schema and binds a name to it keeps a session in order. -/
theorem bindNew {change : Change Nat} (orderly : session.Orderly duties) (name : String) (overrides : Json)
    (makes : ∀ {result later}, outcome change session.store = (result, later) →
      ∃ duties', session.store.Progress duties later duties' ∧ ∀ root, result = .ok root → duties' root = .schema) :
    ∃ duties', (outcome (do
      let address ← Session.change change
      bindBuilder name address (← resolveOptions overrides)) session).2.Orderly duties' := by
  rcases ran : outcome change session.store with ⟨failure | root, later⟩
  all_goals obtain ⟨duties', progress, schema⟩ := makes ran
  all_goals have after := orderly.progress progress
  all_goals have changed := outcome_change change session
  all_goals rw [ran] at changed
  · rw [outcome_bind_error changed]
    exact ⟨duties', after⟩
  · rw [outcome_bind_ok changed, outcome_bind]
    have same := still_resolveOptions overrides { session with store := later }
    rcases resolved : outcome (resolveOptions overrides) { session with store := later } with ⟨failure | options, last⟩
    · rw [resolved] at same
      exact ⟨duties', same ▸ after⟩
    · rw [resolved] at same
      obtain rfl : last = { session with store := later } := same
      exact ⟨duties', after.bind (schema root rfl) name options⟩

theorem wrap {schema : Json} (orderly : session.Orderly duties) (consistent : Walk.Consistent schema) (name : String)
    (overrides : Json) : ∃ duties', (outcome (Session.wrap name schema overrides) session).2.Orderly duties' :=
  orderly.bindNew name overrides fun ran => Builder.wrap_progress consistent orderly.store ran

theorem wrapInlined {schema : Json} {base : String} (orderly : session.Orderly duties)
    (consistent : ∀ inlined, ((Inline.inline (.ofFiles session.files) base schema).run.run []).1 = .ok inlined →
      Walk.Consistent inlined) (name : String) (overrides : Json) :
    ∃ duties', (outcome (Session.wrapInlined name schema overrides base) session).2.Orderly duties' := by
  rw [Session.wrapInlined, outcome_bind_ok (outcome_get session)]
  rcases ran : (Inline.inline (.ofFiles session.files) base schema).run.run [] with ⟨failure | inlined, asked⟩
  · simp only [ran]
    exact ⟨duties, orderly⟩
  · simp only [ran]
    exact orderly.wrap (consistent inlined (by rw [ran])) name overrides

theorem make {factory : Factory} (orderly : session.Orderly duties)
    (known : ∀ operand ∈ factory.schemas, session.Has operand) (name : String) :
    ∃ duties', (outcome (Session.make name factory) session).2.Orderly duties' :=
  orderly.bindNew name .null fun ran =>
    Builder.made_progress orderly.store (fun operand listed => orderly.schematic (known operand listed)) ran

theorem clone (orderly : session.Orderly duties) (source name : String) (metadata : Operand) :
    ∃ duties', (outcome (Session.clone source name metadata) session).2.Orderly duties' := by
  rw [Session.clone]
  rcases builder_cases source session with ⟨target, address, found, bound⟩ | ⟨error, found, -⟩
  · have schema := orderly.roots (operand?_eq_builder.mpr ⟨target, bound⟩)
    rw [outcome_bind_ok found]
    rcases ran : outcome (Builder.clone address metadata) session.store with ⟨failure | root, later⟩
    all_goals obtain ⟨duties', progress, schema'⟩ := Builder.clone_progress orderly.store schema ran
    all_goals have changed := outcome_change (Builder.clone address metadata) session
    all_goals rw [ran] at changed
    all_goals have after := orderly.progress progress
    · refine ⟨duties', ?_⟩
      dsimp only
      rw [outcome_bind_error changed]
      exact after
    · refine ⟨duties', ?_⟩
      dsimp only
      rw [outcome_bind_ok changed]
      exact after.bind (schema' root rfl) name target.options
  · rw [outcome_bind_error found]
    exact ⟨duties, orderly⟩

theorem edit {edit : Edit} {name : String} (orderly : session.Orderly duties)
    (known : ∀ operand ∈ edit.schemas, session.Has operand) (named : edit.Named)
    (answers : Answers (outcome (Session.edit name edit) session).1) :
    ∃ duties', (outcome (Session.edit name edit) session).2.Orderly duties' := by
  rw [Session.edit] at answers ⊢
  rcases builder_cases name session with ⟨target, address, found, bound⟩ | ⟨error, found, -⟩
  · have schema := orderly.roots (operand?_eq_builder.mpr ⟨target, bound⟩)
    have given : ∀ operand ∈ edit.schemas, operand.Schematic duties := fun operand listed =>
      orderly.schematic (known operand listed)
    rw [outcome_bind_ok found] at answers ⊢
    dsimp only at answers ⊢
    rw [outcome_change] at answers ⊢
    rcases ran : outcome (edit.run address) session.store with ⟨failure | ⟨⟩, later⟩
    · simp only [ran] at answers
      obtain ⟨refusal, rfl⟩ := answers failure rfl
      obtain ⟨duties', progress⟩ := Edit.progress_of_refused orderly.store schema named given ran
      exact ⟨duties', orderly.progress progress⟩
    · obtain ⟨duties', progress⟩ := Edit.progress_of_ok orderly.store schema named given ran
      exact ⟨duties', orderly.progress progress⟩
  · rw [outcome_bind_error found]
    exact ⟨duties, orderly⟩

end Orderly

/-- Sessions that sound calls lead to are in order. -/
theorem Sound.orderly (sound : session.Sound) : ∃ duties, session.Orderly duties := by
  induction sound with
  | start environment files => exact ⟨_, orderly_start environment files⟩
  | meanwhile environment files _ ih =>
      obtain ⟨duties, orderly⟩ := ih
      exact ⟨duties, orderly.store, orderly.roots⟩
  | call call known soundCall answers _ ih =>
      obtain ⟨duties, orderly⟩ := ih
      cases call with
      | wrap name schema overrides => exact orderly.wrap soundCall name overrides
      | wrapInlined name schema overrides base => exact orderly.wrapInlined soundCall name overrides
      | make name factory => exact orderly.make known name
      | clone source name metadata => exact orderly.clone source name metadata
      | edit name edit => exact orderly.edit known soundCall answers

/-- In every session that sound calls lead to, whatever a walk visits from the schema of a builder requires different
names of its properties. -/
theorem Sound.requires_declared {name : String} {root node : Nat} (sound : session.Sound)
    (bound : session.operand? name = some (.builder root)) (visited : session.store.Visits .schema (.node root) node) :
    (session.store.cell node).RequiresDeclared session.store := by
  obtain ⟨duties, orderly⟩ := sound.orderly
  have schematic := Slot.schematic_node.mpr (orderly.roots bound)
  exact (orderly.store.schema (orderly.store.visits (schematic.fills (by simp)) visited)).requires

/-- A document that requires its one property. -/
def requiringDocument : Json :=
  .object [("type", .string "object"), ("properties", .object [("a", .object [("type", .string "string")])]),
    ("required", .array [.string "a"])]

theorem consistent_requiringDocument : Walk.Consistent requiringDocument where
  wellFormed := by decide
  isSchema := by decide
  requires := by
    intro fields seen value found
    have visited : (Walk.visit none requiringDocument).seen =
        [requiringDocument, .object [("type", .string "string")]] := rfl
    rw [visited] at seen
    rcases List.mem_cons.mp seen with same | seen
    · obtain rfl := Json.object.inj same
      obtain rfl := Option.some.inj found
      exact ⟨["a"], rfl, by decide, fun name listed => ⟨_, rfl, by obtain rfl := List.mem_singleton.mp listed; rfl⟩⟩
    · obtain rfl := Json.object.inj (List.mem_singleton.mp seen)
      cases found

theorem answers_of_ok {result : Except Error Unit} (ok : result = .ok ()) : Answers result :=
  fun _ failed => by cases ok.symm.trans failed

/-- A wrapped document gets a second property, which it is refused when it has it. -/
theorem extended_requires_declared :
    ∃ (session : Session) (root : Nat), session.Sound ∧ session.operand? "a" = some (.builder root) ∧
      Fields.get? (session.store.cell root) "required" = some (.array [.string "a", .string "b"]) ∧
      (session.store.cell root).RequiresDeclared session.store := by
  have known (session : Session) (same : session.operand? "b" = some (.builder 3)) :
      ∀ operand ∈ [Operand.builder 3], session.Has operand := by
    intro operand listed address built
    obtain rfl := List.mem_singleton.mp listed
    obtain rfl := Operand.builder.inj built
    exact ⟨"b", same⟩
  have wrapped := Sound.call (.wrap "a" requiringDocument .null) (has_of_nil rfl) consistent_requiringDocument
    (answers_of_ok rfl) (.start [] .empty)
  have made := Sound.call (.make "b" (.scalar .string (.value .null))) (has_of_nil rfl) trivial (answers_of_ok rfl) wrapped
  have added := Sound.call (.edit "a" (.add true (.string "b") (.builder 3))) (known _ rfl) ⟨"b", rfl⟩ (answers_of_ok rfl) made
  have refused := Sound.call (.edit "a" (.add true (.string "b") (.builder 3))) (known _ rfl) ⟨"b", rfl⟩
    (fun _ failed => by cases failed; exact ⟨_, rfl⟩) added
  obtain ⟨session, sound, bound, required⟩ : ∃ session : Session, session.Sound ∧
      session.operand? "a" = some (.builder 2) ∧
        Fields.get? (session.store.cell 2) "required" = some (.array [.string "a", .string "b"]) :=
    ⟨_, refused, rfl, rfl⟩
  exact ⟨session, 2, sound, bound, required, sound.requires_declared bound (.here rfl)⟩

end SchemaAlgebra.Session
