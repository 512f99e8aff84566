import SchemaAlgebra.Proofs.Builder.Closing
import SchemaAlgebra.Proofs.Builder.Steps
import SchemaAlgebra.Session.Build

/-!
The steps of a session, each by what it gives. A change of the store is the same change in a session; the
rest of the session stays.
-/

namespace SchemaAlgebra.Session

variable {α : Type}

theorem outcome_change (change : Change α) (session : Session) :
    outcome (Session.change change) session =
      match outcome change session.store with
      | (.ok value, store) => (.ok value, { session with store := store })
      | (.error failure, store) => (.error (.builder failure), { session with store := store }) := by
  rw [Session.change, outcome_bind_ok (outcome_get session)]
  simp only [outcome]
  rcases change.run.run session.store with ⟨failure | value, store⟩ <;> rfl

@[simp] theorem outcome_bindBuilder (name : String) (address : Nat) (options : Options) (session : Session) :
    outcome (bindBuilder name address options) session =
      (.ok (), { session with
        targets := session.targets.put name ⟨.builder, .node address, options, none, none⟩ }) :=
  rfl

theorem outcome_resolveOptions (overrides : Json) (session : Session) :
    outcome (resolveOptions overrides) session =
      match Options.resolve session.environment overrides .null with
      | .ok options => (.ok options, session)
      | .error error => (.error (.options error), session) := by
  rw [resolveOptions, outcome_bind_ok (outcome_get session)]
  cases Options.resolve session.environment overrides .null <;> rfl

theorem outcome_builder (name : String) (session : Session) :
    outcome (builder name) session =
      match session.targets.get? name with
      | none => (.error .unbound, session)
      | some target =>
          match target.kind, target.root with
          | .builder, .node address => (.ok (target, address), session)
          | _, _ => (.error .noSuchOperation, session) := by
  rw [builder, target, outcome_bind, outcome_bind_ok (outcome_get session)]
  cases session.targets.get? name with
  | none => rfl
  | some target =>
      rcases target with ⟨kind, root, _⟩
      cases kind <;> cases root <;> rfl

end SchemaAlgebra.Session

/-!
The histories of sessions. Calls make builders, clone and edit them, and succeed or fail; the builders that
a call is given are builders of the session. In every session that calls lead to, the store is closed and
holds the schema of every builder.
-/

namespace SchemaAlgebra.Session

open Change

/-- A call that binds a name to a new builder, or edits a builder. -/
inductive Call
  | wrap (name : String) (schema overrides : Json)
  | wrapInlined (name : String) (schema overrides : Json) (base : String)
  | make (name : String) (factory : Factory)
  | clone (source name : String) (metadata : Operand)
  | edit (name : String) (edit : Edit)

/-- Carry out a call. -/
def Call.run : Call → Act Unit
  | .wrap name schema overrides => Session.wrap name schema overrides
  | .wrapInlined name schema overrides base => Session.wrapInlined name schema overrides base
  | .make name factory => Session.make name factory
  | .clone source name metadata => Session.clone source name metadata
  | .edit name change => Session.edit name change

/-- The arguments of a call that may be builders. -/
def Call.schemas : Call → List Operand
  | .make _ factory => factory.schemas
  | .edit _ change => change.schemas
  | .wrap _ _ _ | .wrapInlined _ _ _ _ | .clone _ _ _ => []

/-- If an argument is a builder, a name of the session is bound to it. -/
def Has (session : Session) (operand : Operand) : Prop :=
  ∀ address, operand = .builder address → ∃ name, session.operand? name = some (.builder address)

/-- The sessions that calls lead to, whether these succeed or fail. Between two calls the files and the
environment may change. -/
inductive Reached : Session → Prop
  | start (environment : Fields String String) (files : Files) : Reached (.start environment files)
  | meanwhile {session : Session} (environment : Fields String String) (files : Files)
      (reached : Reached session) : Reached { session with environment := environment, files := files }
  | call {session : Session} (call : Call) (known : ∀ operand ∈ call.schemas, session.Has operand)
      (reached : Reached session) : Reached (outcome call.run session).2

/-- The store is closed and holds all that names are bound to. -/
structure Whole (session : Session) : Prop where
  closed : session.store.Closed
  roots : ∀ {name target}, session.targets.get? name = some target → target.root.Within session.store.size

variable {α : Type} {session : Session}

theorem has_of_nil {operands : List Operand} (none : operands = []) : ∀ operand ∈ operands, session.Has operand :=
  fun _ listed => absurd (none ▸ listed) List.not_mem_nil

theorem whole_start (environment : Fields String String) (files : Files) :
    (start environment files).Whole :=
  ⟨Store.closed_empty, fun bound => by simp [start] at bound⟩

theorem operand?_eq_builder {name : String} {address : Nat} :
    session.operand? name = some (.builder address) ↔
      ∃ target, session.targets.get? name = some target ∧ target.kind = .builder ∧
        target.root = .node address := by
  rw [operand?, Option.map_eq_some_iff]
  refine exists_congr fun target => and_congr_right fun _ => ?_
  rcases target with ⟨kind, root, _⟩
  cases kind <;> cases root <;> simp

theorem Whole.inside {name : String} {address : Nat} (whole : session.Whole)
    (bound : session.operand? name = some (.builder address)) : address < session.store.size := by
  obtain ⟨target, found, -, root⟩ := operand?_eq_builder.mp bound
  have within := whole.roots found
  rwa [root, Slot.within_node] at within

theorem Whole.known {operand : Operand} (whole : session.Whole) (has : session.Has operand) :
    Builder.Known session.store.size operand := by
  intro address same
  obtain ⟨name, bound⟩ := has address same
  exact whole.inside bound

theorem Whole.bind {name : String} {target : Target} (whole : session.Whole)
    (within : target.root.Within session.store.size) :
    Whole { session with targets := session.targets.put name target } := by
  refine ⟨whole.closed, fun {other found} bound => ?_⟩
  rw [Fields.get?_put] at bound
  split at bound
  · obtain rfl := Option.some.inj bound
    exact within
  · exact whole.roots bound

/-- A change of the store that keeps it closed keeps a session whole. -/
theorem Whole.change {change : Change α} {fits : Nat → α → Prop} (whole : session.Whole)
    (stays : Stays session.store.size change fits) :
    (outcome (Session.change change) session).2.Whole ∧
      ∀ a, (outcome (Session.change change) session).1 = .ok a →
        fits (outcome (Session.change change) session).2.store.size a := by
  obtain ⟨closed, size, fit⟩ := stays session.store whole.closed (Nat.le_refl _)
  rw [outcome_change]
  rcases ran : outcome change session.store with ⟨failure | a, later⟩ <;> rw [ran] at closed size fit
  · exact ⟨⟨closed, fun bound => (whole.roots bound).mono size⟩, fun _ given => by simp at given⟩
  · refine ⟨⟨closed, fun bound => (whole.roots bound).mono size⟩, fun b given => ?_⟩
    obtain rfl := Except.ok.inj given
    exact fit a rfl

theorem still_resolveOptions (overrides : Json) (session : Session) :
    (outcome (resolveOptions overrides) session).2 = session := by
  rw [outcome_resolveOptions]
  split <;> rfl

/-- What makes a new object and binds a name to it keeps a session whole. -/
theorem Whole.bindNew {change : Change Nat} (whole : session.Whole) (name : String) (overrides : Json)
    (stays : Stays session.store.size change fun size root => root < size) :
    (outcome (do
      let address ← Session.change change
      bindBuilder name address (← resolveOptions overrides)) session).2.Whole := by
  obtain ⟨whole', fit⟩ := whole.change stays
  rw [outcome_bind]
  rcases ran : outcome (Session.change change) session with ⟨failure | address, later⟩
  · rwa [ran] at whole'
  · rw [ran] at whole' fit
    have same := still_resolveOptions overrides later
    simp only
    rw [outcome_bind]
    rcases resolved : outcome (resolveOptions overrides) later with ⟨failure | options, last⟩
    · rw [resolved] at same
      exact same ▸ whole'
    · rw [resolved] at same
      simp only at same
      subst same
      exact whole'.bind (Slot.within_node.mpr (fit address rfl))

theorem Whole.wrap (whole : session.Whole) (name : String) (schema overrides : Json) :
    (outcome (Session.wrap name schema overrides) session).2.Whole :=
  whole.bindNew name overrides (Builder.stays_wrap schema)

theorem Whole.wrapInlined (whole : session.Whole) (name : String) (schema overrides : Json) (base : String) :
    (outcome (Session.wrapInlined name schema overrides base) session).2.Whole := by
  rw [Session.wrapInlined, outcome_bind_ok (outcome_get session)]
  rcases ran : (Inline.inline (.ofFiles session.files) base schema).run.run [] with ⟨failure | inlined, asked⟩
  · simp only [ran]
    exact whole
  · simp only [ran]
    exact whole.wrap name inlined overrides

theorem Whole.make (whole : session.Whole) (name : String) {factory : Factory}
    (known : ∀ operand ∈ factory.schemas, session.Has operand) :
    (outcome (Session.make name factory) session).2.Whole :=
  whole.bindNew name .null (Builder.stays_factory fun operand member => whole.known (known operand member))

/-- The builder that a name is bound to, if it is, is found without any change. -/
theorem builder_cases (name : String) (session : Session) :
    (∃ target address, outcome (builder name) session = (.ok (target, address), session) ∧
      session.targets.get? name = some target ∧ target.kind = .builder ∧ target.root = .node address) ∨
    ∃ error, outcome (builder name) session = (.error error, session) ∧ ∀ failure, error ≠ .builder failure := by
  rw [outcome_builder]
  split
  · exact .inr ⟨_, rfl, fun _ same => by cases same⟩
  · next target found =>
      split
      · next address kind root => exact .inl ⟨target, address, rfl, found, kind, root⟩
      · exact .inr ⟨_, rfl, fun _ same => by cases same⟩

theorem Whole.clone (whole : session.Whole) (source name : String) (metadata : Operand) :
    (outcome (Session.clone source name metadata) session).2.Whole := by
  rw [Session.clone]
  rcases builder_cases source session with ⟨target, address, ran, bound⟩ | ⟨error, ran, -⟩
  · have inside := whole.inside (operand?_eq_builder.mpr ⟨target, bound⟩)
    obtain ⟨whole', fit⟩ := whole.change (Builder.stays_clone inside metadata)
    rw [outcome_bind_ok ran]
    simp only
    rw [outcome_bind]
    rcases ran' : outcome (Session.change (Builder.clone address metadata)) session with ⟨failure | copy, later⟩
    · rwa [ran'] at whole'
    · rw [ran'] at whole' fit
      exact whole'.bind (Slot.within_node.mpr (fit copy rfl))
  · rw [outcome_bind_error ran]
    exact whole

theorem Whole.edit (whole : session.Whole) (name : String) {edit : Edit}
    (known : ∀ operand ∈ edit.schemas, session.Has operand) :
    (outcome (Session.edit name edit) session).2.Whole := by
  rw [Session.edit]
  rcases builder_cases name session with ⟨target, address, ran, -⟩ | ⟨error, ran, -⟩
  · rw [outcome_bind_ok ran]
    have stays := Builder.stays_edit address fun operand member => whole.known (known operand member)
    exact (whole.change stays).1
  · rw [outcome_bind_error ran]
    exact whole

theorem Whole.call {call : Call} (whole : session.Whole) (known : ∀ operand ∈ call.schemas, session.Has operand) :
    (outcome call.run session).2.Whole := by
  cases call with
  | wrap name schema overrides => exact whole.wrap name schema overrides
  | wrapInlined name schema overrides base => exact whole.wrapInlined name schema overrides base
  | make name factory => exact whole.make name known
  | clone source name metadata => exact whole.clone source name metadata
  | edit name edit => exact whole.edit name known

/-- Sessions that calls lead to are whole. -/
theorem Reached.whole (reached : session.Reached) : session.Whole := by
  induction reached with
  | start environment files => exact whole_start environment files
  | meanwhile environment files _ whole => exact ⟨whole.closed, whole.roots⟩
  | call call known _ whole => exact whole.call known

end SchemaAlgebra.Session
