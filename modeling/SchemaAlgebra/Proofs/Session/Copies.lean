import SchemaAlgebra.Proofs.Builder.Separation
import SchemaAlgebra.Proofs.Session.Arrangement

/-!
Copies. From a clone nothing can be reached that can be reached from a builder that was there before, and this
stays so: whatever happens to those does not change the clone, and what happens to the clone does not change them.
An edit takes in only what it shares; whatever else it makes the schema hold is new, and found only by way of this
schema.
-/

namespace SchemaAlgebra.Session

open Change

variable {clean : Prop} {session later : Session} {standings : Nat → Standing} {kept : Nat → Prop}

/-- Sessions that calls lead to are arranged. -/
theorem Reached.arranged (reached : session.Reached) : ∃ standings, session.Arranged False standings := by
  induction reached with
  | start environment files => exact ⟨_, arranged_start environment files⟩
  | meanwhile environment files _ ih =>
      obtain ⟨standings, arranged⟩ := ih
      exact ⟨standings, arranged.store, arranged.roots⟩
  | call call known _ ih =>
      obtain ⟨standings, arranged⟩ := ih
      exact arranged.call known call.suits

theorem store_bindNew (change : Change Nat) (name : String) (overrides : Json) (session : Session) :
    (outcome (do
      let address ← Session.change change
      bindBuilder name address (← resolveOptions overrides)) session).2.store =
        (outcome change session.store).2 := by
  have changed := outcome_change change session
  rcases ran : outcome change session.store with ⟨failure | root, later⟩ <;> rw [ran] at changed
  · rw [outcome_bind_error changed]
  · rw [outcome_bind_ok changed, outcome_bind]
    have same := still_resolveOptions overrides { session with store := later }
    rcases resolved : outcome (resolveOptions overrides) { session with store := later } with ⟨failure | options,
      last⟩ <;>
      rw [resolved] at same <;> obtain rfl : last = { session with store := later } := same <;> rfl

theorem outcome_builder_of_bound {name : String} {root : Nat}
    (bound : session.operand? name = some (.builder root)) :
    ∃ target, outcome (builder name) session = (.ok (target, root), session) := by
  obtain ⟨target, found, kind, same⟩ := operand?_eq_builder.mp bound
  refine ⟨target, ?_⟩
  rw [outcome_builder, found]
  simp only [kind, same]

/-- An edit changes the store only. -/
theorem after_edit {name : String} {root : Nat} (edit : Edit)
    (bound : session.operand? name = some (.builder root)) :
    (outcome (Session.edit name edit) session).2 =
    { session with store := (outcome (edit.run root) session.store).2 } := by
  obtain ⟨target, found⟩ := outcome_builder_of_bound bound
  rw [Session.edit, outcome_bind_ok found]
  dsimp only
  rw [outcome_change]
  split <;> simp_all

theorem extends_wrap (arranged : session.Arranged clean standings) (name : String) (document overrides : Json) :
    session.store.Extends (outcome (Session.wrap name document overrides) session).2.store := by
  rw [Session.wrap, store_bindNew]
  cases isObject : document.isObject with
  | false =>
      rw [Builder.wrap, isObject, if_neg Bool.false_ne_true, Change.outcome_refuse]
      exact .refl _
  | true =>
      obtain ⟨address, -, wrapped⟩ := Builder.outcome_wrap arranged.store.closed isObject
      rw [wrapped]
      split <;> exact document.place_extends _

/-- A clone leaves all objects as they are, and binds its name to one from which none of them can be reached. -/
theorem clone_apart {source name : String} {metadata : Operand} {result : Except Error Unit}
    (arranged : session.Arranged clean standings)
    (ran : outcome (Session.clone source name metadata) session = (result, later)) :
    session.store.Extends later.store ∧ (result = .ok () → ∃ copy, later.operand? name = some (.builder copy) ∧
      later.store.Apart (fun address => address < session.store.size) (.node copy)) := by
  rw [Session.clone] at ran
  rcases builder_cases source session with ⟨target, address, found, bound⟩ | ⟨error, found, other⟩
  · rw [outcome_bind_ok found] at ran
    dsimp only at ran
    have schema := arranged.roots (operand?_eq_builder.mpr ⟨target, bound⟩)
    have changed := outcome_change (Builder.clone address metadata) session
    rcases cloned : outcome (Builder.clone address metadata) session.store with ⟨failure | copy, store⟩ <;>
      rw [cloned] at changed <;> obtain ⟨extends', apart⟩ := Builder.clone_apart arranged.store schema cloned
    · rw [outcome_bind_error changed] at ran
      obtain ⟨rfl, rfl⟩ := Prod.mk.inj ran
      exact ⟨extends', fun given => by cases given⟩
    · rw [outcome_bind_ok changed] at ran
      obtain ⟨rfl, rfl⟩ := Prod.mk.inj ran
      refine ⟨extends', fun _ => ⟨copy, ?_, apart copy rfl⟩⟩
      exact operand?_eq_builder.mpr ⟨_, Fields.get?_put_self .., rfl, rfl⟩
  · rw [outcome_bind_error found] at ran
    obtain ⟨rfl, rfl⟩ := Prod.mk.inj ran
    exact ⟨.refl _, fun given => by cases given⟩

/-- A call that is no edit leaves all objects as they are. -/
theorem Call.extends' {call : Call} (arranged : session.Arranged clean standings)
    (noEdit : ∀ name edit, call ≠ .edit name edit) :
    session.store.Extends (outcome call.run session).2.store := by
  cases call with
  | wrap name document overrides => exact extends_wrap arranged name document overrides
  | wrapInlined name schema overrides base =>
      rw [Call.run, Session.wrapInlined, outcome_bind_ok (outcome_get session)]
      rcases ran : (Inline.inline (.ofFiles session.files) base schema).run.run [] with ⟨failure | inlined, asked⟩
      · simp only [ran]
        exact .refl _
      · simp only [ran]
        exact extends_wrap arranged name inlined overrides
  | make name factory =>
      rw [Call.run, Session.make, store_bindNew]
      exact Builder.adds_factory factory _
  | clone source name metadata => exact (clone_apart arranged rfl).1
  | edit name edit => exact absurd rfl (noEdit name edit)

/-- What follows on a session: calls that make builders, and edits of those builders that may be edited, with
arguments that they may be given then. -/
inductive Follows (may : Session → Nat → Edit → Prop) (session : Session) : Session → Prop
  | refl : Follows may session session
  | meanwhile {later : Session} (environment : Fields String String) (files : Files)
      (follows : Follows may session later) :
      Follows may session { later with environment := environment, files := files }
  | call {later : Session} (call : Call) (noEdit : ∀ name edit, call ≠ .edit name edit)
      (known : ∀ operand ∈ call.schemas, later.Has operand) (follows : Follows may session later) :
      Follows may session (outcome call.run later).2
  | edit {later : Session} {name : String} {root : Nat} (edit : Edit)
      (bound : later.operand? name = some (.builder root))
      (known : ∀ operand ∈ edit.schemas, later.Has operand) (allowed : may later root edit)
      (follows : Follows may session later) : Follows may session (outcome (Session.edit name edit) later).2

variable {may : Session → Nat → Edit → Prop}

theorem Follows.reached (reached : session.Reached) (follows : Follows may session later) : later.Reached := by
  induction follows with
  | refl => exact reached
  | meanwhile environment files _ ih => exact ih.meanwhile environment files
  | call call _ known _ ih => exact ih.call call known
  | @edit _ name root edit _ known _ _ ih => exact ih.call (.edit name edit) known

/-- If all that is at hand of every edit is apart from what is kept, then this is kept. -/
theorem Follows.keeps (reached : session.Reached) (inside : ∀ address, kept address → address < session.store.size)
    (apart : ∀ {now root edit}, Store.Keeps kept session.store now.store → may now root edit →
      ∀ held ∈ edit.hand root, now.store.Apart kept held.2)
    (follows : Follows may session later) : Store.Keeps kept session.store later.store := by
  induction follows with
  | refl => exact .refl
  | meanwhile environment files _ ih => exact ih
  | @call now call noEdit _ follows ih =>
      obtain ⟨standings, arranged⟩ := (follows.reached reached).arranged
      exact ih.trans ((call.extends' arranged noEdit).keeps arranged.store.closed
        fun address same => Nat.lt_of_lt_of_le (inside address same) ih.size)
  | @edit now name root edit bound known allowed follows ih =>
      have reached := follows.reached reached
      obtain ⟨standings, arranged⟩ := reached.arranged
      obtain ⟨stands, lends⟩ := arranged.hand bound known
      rw [after_edit edit bound]
      exact ih.trans ((Builder.goesFrom_edit edit root _).keeps arranged.store stands lends
        (fun address same => Nat.lt_of_lt_of_le (inside address same) ih.size)
        (apart ih allowed) rfl).1

end SchemaAlgebra.Session
