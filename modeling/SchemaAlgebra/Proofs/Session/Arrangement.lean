import SchemaAlgebra.Proofs.Builder.Arrangement
import SchemaAlgebra.Proofs.Schema.Requirements
import SchemaAlgebra.Proofs.Session.History

/-!
Arranged sessions: the store is arranged, and what builders are bound to is a schema. Every call keeps a session
arranged, whether it succeeds or fails, if the documents that it wraps may stand for schemas. Any document may,
unless the store is to hold no reference in a schema; then one may that passes the metaschema.
-/

namespace SchemaAlgebra

open Change Metaschema Walk

variable {clean : Prop}

/-- A value that passes as what a role holds, and in which no node has a key twice or a reference, may stand for what
serves the role. -/
theorem Json.suits_of_passes (value : Json) : ∀ (role : Role) (standing : Standing), PassesAs role value →
    (∀ node, IsNode role value node → (Fields.keys node).Nodup ∧ Fields.has node "$ref" = false) →
      standing.Serves role → value.Suits clean standing := by
  induction value using Json.treeInduction with
  | array items ih =>
      intro role standing passes nodes serves
      obtain ⟨isList, each⟩ := passes.array
      obtain rfl := serves.eq_schema (by rintro rfl; simp [Role.isList] at isList)
      exact .array fun item listed => ih item listed .schema .schema (each item listed)
        (fun node isNode => nodes node (.item isList listed isNode)) rfl
  | object fields ih =>
      intro role standing passes nodes serves
      rcases passes.object with ⟨isNode, passes⟩ | ⟨rfl, members⟩
      · obtain rfl := serves.eq_schema (by rintro rfl; simp [Role.isNode] at isNode)
        obtain ⟨distinct, free⟩ := nodes fields (.here isNode)
        refine .object (fun _ _ => free) fun entry listed self => ?_
        by_cases walked : ∃ keyword under, (keyword, under) ∈ keywords ∧ entry.1 = .text keyword
        · obtain ⟨keyword, under, walked, same⟩ := walked
          have found : Fields.get? fields (.text keyword) = some entry.2 := same ▸ Fields.get?_of_mem distinct listed
          rw [same]
          exact ih entry listed under _ (passes.keyword walked found)
            (fun node inside => nodes node (.keyword isNode walked found inside)) (Standing.serves_under self walked)
        · rw [Standing.under_of_unwalked self fun keyword under walked' same =>
            walked ⟨keyword, under, walked', same⟩]
          exact .data
      · obtain ⟨owner, rfl⟩ := serves
        exact .object (fun _ same => by cases same) fun entry listed _ => ih entry listed .schema .schema
          (members entry listed) (fun node inside => nodes node (.member listed inside)) rfl
  | scalar value notArray notObject => exact fun _ _ _ _ _ => .scalar notArray notObject

/-- What is at hand of arguments: the schemas of those that are builders. -/
def Operand.hand (operands : List Operand) : Hand :=
  operands.filterMap fun
    | .builder root => some (.schema, .node root)
    | _ => none

theorem Operand.mem_hand {operands : List Operand} {held : Standing × Slot} :
    held ∈ hand operands ↔ ∃ root, .builder root ∈ operands ∧ held = (.schema, .node root) := by
  rw [hand, List.mem_filterMap]
  constructor
  · rintro ⟨operand, listed, same⟩
    cases operand with
    | builder root => exact ⟨root, listed, (Option.some.inj same).symm⟩
    | _ => cases same
  · rintro ⟨root, listed, rfl⟩
    exact ⟨_, listed, rfl⟩

theorem Operand.given_hand {operands : List Operand} :
    ∀ operand ∈ operands, Builder.Given (hand operands) operand :=
  fun _ listed root same => mem_hand.mpr ⟨root, same ▸ listed, rfl⟩

/-- What is at hand of an edit of the schema at an address: this schema, and the arguments that it takes into it. -/
def Edit.hand (edit : Edit) (address : Nat) : Hand :=
  (.schema, .node address) :: Operand.hand edit.shared

theorem Builder.goesFrom_edit (edit : Edit) (address : Nat) (store : Store) :
    Change.GoesFrom (Operand.hand edit.copied) address ⟨edit.hand address, store⟩
      (edit.run address) Change.nothing :=
  Builder.goes_edit List.mem_cons_self
    (fun operand listed => (Operand.given_hand operand listed).mono (List.subset_cons_self _ _)) Operand.given_hand
      _ store
    fun _ held => held

namespace Session

/-- The store is arranged, and what builders are bound to is a schema. -/
structure Arranged (clean : Prop) (session : Session) (standings : Nat → Standing) : Prop where
  store : session.store.Arranged clean standings
  roots : ∀ {name address}, session.operand? name = some (.builder address) → standings address = .schema

/-- What a document may stand for that becomes the schema of a builder, if it holds no reference. -/
def Wraps (clean : Prop) (document : Json) : Prop :=
  firstReference? document = none → document.Suits clean .schema

/-- The documents that a call wraps may stand for schemas. -/
def Call.Suits (clean : Prop) (session : Session) : Call → Prop
  | .wrap _ document _ => Wraps clean document
  | .wrapInlined _ schema _ base =>
      ∀ inlined, ((Inline.inline (.ofFiles session.files) base schema).run.run []).1 = .ok inlined →
        Wraps clean inlined
  | .make _ _ | .clone _ _ _ | .edit _ _ => True

/-- Whatever is wrapped suits, if references may be in a schema. -/
theorem Call.suits (call : Call) {session : Session} : call.Suits False session := by
  cases call with
  | wrap name document overrides => exact fun _ => Json.suits_of_not not_false document .schema
  | wrapInlined name schema overrides base => exact fun inlined _ _ => Json.suits_of_not not_false inlined .schema
  | _ => exact trivial

/-- A step does not end with the refusal of a reference. -/
def Unreferring (result : Except Error Unit) : Prop :=
  ∀ pointer shown, result ≠ .error (.builder (.refused (.reference pointer shown)))

variable {session : Session} {standings standings' : Nat → Standing}

theorem arranged_start (environment : Fields String String) (files : Files) :
    (start environment files).Arranged clean fun _ => .data where
  store :=
    { closed := Store.closed_empty
      inside := fun other => absurd rfl other
      holds := fun _ _ listed => absurd listed (by simp [start, Store.cell, Store.empty])
      free := fun _ _ schema => by cases schema }
  roots := fun bound => by simp [start, operand?] at bound

namespace Arranged

theorem advance {later : Store} (arranged : session.Arranged clean standings)
    (arranged' : later.Arranged clean standings')
    (advances : session.store.Advances standings later standings') :
    Arranged clean { session with store := later } standings' where
  store := arranged'
  roots := fun bound => by
    have schema := arranged.roots bound
    rw [advances.same _ (arranged.store.inside (by simp [schema]))]
    exact schema

/-- A session stays arranged if a name is bound to what is no builder, or to one of a schema. -/
theorem put (arranged : session.Arranged clean standings) (name : String) {target : Target}
    (schema : ∀ {address}, target.kind = .builder → target.root = .node address → standings address = .schema) :
    Arranged clean { session with targets := session.targets.put name target } standings := by
  refine ⟨arranged.store, fun bound => ?_⟩
  obtain ⟨found, there, kind, root⟩ := operand?_eq_builder.mp bound
  rw [Fields.get?_put] at there
  split at there
  · obtain rfl := Option.some.inj there
    exact schema kind root
  · exact arranged.roots (operand?_eq_builder.mpr ⟨found, there, kind, root⟩)

theorem bind (arranged : session.Arranged clean standings) {address : Nat} (schema : standings address = .schema)
    (name : String) (options : Options) : Arranged clean
      { session with targets := session.targets.put name ⟨.builder, .node address, options, none, none⟩ }
        standings :=
  arranged.put name fun _ same => Slot.node.inj same ▸ schema

/-- The schema of a builder is at hand as one. -/
theorem root (arranged : session.Arranged clean standings) {name : String} {address : Nat}
    (bound : session.operand? name = some (.builder address)) {held : Standing × Slot}
    (same : held = (.schema, .node address)) :
    held.2.Stands standings held.1 ∧ held.2.Within session.store.size := by
  subst same
  have schema := arranged.roots bound
  exact ⟨schema, Slot.within_node.mpr (arranged.store.inside (by simp [schema]))⟩

/-- The arguments of a call are at hand as schemas. -/
theorem given (arranged : session.Arranged clean standings) {operands : List Operand}
    (known : ∀ operand ∈ operands, session.Has operand) :
    (Operand.hand operands).Stands session.store standings := by
  intro held listed
  obtain ⟨root, among, same⟩ := Operand.mem_hand.mp listed
  obtain ⟨name, bound⟩ := known _ among root rfl
  exact arranged.root bound same

/-- What an edit is about and what it is given are at hand or lent as schemas. -/
theorem hand (arranged : session.Arranged clean standings) {name : String} {address : Nat} {edit : Edit}
    (bound : session.operand? name = some (.builder address))
    (known : ∀ operand ∈ edit.schemas, session.Has operand) :
    (edit.hand address).Stands session.store standings ∧ (Operand.hand edit.copied).Stands session.store standings :=
  ⟨List.forall_mem_cons.mpr ⟨arranged.root bound rfl,
    arranged.given fun operand listed => known operand (Edit.mem_schemas.mpr (.inl listed))⟩,
    arranged.given fun operand listed => known operand (Edit.mem_schemas.mpr (.inr listed))⟩

end Arranged

/-- What makes a schema and binds a name to it keeps a session arranged. -/
theorem arranged_bindNew {change : Change Nat} (name : String) (overrides : Json)
    (makes : ∀ {result later}, outcome change session.store = (result, later) → ∃ standings',
      Arranged clean { session with store := later } standings' ∧ ∀ root, result = .ok root →
        standings' root = .schema) :
    ∃ standings', (outcome (do
      let address ← Session.change change
      bindBuilder name address (← resolveOptions overrides)) session).2.Arranged clean standings' := by
  rcases ran : outcome change session.store with ⟨failure | root, later⟩
  all_goals obtain ⟨standings', after, schema⟩ := makes ran
  all_goals have changed := outcome_change change session
  all_goals rw [ran] at changed
  · rw [outcome_bind_error changed]
    exact ⟨standings', after⟩
  · rw [outcome_bind_ok changed, outcome_bind]
    have same := still_resolveOptions overrides { session with store := later }
    rcases resolved : outcome (resolveOptions overrides) { session with store := later } with ⟨failure | options,
      last⟩
    · rw [resolved] at same
      exact ⟨standings', same ▸ after⟩
    · rw [resolved] at same
      obtain rfl : last = { session with store := later } := same
      exact ⟨standings', after.bind (schema root rfl) name options⟩

namespace Arranged

theorem wrap {document : Json} (arranged : session.Arranged clean standings) (wraps : Wraps clean document)
    (name : String)
    (overrides : Json) : ∃ standings', (outcome (Session.wrap name document overrides) session).2.Arranged clean
      standings' := by
  refine arranged_bindNew name overrides fun {result later} ran => ?_
  cases isObject : document.isObject with
  | false =>
      rw [Builder.wrap, isObject, if_neg Bool.false_ne_true, Change.outcome_refuse] at ran
      obtain ⟨rfl, rfl⟩ := Prod.mk.inj ran
      exact ⟨standings, arranged, fun _ given => by cases given⟩
  | true =>
      obtain ⟨address, placed, wrapped⟩ := Builder.outcome_wrap arranged.store.closed isObject
      rw [wrapped] at ran
      cases found : firstReference? document with
      | none =>
          rw [found] at ran
          obtain ⟨rfl, rfl⟩ := Prod.mk.inj ran
          obtain ⟨standings', arranged', advances, stands⟩ :=
            Json.arranges_of_suits document .schema (wraps found) arranged.store
          refine ⟨standings', arranged.advance arranged' advances, fun root given => ?_⟩
          obtain rfl := Except.ok.inj given
          rwa [placed] at stands
      | some reference =>
          rw [found] at ran
          obtain ⟨rfl, rfl⟩ := Prod.mk.inj ran
          obtain ⟨standings', arranged', advances, -⟩ :=
            Json.arranges_of_suits document .data (.data : document.Suits clean .data) arranged.store
          exact ⟨standings', arranged.advance arranged' advances, fun _ given => by cases given⟩

theorem wrapInlined {schema : Json} {base : String} (arranged : session.Arranged clean standings)
    (wraps : ∀ inlined, ((Inline.inline (.ofFiles session.files) base schema).run.run []).1 = .ok inlined →
      Wraps clean inlined) (name : String) (overrides : Json) :
    ∃ standings', (outcome (Session.wrapInlined name schema overrides base) session).2.Arranged clean
      standings' := by
  rw [Session.wrapInlined, outcome_bind_ok (outcome_get session)]
  rcases ran : (Inline.inline (.ofFiles session.files) base schema).run.run [] with ⟨failure | inlined, asked⟩
  · simp only [ran]
    exact ⟨standings, arranged⟩
  · simp only [ran]
    exact arranged.wrap (wraps inlined (by rw [ran])) name overrides

/-- A change of the store that goes by moves with what is at hand of a session keeps it arranged, and in a clean
store it comes upon no reference. -/
theorem change {α : Type} {change : Change α} {gives : Hand → α → Prop} {lent hand : Hand} {address : Nat}
    {result : Except Failure α} {later : Store} (arranged : session.Arranged clean standings)
    (goes : GoesFrom lent address ⟨hand, session.store⟩ change gives) (stands : hand.Stands session.store standings)
    (lends : lent.Stands session.store standings) (ran : outcome change session.store = (result, later)) :
    ∃ standings' last, Arranged clean { session with store := later } standings' ∧
      Hand.Stands last later standings' ∧
      Ends later last gives result := by
  obtain ⟨standings', last, arranged', advances, stands', ends, -⟩ := goes.arranged arranged.store stands lends ran
  exact ⟨standings', last, arranged.advance arranged' advances, stands', ends⟩

theorem make {factory : Factory} (arranged : session.Arranged clean standings)
    (known : ∀ operand ∈ factory.schemas, session.Has operand) (name : String) :
    ∃ standings', (outcome (Session.make name factory) session).2.Arranged clean standings' := by
  refine arranged_bindNew name .null fun ran => ?_
  have goes : GoesFrom [] 0 ⟨Operand.hand factory.schemas, session.store⟩ factory.run
      fun later root => (Standing.schema, .node root) ∈ later :=
    Builder.goes_factory Operand.given_hand _ _ fun _ held => held
  obtain ⟨standings', last, after, stands, ends⟩ := arranged.change goes (arranged.given known) Hand.stands_nil ran
  refine ⟨standings', after, ?_⟩
  rintro root rfl
  exact (stands _ ends).1

theorem clone (arranged : session.Arranged clean standings) (source name : String) (metadata : Operand) :
    (∃ standings', (outcome (Session.clone source name metadata) session).2.Arranged clean standings') ∧
      (clean → Unreferring (outcome (Session.clone source name metadata) session).1) := by
  rw [Session.clone]
  rcases builder_cases source session with ⟨target, address, found, bound⟩ | ⟨error, found, other⟩
  · rw [outcome_bind_ok found]
    have bound := operand?_eq_builder.mpr ⟨target, bound⟩
    have lends : Hand.Stands [(.schema, .node address)] session.store standings :=
      List.forall_mem_singleton.mpr (arranged.root bound rfl)
    have held : (Standing.schema, Slot.node address) ∈ ([(.schema, .node address)] : Hand) := List.mem_cons_self
    obtain ⟨fresh, -, goes⟩ := Builder.goesFrom_clone session.store held metadata
    have changed := outcome_change (Builder.clone address metadata) session
    rcases ran : outcome (Builder.clone address metadata) session.store with ⟨failure | root, later⟩ <;>
      obtain ⟨standings', last, after, stands', ends⟩ :=
        arranged.change goes Hand.stands_nil lends ran <;> rw [ran] at changed <;> dsimp only
    · rw [outcome_bind_error changed]
      refine ⟨⟨standings', after⟩, fun isClean pointer shown same => ?_⟩
      exact ends.ne_reference after.store isClean stands' pointer shown (Error.builder.inj (Except.error.inj same))
    · rw [outcome_bind_ok changed]
      exact ⟨⟨standings', after.bind (stands' _ ends).1 name target.options⟩, fun _ _ _ same => by cases same⟩
  · rw [outcome_bind_error found]
    exact ⟨⟨standings, arranged⟩, fun _ _ _ same => other _ (Except.error.inj same)⟩

theorem edit {edit : Edit} {name : String} (arranged : session.Arranged clean standings)
    (known : ∀ operand ∈ edit.schemas, session.Has operand) :
    (∃ standings', (outcome (Session.edit name edit) session).2.Arranged clean standings') ∧
      (clean → Unreferring (outcome (Session.edit name edit) session).1) := by
  rw [Session.edit]
  rcases builder_cases name session with ⟨target, address, found, bound⟩ | ⟨error, found, other⟩
  · rw [outcome_bind_ok found]
    obtain ⟨stands, lends⟩ := arranged.hand (operand?_eq_builder.mpr ⟨target, bound⟩) known
    have changed := outcome_change (edit.run address) session
    rcases ran : outcome (edit.run address) session.store with ⟨failure | ⟨⟩, later⟩ <;>
      obtain ⟨standings', last, after, stands', ends⟩ :=
        arranged.change (Builder.goesFrom_edit edit address _) stands lends ran <;>
        rw [ran] at changed <;> dsimp only <;> rw [changed]
    · refine ⟨⟨standings', after⟩, fun isClean pointer shown same => ?_⟩
      exact ends.ne_reference after.store isClean stands' pointer shown (Error.builder.inj (Except.error.inj same))
    · exact ⟨⟨standings', after⟩, fun _ _ _ same => by cases same⟩
  · rw [outcome_bind_error found]
    exact ⟨⟨standings, arranged⟩, fun _ _ _ same => other _ (Except.error.inj same)⟩

end Arranged

/-- A call whose documents may stand for schemas keeps a session arranged. -/
theorem Arranged.call {call : Call} (arranged : session.Arranged clean standings)
    (known : ∀ operand ∈ call.schemas, session.Has operand) (suits : call.Suits clean session) :
    ∃ standings', (outcome call.run session).2.Arranged clean standings' := by
  cases call with
  | wrap name document overrides => exact arranged.wrap suits name overrides
  | wrapInlined name schema overrides base => exact arranged.wrapInlined suits name overrides
  | make name factory => exact arranged.make known name
  | clone source name metadata => exact (arranged.clone source name metadata).1
  | edit name edit => exact (arranged.edit known).1

end Session

end SchemaAlgebra
