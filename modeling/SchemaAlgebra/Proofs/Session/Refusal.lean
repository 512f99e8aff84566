import SchemaAlgebra.Proofs.Builder.Additional
import SchemaAlgebra.Proofs.Session.Arrangement
import SchemaAlgebra.Proofs.Session.History

/-!
Refused edits. In every session that calls lead to, an edit that is refused leaves the schema of every builder
as it was; only picking with additional properties can be refused after it has picked.
-/

namespace SchemaAlgebra.Session

/-- Nothing that was there has changed: neither what names are bound to, nor an object, nor a schema. -/
structure Keeps (session later : Session) : Prop where
  targets : later.targets = session.targets
  objects : session.store.Extends later.store
  schemas : ∀ {name target}, session.targets.get? name = some target →
    later.store.tree? target.root = session.store.tree? target.root

variable {session later : Session} {name : String} {edit : Edit} {refusal : Refusal}

/-- A refused edit is a refused change of the store, and binds nothing. -/
theorem refused_change (refused : outcome (Session.edit name edit) session =
    (.error (.builder (.refused refusal)), later)) :
    ∃ address, session.operand? name = some (.builder address) ∧ later.targets = session.targets ∧
      outcome (edit.run address) session.store = (.error (.refused refusal), later.store) := by
  rw [Session.edit] at refused
  rcases builder_cases name session with ⟨target, address, ran, bound⟩ | ⟨error, ran, other⟩
  · rw [outcome_bind_ok ran, outcome_change] at refused
    refine ⟨address, operand?_eq_builder.mpr ⟨target, bound⟩, ?_⟩
    rcases changed : outcome (edit.run address) session.store with ⟨failure | a, store⟩
    · simp only [changed, Prod.mk.injEq, Except.error.injEq, Error.builder.injEq] at refused
      obtain ⟨rfl, rfl⟩ := refused
      exact ⟨rfl, rfl⟩
    · simp [changed] at refused
  · rw [outcome_bind_error ran] at refused
    simp only [Prod.mk.injEq, Except.error.injEq] at refused
    exact absurd refused.1 (other _)

/-- A refused edit changes nothing, unless it picks with additional properties and the schema that undeclared
properties have holds a reference; then all that picking alone does is left. -/
theorem refused_edit_leaves (reached : session.Reached) (known : ∀ operand ∈ edit.schemas, session.Has operand)
    (refused : outcome (Session.edit name edit) session = (.error (.builder (.refused refusal)), later)) :
    session.Keeps later ∨ ∃ address names additional, edit = .pickAdditional names additional ∧
      session.operand? name = some (.builder address) ∧ later.targets = session.targets ∧
      Builder.LeavesPick session.store later.store address names := by
  have whole := reached.whole
  have whole' : later.Whole := by
    have edited := whole.edit name known
    rwa [refused] at edited
  obtain ⟨address, bound, targets, refused⟩ := refused_change refused
  have keeps (objects : session.store.Extends later.store) : session.Keeps later :=
    ⟨targets, objects, fun found => objects.tree? whole.closed whole'.closed (whole.roots found)⟩
  by_cases plain : ∀ names additional, edit ≠ .pickAdditional names additional
  · exact .inl (keeps (Edit.atomic_run address plain _ _ _ refused))
  · simp only [not_forall, not_not] at plain
    obtain ⟨names, additional, rfl⟩ := plain
    have inside := whole.inside bound
    rcases Builder.pickAdditional_refused whole.closed inside refused with objects | leaves
    · exact .inl (keeps objects)
    · exact .inr ⟨address, names, additional, rfl, bound, targets, leaves⟩

/-- Picking a property that an object schema does not have is refused and changes nothing. -/
theorem absentPick_keeps :
    ∃ session later refusal, session.Reached ∧
      outcome (Session.edit "a" (.pick (.value (.array [.string "x"])))) session =
        (.error (.builder (.refused refusal)), later) ∧ session.Keeps later := by
  have reached := Reached.call (.make "a" (.object (.value .null))) (has_of_nil rfl) (.start [] .empty)
  obtain ⟨later, refused⟩ : ∃ later, outcome (Session.edit "a" (.pick (.value (.array [.string "x"]))))
      (outcome (Call.make "a" (.object (.value .null))).run (.start [] .empty)).2 =
        (.error (.builder (.refused (.pickedAbsent "x" "this"))), later) := ⟨_, rfl⟩
  rcases refused_edit_leaves reached (has_of_nil rfl) refused with keeps | ⟨_, _, _, other, _⟩
  · exact ⟨_, _, _, reached, refused, keeps⟩
  · cases other

/-- A document whose property is no schema but a list with a reference in it. -/
def listedReference : Json :=
  .object [("properties", .object [("a", .array [.object [("$ref", .string "x")]])]),
    ("additionalProperties", .bool false)]

/-- The document after its property may be a list: the list now stands where schemas stand. -/
def shownReference : Json :=
  .object [("properties", .object [("a", .object [("oneOf", .array [.array [.object [("$ref", .string "x")]],
      .object [("type", .string "array"), ("items", .array [.object [("$ref", .string "x")]])]])])]),
    ("additionalProperties", .bool false)]

/-- Picking nothing and an additional property is refused and leaves a schema with properties. -/
theorem refused_pick_changes :
    ∃ session later refusal, session.Reached ∧
      outcome (Session.edit "a" (.pickAdditional (.value (.array [])) (.value (.array [.string "x"])))) session =
        (.error (.builder (.refused refusal)), later) ∧
      session.operand? "a" = some (.builder 6) ∧
      session.store.tree? (.node 6) =
        some (.object [("type", .string "object"), ("additionalProperties", shownReference)]) ∧
      later.store.tree? (.node 6) =
        some (.object [("type", .string "object"), ("additionalProperties", shownReference),
          ("properties", .object [])]) := by
  have wrapped := Reached.call (.wrap "b" listedReference .null) (has_of_nil rfl) (.start [] .empty)
  have shown := Reached.call (.edit "b" (.transformToArray (.value (.array [.string "a"])))) (has_of_nil rfl) wrapped
  have made := Reached.call (.make "a" (.object (.value .null))) (has_of_nil rfl) shown
  have reached := Reached.call (.edit "a" (.addAdditional (.builder 2))) (by
    rintro operand listed address rfl
    obtain rfl : address = 2 := by simpa [Call.schemas, Edit.schemas] using listed
    exact ⟨"b", rfl⟩) made
  exact ⟨_, _, .reference "/properties/a/oneOf/1/items/0" "'x'", reached, rfl, rfl, rfl, rfl⟩

end SchemaAlgebra.Session

/-!
References in the schemas of builders. If every document that is wrapped passes the metaschema, no schema of a builder ever
comes to hold a reference, in any session that calls lead to; so no copy and no edit is refused for one.
-/

namespace SchemaAlgebra.Session

open Walk

/-- A document that passes the metaschema, and in no node of which a key stands twice. -/
structure Passing (document : Json) : Prop where
  distinct : ∀ node, IsNode .schema document node → (Fields.keys node).Nodup
  isSchema : Metaschema.isSchema document = true

/-- The documents that a call wraps pass the metaschema. -/
def Call.Checked (session : Session) : Call → Prop
  | .wrap _ document _ => Passing document
  | .wrapInlined _ schema _ base =>
      ∀ inlined, ((Inline.inline (.ofFiles session.files) base schema).run.run []).1 = .ok inlined → Passing inlined
  | .make _ _ | .clone _ _ _ | .edit _ _ => True

/-- The sessions that calls lead to whose documents pass the metaschema, whether the calls succeed or fail. -/
inductive Checked : Session → Prop
  | start (environment : Fields String String) (files : Files) : Checked (.start environment files)
  | meanwhile {session : Session} (environment : Fields String String) (files : Files)
      (checked : Checked session) : Checked { session with environment := environment, files := files }
  | call {session : Session} (call : Call) (known : ∀ operand ∈ call.schemas, session.Has operand)
      (passing : call.Checked session) (checked : Checked session) : Checked (outcome call.run session).2

variable {session : Session}

theorem distinct_of_isNode {role : Role} {value : Json} {node : List (Key × Json)} (isNode : IsNode role value node)
    (formed : value.wellFormed = true) : (Fields.keys node).Nodup := by
  induction isNode with
  | here => exact ((Json.wellFormed_object _).mp formed).2.1
  | keyword _ _ found _ ih => exact ih (((Json.wellFormed_object _).mp formed).2.2 _ (Fields.mem_of_get? found))
  | member listed _ ih => exact ih (((Json.wellFormed_object _).mp formed).2.2 _ listed)
  | item _ listed _ ih => exact ih ((Json.wellFormed_array _).mp formed _ listed)

/-- A JSON document that passes the metaschema. -/
theorem passing_of_wellFormed {document : Json} (formed : document.wellFormed = true)
    (isSchema : Metaschema.isSchema document = true) : Passing document where
  distinct _ isNode := distinct_of_isNode isNode formed
  isSchema := isSchema

/-- A document that passes the metaschema and holds no reference may stand for a schema in a clean store. -/
theorem Passing.wraps {document : Json} (passing : Passing document) : Wraps True document := by
  intro none
  have free := (firstReference?_eq_none_iff document).mp none
  refine Json.suits_of_passes document .schema .schema (Metaschema.passes_of_isSchema passing.isSchema)
    (fun node isNode => ⟨passing.distinct node isNode, ?_⟩) rfl
  rw [← Bool.not_eq_true]
  exact fun has => free ⟨node, isNode, has⟩

theorem Call.Checked.suits {call : Call} (checked : call.Checked session) : call.Suits True session := by
  cases call with
  | wrap name document overrides => exact Passing.wraps checked
  | wrapInlined name schema overrides base => exact fun inlined ran => (checked inlined ran).wraps
  | _ => exact trivial

/-- Sessions whose documents pass the metaschema are arranged, and no schema in them holds a reference. -/
theorem Checked.arranged (checked : session.Checked) : ∃ standings, session.Arranged True standings := by
  induction checked with
  | start environment files => exact ⟨_, arranged_start environment files⟩
  | meanwhile environment files _ ih =>
      obtain ⟨standings, arranged⟩ := ih
      exact ⟨standings, arranged.store, arranged.roots⟩
  | call call known passing _ ih =>
      obtain ⟨standings, arranged⟩ := ih
      exact arranged.call known passing.suits

/-- In a session whose documents pass the metaschema, nothing that a walk visits from the schema of a builder holds a
reference, nor does a node that it lists of a finite schema; and no copy or edit is refused for one. -/
theorem Checked.unreferring (checked : session.Checked) :
    (∀ name root, session.operand? name = some (.builder root) →
      (∀ node, session.store.Visits .schema (.node root) node → Fields.has (session.store.cell node) "$ref" = false) ∧
      ∀ schema, session.store.tree? (.node root) = some schema →
        ∀ entry ∈ nodes schema, entry.2.get? "$ref" = none) ∧
    (∀ source name metadata, Unreferring (outcome (Session.clone source name metadata) session).1) ∧
    ∀ name edit, (∀ operand ∈ edit.schemas, session.Has operand) →
      Unreferring (outcome (Session.edit name edit) session).1 := by
  obtain ⟨standings, arranged⟩ := checked.arranged
  refine ⟨fun name root bound => ⟨fun node visits => ?_, fun schema finite entry listed => ?_⟩,
    fun source name metadata => (arranged.clone source name metadata).2 trivial,
    fun name edit known => (arranged.edit known).2 trivial⟩
  · obtain ⟨stands, within⟩ := arranged.root bound rfl
    exact arranged.store.free trivial node (arranged.store.visits Standing.serves_schema stands within visits)
  · have none := arranged.store.noReference trivial (arranged.roots bound) finite
    rw [firstReference?, List.findSome?_eq_none_iff] at none
    simpa using none entry listed

/-- A document with a property that has the name of the keyword for references, and a reference in what is data. -/
def misleadingDocument : Json :=
  .object [("type", .string "object"),
    ("properties", .object [("$ref", .object [("type", .string "string")])]),
    ("additionalProperties", .object [("default", .object [("$ref", .string "#")])])]

theorem passing_misleadingDocument : Passing misleadingDocument :=
  passing_of_wellFormed (by decide) (by decide)

/-- The document is wrapped, and a property is picked from its additional ones; the copy that this gives is no reference,
though it holds one as data. -/
theorem picked_unreferring :
    ∃ (session : Session) (root : Nat), session.Checked ∧ session.operand? "a" = some (.builder root) ∧
      (∃ schema, session.store.tree? (.node root) = some schema ∧
        (∀ entry ∈ nodes schema, entry.2.get? "$ref" = none) ∧ (nodes schema).length = 3) ∧
      Unreferring (outcome (Session.clone "a" "b" (.value .null)) session).1 := by
  have wrapped := Checked.call (.wrap "a" misleadingDocument .null) (has_of_nil rfl) passing_misleadingDocument
    (.start [] .empty)
  have picked := Checked.call (.edit "a" (.pickAdditional (.value (.array [])) (.value (.array [.string "x"]))))
    (fun _ listed => by simp [Call.schemas, Edit.schemas] at listed) trivial wrapped
  obtain ⟨session, checked, bound, schema, finite, three⟩ : ∃ session : Session, session.Checked ∧
      session.operand? "a" = some (.builder 4) ∧ ∃ schema, session.store.tree? (.node 4) = some schema ∧
        (nodes schema).length = 3 :=
    ⟨_, picked, rfl, _, rfl, rfl⟩
  obtain ⟨free, copies, -⟩ := checked.unreferring
  exact ⟨session, 4, checked, bound, ⟨schema, finite, (free "a" 4 bound).2 schema finite, three⟩, copies "a" "b" _⟩

end SchemaAlgebra.Session
