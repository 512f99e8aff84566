import SchemaAlgebra.Documents.Document
import SchemaAlgebra.Proofs.Json.RoundTrip
import SchemaAlgebra.Proofs.Session.Copies

/-!
The text of a builder's schema. Wherever JSON is expected the text is a document, and the document is the schema
again, with its keys in the same order at every depth.
-/

namespace SchemaAlgebra

theorem Layout.blank_indented (indent : Option Int) : (Layout.indented indent).Blank := by
  cases indent with
  | none => trivial
  | some blanks =>
      intro c listed
      rw [String.toList_ofList] at listed
      obtain rfl := (List.mem_replicate.mp listed).2
      rfl

theorem Document.parse_render {location : String} (json : isYaml location = false) {layout : Layout}
    (blank : layout.Blank) {fields : List (Key × Json)} (formed : (Json.object fields).wellFormed = true)
    (plain : (Json.object fields).plain = true) :
    Document.parse location ((Json.object fields).render layout) = .ok (.object fields) := by
  rw [Document.parse, Document.readValue, json, Json.parse_render blank formed plain]
  rfl

namespace Session

variable {session : Session} {name location : String} {root : Nat} {fields : List (Key × Json)}

/-- A finite schema without doubles, with whole numbers within the limit on digits and with texts of Unicode
scalar values has a text for every indentation, and the text is a document that equals the schema. -/
theorem text_is_document (bound : session.operand? name = some (.builder root))
    (read : session.store.tree? (.node root) = some (.object fields))
    (formed : (Json.object fields).wellFormed = true) (plain : (Json.object fields).plain = true)
    (json : Document.isYaml location = false) (indent : Option Int) :
    ∃ text, outcome (Session.text name (.indented indent)) session = (.ok text, session) ∧
      Document.parse location text = .ok (.object fields) := by
  refine ⟨(Json.object fields).render (.indented indent), ?_,
    Document.parse_render json (Layout.blank_indented indent) formed plain⟩
  obtain ⟨target, found, kind, same⟩ := operand?_eq_builder.mp bound
  have builder : outcome (builder name) session = (.ok (target, root), session) := by
    rw [outcome_builder, found]
    simp only [kind, same]
  rw [Session.text, outcome_bind_ok builder, outcome_bind_ok (outcome_get session)]
  simp only [same, read, Json.obstacle?_of_plain _ plain, outcome_pure]

/-- A schema with escapes, a character beyond the basic plane, empty containers and signed numbers. -/
def spokenDocument : Json :=
  .object [("title", .string "a \"quoted\" \\ line\n \x00 é 😀"), ("enum", .array [.array [], .object [], .null]),
    ("properties", .object [("", .object [("minimum", .int (-20))]), ("ключ", .bool true)]), ("maximum", .int 105)]

/-- The document is wrapped, written with three blanks for a level, and read back. -/
theorem spokenDocument_read_back :
    ∃ (session : Session) (text : String), session.operand? "b" = some (.builder 3) ∧
      session.store.tree? (.node 3) = some spokenDocument ∧
      outcome (Session.text "b" (.indented (some 3))) session = (.ok text, session) ∧
      Document.parse "x.json" text = .ok spokenDocument := by
  obtain ⟨session, bound, read⟩ : ∃ session : Session, session.operand? "b" = some (.builder 3) ∧
      session.store.tree? (.node 3) = some spokenDocument :=
    ⟨(outcome (Session.wrap "b" spokenDocument .null) (start [] .empty)).2, rfl, rfl⟩
  obtain ⟨text, written, parsed⟩ : ∃ text, outcome (Session.text "b" (.indented (some 3))) session = (.ok text, session) ∧
      Document.parse "x.json" text = .ok spokenDocument :=
    text_is_document bound read (by decide) (by decide +kernel) (by decide) (some 3)
  exact ⟨session, text, bound, read, written, parsed⟩

end Session

end SchemaAlgebra
