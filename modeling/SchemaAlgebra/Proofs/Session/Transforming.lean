import SchemaAlgebra.Proofs.Builder.Alternatives
import SchemaAlgebra.Proofs.Builder.Surrounding
import SchemaAlgebra.Proofs.Session.Moves
import SchemaAlgebra.Proofs.Session.Picking

/-!
Transforming to lists and validation. Properties of a simple object schema without references are transformed to lists,
and values are validated before and after with new validators that normalize nothing: what was accepted still is
exactly if it has nothing under the names that is accepted as a list too.
-/

namespace SchemaAlgebra

open Schema

namespace Session

variable {clean : Prop} {session : Session} {standings : Nat → Standing} {name : String} {address : Nat}
  {fields : List (Key × Json)} {operand : Operand} {names : List String}

/-- Validate a value with a new validator, which normalizes nothing, over the schema that a name is bound to. -/
def tryPlain (source name : String) (value : Json) : Act Validation.Result := do
  attach name source .plain
  Session.validate name value

theorem outcome_tryPlain {target : Target} {schema : Json} (bound : session.targets.get? name = some target)
    (read : session.store.tree? target.root = some schema) (isSchema : Metaschema.isSchema schema = true)
    (checker : String) (value : Json) :
    ∃ last, outcome (tryPlain name checker value) session = (.ok (Validation.validate .plain schema value), last) := by
  have attached := outcome_attach checker name .plain session
  rw [bound] at attached
  set with' : Session :=
    { session with targets := session.targets.put checker ⟨.validator, target.root, .plain, none, none⟩ }
  have bound' : with'.targets.get? checker = some ⟨.validator, target.root, .plain, none, none⟩ := Fields.get?_put_self ..
  rw [tryPlain, outcome_bind_ok attached]
  exact ⟨_, outcome_validate_first bound' rfl read isSchema value⟩

/-- The names that a transformation is told: all that are declared, or different ones of them. -/
def Chosen (fields : List (Key × Json)) (operand : Operand) (names : List String) : Prop :=
  operand.isNull = true ∧ names = Fields.keys (Property.schemas fields) ∨
    operand.Lists names ∧ names.Nodup ∧ ∀ name ∈ names, name ∈ Fields.keys (Property.schemas fields)

/-- Properties of a simple object schema in an arranged session can be transformed to lists. -/
theorem Arranged.edit_transformToArray (arranged : session.Arranged clean standings)
    (bound : session.operand? name = some (.builder address))
    (read : session.store.tree? (.node address) = some (.object fields)) (formed : (Json.object fields).wellFormed = true)
    (isSchema : Metaschema.isSchema (.object fields) = true) (simple : Shape.isSimpleObjectSchema fields = true)
    (chosen : Chosen fields operand names) :
    ∃ store, outcome (Session.edit name (.transformToArray operand)) session = (.ok (), { session with store }) ∧
      store.tree? (.node address) = some (.object (widened fields names)) := by
  have schema := arranged.roots bound
  obtain ⟨target, found, kind, same⟩ := operand?_eq_builder.mp bound
  have inside : address < session.store.size := arranged.store.inside (by simp [schema])
  have denotes := (arranged.store.closed.tree?_eq_some_iff (Slot.within_node.mpr inside)).mp read
  obtain ⟨members, presents⟩ := Store.presents_of_schema arranged.store.closed inside denotes formed isSchema
  have keys := presents.values.keys
  have distinct := presents.describes.distinct
  obtain ⟨listed, once, present⟩ : (operand.isNull = true ∧ names = Fields.keys members ∨ operand.Lists names) ∧
      names.Nodup ∧ ∀ name ∈ names, Fields.has members name = true := by
    simp only [Fields.has_iff_mem_keys, keys]
    rcases chosen with ⟨null, rfl⟩ | ⟨listed, once, present⟩
    · exact ⟨.inl ⟨null, rfl⟩, keys ▸ distinct, fun _ among => among⟩
    · exact ⟨.inr listed, once, present⟩
  obtain ⟨store, ran, widened⟩ := Builder.outcome_transformToArray_named arranged.store schema presents
    (denotes.isSimple.trans simple) denotes ((Json.wellFormed_object _).mp formed).2.1 listed once present
  exact ⟨store, outcome_edit_ok found kind same ran, widened⟩

/-- Transforming properties to lists widens but for lists: a value that was accepted is accepted still, exactly if what it
has under the names is refused as a list of what it was. -/
theorem Played.transforming_widens (played : session.Played)
    (bound : session.operand? name = some (.builder address))
    (read : session.store.tree? (.node address) = some (.object fields)) (formed : (Json.object fields).wellFormed = true)
    (isSchema : Metaschema.isSchema (.object fields) = true) (closed : Reference.count "$ref" (.object fields) = 0)
    (simple : Shape.isSimpleObjectSchema fields = true) (chosen : Chosen fields operand names) (checker : String) :
    ∃ later, outcome (Session.edit name (.transformToArray operand)) session = (.ok (), later) ∧
      ∀ value, ∃ answer answer' last last', outcome (tryPlain name checker value) session = (.ok answer, last) ∧
        outcome (tryPlain name checker value) later = (.ok answer', last') ∧
        ((∃ result, answer.verdict = .valid result) → ((∃ result, answer'.verdict = .valid result) ↔
          ∀ given ∈ names, ∀ schema, Fields.get? (Property.schemas fields) given = some schema →
            ∀ child, value.child? (.member (.text given)) = some child →
              Validation.Refuses (Property.listsOf schema) child)) := by
  obtain ⟨standings, arranged⟩ := played.arranged
  obtain ⟨target, found, -, same⟩ := operand?_eq_builder.mp bound
  obtain ⟨store, ran, read'⟩ := arranged.edit_transformToArray bound read formed isSchema simple chosen
  refine ⟨{ session with store := store }, ran, fun value => ?_⟩
  obtain ⟨last, before⟩ := outcome_tryPlain found (same ▸ read) isSchema checker value
  have found' : ({ session with store := store } : Session).targets.get? name = some target := found
  obtain ⟨last', after⟩ := outcome_tryPlain found' (same ▸ read') (Metaschema.isSchema_widened isSchema) checker value
  exact ⟨_, _, last, last', before, after, Validation.accepts_widened formed closed isSchema⟩

/-- A schema with a property for texts and one for anything. -/
def looseFields : List (Key × Json) :=
  [("type", .string "object"), ("additionalProperties", .bool false),
    ("properties", .object [("a", .object [("type", .string "string")]), ("b", .object [])])]

/-- A builder of it. -/
def looseSession : Session :=
  (start [] .empty).after [.call (.wrap "s" (.object looseFields) .null)]

theorem looseSession_builds : looseSession.Played ∧
    looseSession.operand? "s" = some (.builder 3) ∧
    looseSession.store.tree? (.node 3) = some (.object looseFields) :=
  ⟨.move (.call (.wrap "s" (.object looseFields) .null)) (has_of_nil rfl) (.start [] .empty), rfl, rfl⟩

/-- Texts may be lists of texts from now on, and what was accepted still is. -/
theorem texts_widened : ∃ (later last last' : Session) (answer answer' : Validation.Result),
    outcome (Session.edit "s" (.transformToArray (.value (.array [.string "a"])))) looseSession = (.ok (), later) ∧
      outcome (tryPlain "s" "v" (.object [("a", .string "x"), ("b", .array [])])) looseSession = (.ok answer, last) ∧
      outcome (tryPlain "s" "v" (.object [("a", .string "x"), ("b", .array [])])) later = (.ok answer', last') ∧
      (∃ result, answer.verdict = .valid result) ∧ ∃ result, answer'.verdict = .valid result := by
  obtain ⟨played, bound, read⟩ := looseSession_builds
  obtain ⟨target, found, -, same⟩ := operand?_eq_builder.mp bound
  have chosen : Chosen looseFields (.value (.array [.string "a"])) ["a"] := .inr ⟨rfl, by decide, by decide⟩
  obtain ⟨later, edited, each⟩ :=
    played.transforming_widens bound read (by decide) (by decide) (by decide) (by decide) chosen "v"
  obtain ⟨answer, answer', last, last', before, after, still⟩ := each (.object [("a", .string "x"), ("b", .array [])])
  have valid : ∃ result, answer.verdict = .valid result := by
    obtain ⟨_, ran⟩ := outcome_tryPlain found (same ▸ read) (by decide) "v" (.object [("a", .string "x"), ("b", .array [])])
    obtain rfl := Except.ok.inj (congrArg Prod.fst (before.symm.trans ran))
    exact ⟨_, Validation.validate_eq_valid.mpr ⟨_, Validation.coerceRoot_container rfl, rfl⟩⟩
  refine ⟨later, last, last', answer, answer', edited, before, after, valid, (still valid).mpr ?_⟩
  intro given among schema declared child there
  obtain rfl := List.mem_singleton.mp among
  obtain rfl : .object [("type", .string "string")] = schema := Option.some.inj declared
  obtain rfl : .string "x" = child := Option.some.inj there
  exact Validation.refuses_listsOf (by decide) rfl rfl

/-- What is anything may be a list already, and then it is refused once it may be a list of anything too. -/
theorem lists_refused : ∃ (later last last' : Session) (answer answer' : Validation.Result),
    looseSession.operand? "s" = some (.builder 3) ∧ looseSession.store.tree? (.node 3) = some (.object looseFields) ∧
      Metaschema.isSchema (.object looseFields) = true ∧ Reference.count "$ref" (.object looseFields) = 0 ∧
      Shape.isSimpleObjectSchema looseFields = true ∧
      outcome (Session.edit "s" (.transformToArray (.value .null))) looseSession = (.ok (), later) ∧
      outcome (tryPlain "s" "v" (.object [("b", .array [])])) looseSession = (.ok answer, last) ∧
      outcome (tryPlain "s" "v" (.object [("b", .array [])])) later = (.ok answer', last') ∧
      (∃ result, answer.verdict = .valid result) ∧ ¬ ∃ result, answer'.verdict = .valid result := by
  obtain ⟨played, bound, read⟩ := looseSession_builds
  obtain ⟨standings, arranged⟩ := played.arranged
  obtain ⟨target, found, -, same⟩ := operand?_eq_builder.mp bound
  have chosen : Chosen looseFields (.value .null) ["a", "b"] := .inl ⟨rfl, rfl⟩
  obtain ⟨store, edited, read'⟩ := arranged.edit_transformToArray bound read (by decide) (by decide) (by decide) chosen
  set later : Session := { looseSession with store := store }
  have found' : later.targets.get? "s" = some target := found
  obtain ⟨last, before⟩ := outcome_tryPlain found (same ▸ read) (by decide) "v" (.object [("b", .array [])])
  obtain ⟨last', after⟩ := outcome_tryPlain found' (same ▸ read') (Metaschema.isSchema_widened (by decide)) "v"
    (.object [("b", .array [])])
  refine ⟨later, last, last', _, _, bound, read, by decide, by decide, by decide, edited, before, after, ?_, ?_⟩
  · exact ⟨_, Validation.validate_eq_valid.mpr ⟨_, Validation.coerceRoot_container rfl, rfl⟩⟩
  · intro accepted
    have complains : (Validation.rootOutcome .plain (.object (widened looseFields ["a", "b"]))
        (.object [("b", .array [])])).problems ≠ [] := by decide
    exact complains (congrArg Outcome.problems (Validation.accepts_iff.mp accepted))

/-!
Transforming properties by an alternative. Whatever the two builders share, the schema stays as it was but for the
choices that the named properties get. All of these have the schema of the other builder for their alternative if there
is one at most, or the other builder does not hold the schema. A builder that does, as the builder itself, grows from
round to round.
-/

variable {other : String} {root : Nat} {alternative : Json}

/-- Properties of a simple object schema get the choice between what they were and a copy of another finite schema, and
nothing else changes. The copies are what the other schema was before the call exactly if there is at most one, or the
other schema does not hold the first. -/
theorem Played.transforming_chooses (played : session.Played)
    (bound : session.operand? name = some (.builder address)) (bound' : session.operand? other = some (.builder root))
    (simple : Shape.isSimpleObjectSchema (Cell.face (session.store.cell address)) = true)
    (read : session.store.tree? (.node root) = some alternative) (listed : operand.Lists names) (distinct : names.Nodup)
    (declared : ∀ name ∈ names, Fields.has (session.store.propertiesAt address) (.text name) = true) :
    ∃ later, outcome (Session.edit name (.transform (.builder root) operand)) session =
        (.ok (), { session with store := later }) ∧
      session.store.Varies later address names ∧
      ((∀ name ∈ names, ∃ old copy, later.Chooses (later.propertiesAt address) name old copy ∧
          later.tree? copy = some alternative) ↔ names.length ≤ 1 ∨ ¬ session.store.Leads root address) := by
  obtain ⟨standings, arranged⟩ := played.arranged
  obtain ⟨target, found, kind, same⟩ := operand?_eq_builder.mp bound
  obtain ⟨later, ran, varies, alternatives⟩ := Builder.outcome_transform_named arranged.store (arranged.roots bound)
    (arranged.roots bound') simple read listed distinct declared
  exact ⟨later, outcome_edit_ok found kind same ran, varies, alternatives⟩

/-- A builder with two properties that are the schema of another one. -/
def sharingSession : Session :=
  (start [] .empty).after [.call (.make "b" (.object (.value .null))), .call (.make "x" (.scalar .string (.value .null))),
    .call (.edit "b" (.add true (.string "p") (.builder 1))), .call (.edit "b" (.add false (.string "q") (.builder 1)))]

theorem sharingSession_builds : sharingSession.Played ∧ sharingSession.operand? "b" = some (.builder 0) ∧
    sharingSession.operand? "x" = some (.builder 1) := by
  refine ⟨?_, rfl, rfl⟩
  have known (session : Session) (bound : session.operand? "x" = some (.builder 1)) :
      ∀ operand ∈ [Operand.builder 1], session.Has operand := by
    intro operand listed address same
    obtain rfl := List.mem_singleton.mp listed
    obtain rfl := Operand.builder.inj same
    exact ⟨"x", bound⟩
  have bare := Played.move (.call (.make "b" (.object (.value .null)))) (has_of_nil rfl) (.start [] .empty)
  have beside := bare.move (.call (.make "x" (.scalar .string (.value .null)))) (has_of_nil rfl)
  have first := beside.move (.call (.edit "b" (.add true (.string "p") (.builder 1)))) (known _ rfl)
  exact first.move (.call (.edit "b" (.add false (.string "q") (.builder 1)))) (known _ rfl)

theorem sharingSession_simple :
    Shape.isSimpleObjectSchema (Cell.face (sharingSession.store.cell 0)) = true ∧
      ∀ name ∈ ["p", "q"], Fields.has (sharingSession.store.propertiesAt 0) (.text name) = true :=
  ⟨by decide, by decide⟩

/-- Both properties have copies of the schema of the other builder, which they hold themselves. -/
theorem sharing_chosen : ∃ later,
    outcome (Session.edit "b" (.transform (.builder 1) (.value (.array [.string "p", .string "q"])))) sharingSession =
      (.ok (), { sharingSession with store := later }) ∧
    sharingSession.store.Varies later 0 ["p", "q"] ∧
    ∀ name ∈ ["p", "q"], ∃ old copy, later.Chooses (later.propertiesAt 0) name old copy ∧
      later.tree? copy = some (.object [("type", .string "string")]) := by
  obtain ⟨played, bound, bound'⟩ := sharingSession_builds
  obtain ⟨simple, declared⟩ := sharingSession_simple
  have read : sharingSession.store.tree? (.node 1) = some (.object [("type", .string "string")]) := rfl
  have listed : (Operand.value (.array [.string "p", .string "q"])).Lists ["p", "q"] := rfl
  obtain ⟨later, ran, varies, alternatives⟩ :=
    played.transforming_chooses bound bound' simple read listed (by decide) declared
  refine ⟨later, ran, varies, alternatives.mpr (.inr fun leads => ?_)⟩
  rcases Relation.ReflTransGen.cases_head leads with same | ⟨next, named, -⟩
  · cases same
  · rw [show (sharingSession.store.cell 1).addresses = [] from rfl] at named
    cases named

/-- With the builder itself for the alternative, the second copy holds the first. -/
theorem sharing_grows : ∃ alternative later, sharingSession.Played ∧ sharingSession.operand? "b" = some (.builder 0) ∧
    Shape.isSimpleObjectSchema (Cell.face (sharingSession.store.cell 0)) = true ∧
    sharingSession.store.tree? (.node 0) = some alternative ∧
    (∀ name ∈ ["p", "q"], Fields.has (sharingSession.store.propertiesAt 0) (.text name) = true) ∧
    outcome (Session.edit "b" (.transform (.builder 0) (.value (.array [.string "p", .string "q"])))) sharingSession =
      (.ok (), { sharingSession with store := later }) ∧
    ¬ ∀ name ∈ ["p", "q"], ∃ old copy, later.Chooses (later.propertiesAt 0) name old copy ∧
      later.tree? copy = some alternative := by
  obtain ⟨played, bound, -⟩ := sharingSession_builds
  obtain ⟨simple, declared⟩ := sharingSession_simple
  obtain ⟨standings, arranged⟩ := played.arranged
  obtain ⟨target, found, kind, same⟩ := operand?_eq_builder.mp bound
  obtain ⟨alternative, read⟩ : ∃ alternative, sharingSession.store.tree? (.node 0) = some alternative := ⟨_, rfl⟩
  have listed : (Operand.value (.array [.string "p", .string "q"])).Lists ["p", "q"] := rfl
  obtain ⟨later, ran, -, alternatives⟩ := Builder.outcome_transform_named arranged.store (arranged.roots bound)
    (arranged.roots bound) simple read listed (by decide) declared
  refine ⟨alternative, later, played, bound, simple, read, declared, outcome_edit_ok found kind same ran, fun each => ?_⟩
  rcases alternatives.mp each with few | apart
  · exact absurd few (by decide)
  · exact apart .refl

end Session

end SchemaAlgebra
