import SchemaAlgebra.Proofs.Builder.Absorbing
import SchemaAlgebra.Proofs.Builder.Properties
import SchemaAlgebra.Proofs.Session.Copies

/-!
Which edits keep a schema valid. The metaschema lets a schema require names that it does not declare. An edit that
makes such a name a new, required property requires it twice, and then the schema does not pass any more; every
other edit keeps it valid, and with it all schemas of the store.
-/

namespace SchemaAlgebra

open Metaschema

namespace Property

/-- A JSON document that passes the metaschema. Its names are written as their code points are. -/
structure Valid (fields : List (Key × Json)) : Prop where
  formed : (Json.object fields).wellFormed = true
  isSchema : Metaschema.isSchema (.object fields) = true
  written : ∀ name, name ∈ requiredNames fields ∨ name ∈ Fields.keys (schemas fields) → Text.Written name

/-- A valid document requires different names. -/
theorem Valid.distinct {fields : List (Key × Json)} (valid : Valid fields) : (requiredNames fields).Nodup := by
  cases found : Fields.get? fields "required" with
  | none =>
      rw [requiredNames_of_missing found]
      exact List.nodup_nil
  | some value =>
      obtain ⟨names, rfl, differ⟩ :=
        holds_texts.mp (holds_object.mp (isSchema_iff.mp valid.isSchema) "required" .texts (by decide) value found)
      have same := requiredNames_of_get? found
      rw [same]
      exact (Json.allDifferent_strings fun name listed => valid.written name (.inl (same.symm ▸ listed))).mp differ

end Property

open Property

variable {store later : Store} {address : Nat} {members : Fields String Slot} {names : List String}
  {fields : List (Key × Json)} {standings : Nat → Standing} {edit : Edit}

namespace Store

/-- A document requires and declares what is known of its schema. -/
theorem Describes.read (describes : store.Describes address members names)
    (denotes : store.DenotesAll (store.cell address) fields) :
    requiredNames fields = names ∧ Fields.keys (schemas fields) = Fields.keys members := by
  constructor
  · rcases denotes.get? "required" with ⟨missing, missing'⟩ | ⟨slot, value, found, found', denotes⟩
    · rcases describes.required with ⟨-, rfl⟩ | found
      · exact requiredNames_of_missing missing'
      · cases missing.symm.trans found
    · rcases describes.required with ⟨missing, -⟩ | listed
      · cases missing.symm.trans found
      · obtain rfl := Option.some.inj (found.symm.trans listed)
        rw [denotes_strings denotes] at found'
        exact requiredNames_of_get? found'
  · have declares := describes.declares
    rcases denotes.get? "properties" with ⟨missing, missing'⟩ | ⟨slot, value, found, found', denotes⟩
    · rw [missing] at declares
      cases declares with
      | absent empty =>
          rw [schemas_of_missing missing', empty]
          rfl
    · rw [found] at declares
      cases declares with
      | node cell =>
          obtain ⟨inner, rfl, inside⟩ := denotes_node.mp denotes
          rw [cell] at inside
          rw [schemas_of_get? found', inside.textual.keys]

/-- A schema that requires a name twice does not pass. -/
theorem Describes.not_isSchema {document : Json} (describes : store.Describes address members names)
    (written : ∀ name ∈ names, Text.Written name) (repeated : ¬ names.Nodup)
    (denotes : store.Denotes (.node address) document) : Metaschema.isSchema document = false := by
  rw [Bool.eq_false_iff, Ne, isSchema_iff]
  intro holds
  obtain ⟨fields, rfl, each⟩ := denotes_node.mp denotes
  rcases describes.required with ⟨-, rfl⟩ | listed
  · exact repeated List.nodup_nil
  · rcases each.get? "required" with ⟨missing, -⟩ | ⟨slot, value, found, found', denotes⟩
    · cases missing.symm.trans listed
    · obtain rfl := Option.some.inj (listed.symm.trans found)
      obtain rfl := denotes_strings denotes
      obtain ⟨names', same, differ⟩ := holds_texts.mp (holds_object.mp holds "required" .texts (by decide) _ found')
      have strings : Function.Injective Json.string := fun _ _ same => Json.string.inj same
      obtain rfl := List.map_injective_iff.mpr strings (Json.array.inj same)
      exact repeated ((Json.allDifferent_strings written).mp differ)

/-- There is a valid document at an address. -/
def HoldsValid (store : Store) (address : Nat) : Prop :=
  ∃ fields, store.tree? (.node address) = some (.object fields) ∧ Valid fields

theorem HoldsValid.passing (holds : store.HoldsValid address) (schema : standings address = .schema) :
    store.Passing standings address := by
  obtain ⟨fields, read, valid⟩ := holds
  exact ⟨.schema, _, schema, ⟨_, read⟩, isSchema_iff.mp valid.isSchema, valid.formed⟩

/-- What passes in a store passes in one that extends it. -/
theorem passing_grows {standings' : Nat → Standing} (arranged : store.Arranged False standings)
    (extends' : store.Extends later) (advances : store.Advances standings later standings') :
    Charter.Grows ⟨standings, store.Passing standings⟩ ⟨standings', later.Passing standings'⟩ := by
  intro address sound
  have inside := arranged.lawful.inside sound
  have same := advances.same address inside
  obtain ⟨role, value, serves, denotes, passes, formed⟩ := sound
  refine ⟨⟨role, value, ?_, denotes.extend arranged.closed (Slot.within_node.mpr inside) extends', passes,
    formed⟩, same⟩
  rwa [same]

end Store

/-- An edit makes a required name a property without looking whether it is required already. -/
inductive Edit.Repeats (store : Store) (fields : List (Key × Json)) : Edit → Prop
  | add {name : String} {schema : Operand} : name ∈ requiredNames fields →
      Repeats store fields (.add true (.string name) schema)
  | addMade {name : String} {factory : Factory} : name ∈ requiredNames fields →
      Repeats store fields (.addMade true (.string name) factory)
  | rename {name new : String} : name ∈ Fields.keys (Property.schemas fields) → new ∈ requiredNames fields →
      Repeats store fields (.rename true (.string name) (.string new))
  | merge {name : String} {root : Nat} {theirs : List (Key × Json)} :
      store.tree? (.node root) = some (.object theirs) →
      name ∈ Fields.keys (Property.schemas theirs) → name ∈ requiredNames theirs →
        name ∉ Fields.keys (Property.schemas fields) →
      name ∈ requiredNames fields → Repeats store fields (.merge (.builder root))

/-- The builders that an edit is given hold valid documents, and so does the one that it makes. -/
structure Edit.TakesValid (edit : Edit) (store : Store) : Prop where
  given : ∀ root, .builder root ∈ edit.schemas → store.HoldsValid root
  made : ∀ {isRequired name factory root middle}, edit = .addMade isRequired name factory →
    outcome factory.run store = (.ok root, middle) → middle.HoldsValid root

/-- What is known of a valid schema in an arranged store. -/
theorem Store.Arranged.describes_of_valid (arranged : store.Arranged False standings)
    (schema : standings address = .schema)
    (read : store.tree? (.node address) = some (.object fields)) (valid : Valid fields) :
    Charter.IsSchema ⟨standings, store.Passing standings⟩ address ∧ ∃ members,
      store.Describes address members (requiredNames fields) ∧
      Fields.keys (schemas fields) = Fields.keys members := by
  have isSchema : Charter.IsSchema ⟨standings, store.Passing standings⟩ address :=
    ⟨HoldsValid.passing ⟨fields, read, valid⟩ schema, schema⟩
  obtain ⟨members, names, describes⟩ := arranged.lawful.describes isSchema
  obtain ⟨_, ⟨⟩, each⟩ := denotes_node.mp ⟨_, read⟩
  obtain ⟨rfl, keys⟩ := describes.read each
  exact ⟨isSchema, members, describes, keys⟩

/-- What a factory makes is sound if it holds a valid document. -/
theorem Factory.sound_of_valid {factory : Factory} {root : Nat} {middle : Store}
    (arranged : store.Arranged False standings)
    (schemas : ∀ root, .builder root ∈ factory.schemas → standings root = .schema)
    (made : outcome factory.run store = (.ok root, middle)) (holds : middle.HoldsValid root) :
    store.Extends middle ∧
      ∃ charter, middle.Honours ⟨standings, store.Passing standings⟩ charter ∧ charter.IsSchema root := by
  have grown : store.Extends middle := by
    have grown := Builder.adds_factory factory store
    rwa [made] at grown
  have stands : (Operand.hand factory.schemas).Stands store standings := by
    intro held listed
    obtain ⟨root, among, rfl⟩ := Operand.mem_hand.mp listed
    have schema := schemas root among
    exact ⟨schema, Slot.within_node.mpr (arranged.inside (by simp [schema]))⟩
  have goes : Change.GoesFrom [] 0 ⟨Operand.hand factory.schemas, store⟩ factory.run
      fun later root => (Standing.schema, .node root) ∈ later :=
    Builder.goes_factory Operand.given_hand _ _ fun _ held => held
  obtain ⟨standings', last, arranged', advances, stands', ends, -⟩ :=
    goes.arranged arranged stands Hand.stands_nil made
  have schema := (stands' _ ends).1
  exact ⟨grown, ⟨standings', middle.Passing standings'⟩,
    ⟨arranged'.lawful, Store.passing_grows arranged grown advances⟩,
    holds.passing schema, schema⟩

namespace Edit

/-- A successful edit of a valid schema that requires no name once more keeps all schemas that pass. -/
theorem honours_of_ok (arranged : store.Arranged False standings) (schema : standings address = .schema)
    (read : store.tree? (.node address) = some (.object fields)) (valid : Valid fields) (named : edit.Named)
    (schemas : ∀ root, .builder root ∈ edit.schemas → standings root = .schema) (takes : edit.TakesValid store)
    (ran : outcome (edit.run address) store = (.ok (), later)) (fresh : ¬ edit.Repeats store fields) :
    ∃ charter, later.Honours ⟨standings, store.Passing standings⟩ charter := by
  have lawful := arranged.lawful
  obtain ⟨isSchema, members, describes, keys⟩ := arranged.describes_of_valid schema read valid
  have distinct := valid.distinct
  have given : ∀ operand ∈ edit.schemas, Builder.Sound ⟨standings, store.Passing standings⟩ operand := by
    rintro operand listed root rfl
    exact ⟨(takes.given root listed).passing (schemas root listed), schemas root listed⟩
  cases edit with
  | setOptional names =>
      obtain ⟨texts, listed⟩ := named
      exact ⟨_, Builder.setOptionalNames_honours lawful isSchema listed ran⟩
  | setRequired names =>
      obtain ⟨texts, listed⟩ := named
      exact ⟨_, Builder.setRequiredNames_honours lawful isSchema describes distinct listed ran⟩
  | toOptionals =>
      obtain rfl : store.replace address (Fields.erase (store.cell address) "required") = later :=
        congrArg Prod.snd ran
      exact ⟨_, (lawful.erase isSchema "required").honours⟩
  | toDeepOptionals => exact ⟨_, Builder.deepOptionals_honours lawful isSchema ran⟩
  | add isRequired name schema =>
      obtain ⟨text, rfl⟩ := named
      refine Builder.addProperty_honours lawful isSchema
        (given schema (by simp [Edit.schemas])) describes distinct ?_ ran
      rintro rfl listed
      exact fresh (.add listed)
  | addMade isRequired name factory =>
      obtain ⟨text, rfl⟩ := named
      obtain ⟨root, middle, made, ran⟩ := outcome_bind_eq_ok.mp ran
      obtain ⟨grown, charter, honours, root'⟩ := Factory.sound_of_valid arranged schemas made (takes.made rfl made)
      obtain ⟨charter', more⟩ := Builder.addProperty_honours honours.lawful (isSchema.mono honours.grows)
        (by rintro _ ⟨⟩; exact root') (describes.extend grown) distinct
        (by rintro rfl listed; exact fresh (.addMade listed)) ran
      exact ⟨charter', honours.trans more⟩
  | addAdditional schema =>
      exact ⟨_, Builder.addAdditional_honours lawful isSchema (given schema (by simp [Edit.schemas])) ran⟩
  | rename isRequired name newName =>
      obtain ⟨⟨text, rfl⟩, new, rfl⟩ := named
      refine Builder.rename_honours lawful isSchema describes distinct ?_ ran
      rintro rfl held listed
      exact fresh (.rename (keys ▸ held) listed)
  | pick names =>
      obtain ⟨texts, listed⟩ := named
      exact Builder.pickListed_honours lawful isSchema describes distinct listed ran
  | pickAdditional names additional =>
      obtain ⟨⟨texts, listed⟩, more⟩ := named
      exact Builder.pickAdditional_honours lawful isSchema describes distinct listed more ran
  | «omit» names =>
      obtain ⟨texts, listed⟩ := named
      exact Builder.omitNames_honours lawful isSchema describes distinct listed ran
  | transform schema names =>
      obtain ⟨texts, listed⟩ := named
      exact Builder.transform_honours lawful isSchema (given schema (by simp [Edit.schemas])) listed ran
  | transformToArray names => exact Builder.transformToArray_honours lawful isSchema named ran
  | merge other =>
      obtain ⟨root, others, otherNames, rfl, theirs, members', names', -, requires, -, keeps⟩ :=
        Builder.merge_honours lawful isSchema (given other (by simp [Edit.schemas])) describes ran
      obtain ⟨theirFields, read', valid'⟩ := takes.given root (by simp [Edit.schemas])
      obtain ⟨_, ⟨⟩, each⟩ := Store.denotes_node.mp ⟨_, read'⟩
      obtain ⟨rfl, keys'⟩ := theirs.read each
      refine keeps (requires.mpr ⟨distinct, fun name taken new required listed => fresh ?_⟩)
      exact .merge read' (keys' ▸ taken) required (keys ▸ new) listed
  | overwrite other =>
      exact Builder.overwrite_honours lawful isSchema (given other (by simp [Edit.schemas])) describes distinct ran

/-- A successful edit of a valid schema that requires a name once more leaves a schema that requires it twice. -/
theorem repeated_of_ok (arranged : store.Arranged False standings) (schema : standings address = .schema)
    (read : store.tree? (.node address) = some (.object fields)) (valid : Valid fields)
    (schemas : ∀ root, .builder root ∈ edit.schemas → standings root = .schema) (takes : edit.TakesValid store)
    (ran : outcome (edit.run address) store = (.ok (), later)) (repeats : edit.Repeats store fields) :
    ∃ members names, later.Describes address members names ∧ ¬ names.Nodup ∧ ∀ name ∈ names, Text.Written name := by
  obtain ⟨isSchema, members, describes, keys⟩ := arranged.describes_of_valid schema read valid
  have written : ∀ name ∈ requiredNames fields, Text.Written name :=
    fun name listed => valid.written name (.inl listed)
  have added {store : Store} {name : String} {operand : Operand} {members : Fields String Slot}
      (describes : store.Describes address members (requiredNames fields)) (listed : name ∈ requiredNames fields)
      (ran : outcome (Builder.addProperty address true (.string name) operand) store = (.ok (), later)) :
      ∃ members names, later.Describes address members names ∧ ¬ names.Nodup ∧
        ∀ name ∈ names, Text.Written name := by
    obtain ⟨-, slot, shown⟩ := Builder.addProperty_describes describes ran
    refine ⟨_, _, shown, fun distinct => (Builder.nodup_append_singleton.mp distinct).2 listed,
      fun other member => ?_⟩
    rcases List.mem_append.mp member with member | member
    · exact written other member
    · exact List.mem_singleton.mp member ▸ written name listed
  cases repeats with
  | add listed => exact added describes listed ran
  | addMade listed =>
      obtain ⟨root, middle, made, ran⟩ := outcome_bind_eq_ok.mp ran
      obtain ⟨grown, -⟩ := Factory.sound_of_valid arranged schemas made (takes.made rfl made)
      exact added (describes.extend grown) listed ran
  | rename held listed =>
      obtain ⟨members', names', shown, repeated, among⟩ := Builder.rename_repeats describes (keys ▸ held) listed ran
      exact ⟨members', names', shown, repeated, fun name member => written name (among member)⟩
  | @merge name root theirFields read' taken required new listed =>
      have given : Builder.Sound ⟨standings, store.Passing standings⟩ (.builder root) := by
        rintro _ ⟨⟩
        have schema := schemas root (by simp [Edit.schemas])
        exact ⟨(takes.given root (by simp [Edit.schemas])).passing schema, schema⟩
      obtain ⟨_, others, otherNames, ⟨⟩, theirs, members', names', shown, requires, among, -⟩ :=
        Builder.merge_honours arranged.lawful isSchema given describes ran
      obtain ⟨_, ⟨⟩, each⟩ := Store.denotes_node.mp ⟨_, read'⟩
      obtain ⟨rfl, keys'⟩ := theirs.read each
      obtain ⟨fields', read'', valid'⟩ := takes.given root (by simp [Edit.schemas])
      obtain rfl := Json.object.inj (Option.some.inj (read''.symm.trans read'))
      refine ⟨members', names', shown, fun distinct => ?_, fun name member => ?_⟩
      · exact (requires.mp distinct).2 name (keys' ▸ taken) (keys ▸ new) required listed
      · rcases List.mem_append.mp (among member) with listed | taken
        · exact written name listed
        · exact valid'.written name (.inr (keys'.symm ▸ taken))

end Edit

namespace Session

theorem outcome_of_edit {session later : Session} {name : String} {root : Nat} {edit : Edit}
    (bound : session.operand? name = some (.builder root))
    (ran : outcome (Session.edit name edit) session = (.ok (), later)) :
    outcome (edit.run root) session.store = (.ok (), later.store) := by
  obtain ⟨target, found⟩ := outcome_builder_of_bound bound
  rw [Session.edit, outcome_bind_ok found] at ran
  dsimp only at ran
  rw [outcome_change] at ran
  rcases done : outcome (edit.run root) session.store with ⟨failure | ⟨⟩, store⟩ <;> rw [done] at ran
  · cases ran
  · cases ran
    rfl

/-- After a successful edit of a builder with a valid schema, with texts for names and valid schemas for
arguments, all schemas of builders that were valid pass the metaschema, as far as they are finite. Only if the
edit makes a required name a new property, and requires it once more, the schema fails. -/
theorem Reached.edit_keeps_valid {session later : Session} {name : String} {root : Nat} {edit : Edit}
    {fields : List (Key × Json)} (reached : session.Reached) (bound : session.operand? name = some (.builder root))
    (read : session.store.tree? (.node root) = some (.object fields)) (valid : Valid fields) (named : edit.Named)
    (known : ∀ operand ∈ edit.schemas, session.Has operand) (takes : edit.TakesValid session.store)
    (ran : outcome (Session.edit name edit) session = (.ok (), later)) :
    (¬ edit.Repeats session.store fields → ∀ other place, session.operand? other = some (.builder place) →
        session.store.HoldsValid place → ∀ document, later.store.tree? (.node place) = some document →
          document.wellFormed = true ∧ Metaschema.isSchema document = true) ∧
      (edit.Repeats session.store fields → ∀ document, later.store.tree? (.node root) = some document →
        Metaschema.isSchema document = false) := by
  obtain ⟨standings, arranged⟩ := reached.arranged
  have schemas : ∀ root, .builder root ∈ edit.schemas → standings root = .schema := by
    intro root listed
    obtain ⟨other, bound⟩ := known _ listed root rfl
    exact arranged.roots bound
  have done := outcome_of_edit bound ran
  constructor
  · intro fresh other place bound' holds document read'
    obtain ⟨charter, honours⟩ :=
      Edit.honours_of_ok arranged.store (arranged.roots bound) read valid named schemas takes done fresh
    have schema := arranged.roots bound'
    have isSchema : charter.IsSchema place := Charter.IsSchema.mono ⟨holds.passing schema, schema⟩ honours.grows
    obtain ⟨passes, formed⟩ := honours.lawful.passes document isSchema.fits ⟨_, read'⟩
    exact ⟨formed, isSchema_iff.mpr passes⟩
  · intro repeats document read'
    obtain ⟨members, names, describes, repeated, written⟩ :=
      Edit.repeated_of_ok arranged.store (arranged.roots bound) read valid schemas takes done repeats
    exact describes.not_isSchema written repeated ⟨_, read'⟩

/-- A document that requires a name which it does not declare. -/
def undeclaringDocument : Json :=
  .object [("type", .string "object"), ("required", .array [.string "x"]), ("additionalProperties", .bool false)]

theorem valid_undeclaringDocument : ∃ fields, undeclaringDocument = .object fields ∧ Valid fields := by
  refine ⟨_, rfl, by decide, by decide, ?_⟩
  rintro name (listed | listed)
  · obtain rfl : name = "x" := by simpa [requiredNames, Fields.get?] using listed
    decide
  · simp [Property.schemas, Fields.get?, Fields.keys] at listed

theorem valid_stringDocument : Valid [("type", .string "string")] where
  formed := by decide
  isSchema := by decide
  written := by
    rintro name (listed | listed)
    · simp [requiredNames, Fields.get?] at listed
    · simp [Property.schemas, Fields.get?, Fields.keys] at listed

/-- Adding a property of another name keeps the document valid. -/
theorem undeclaringDocument_extended : ∃ session later : Session, ∃ document, session.Reached ∧
    session.operand? "b" = some (.builder 0) ∧ session.store.tree? (.node 0) = some undeclaringDocument ∧
    outcome (Session.edit "b" (.add true (.string "y") (.builder 1))) session = (.ok (), later) ∧
    later.store.tree? (.node 0) = some document ∧ Metaschema.isSchema document = true := by
  have wrapped := Reached.call (.wrap "b" undeclaringDocument .null) (has_of_nil rfl) (.start [] .empty)
  have made := Reached.call (.make "s" (.scalar .string (.value .null))) (has_of_nil rfl) wrapped
  obtain ⟨session, reached, bound, given, read, read', later, ran, document, read''⟩ : ∃ session : Session,
      session.Reached ∧ session.operand? "b" = some (.builder 0) ∧ session.operand? "s" = some (.builder 1) ∧
        session.store.tree? (.node 0) = some undeclaringDocument ∧
        session.store.tree? (.node 1) = some (.object [("type", .string "string")]) ∧
        ∃ later, outcome (Session.edit "b" (.add true (.string "y") (.builder 1))) session = (.ok (), later) ∧
          ∃ document, later.store.tree? (.node 0) = some document :=
    ⟨_, made, rfl, rfl, rfl, rfl, _, rfl, _, rfl⟩
  obtain ⟨fields, same, valid⟩ := valid_undeclaringDocument
  have known : ∀ operand ∈ [Operand.builder 1], session.Has operand := by
    intro operand listed address built
    obtain rfl := List.mem_singleton.mp listed
    obtain rfl := Operand.builder.inj built
    exact ⟨"s", given⟩
  have takes : Edit.TakesValid (.add true (.string "y") (.builder 1)) session.store := by
    refine ⟨fun root listed => ?_, fun other => by cases other⟩
    obtain rfl := Operand.builder.inj (List.mem_singleton.mp listed)
    exact ⟨_, read', valid_stringDocument⟩
  have named : Edit.Named (.add true (.string "y") (.builder 1)) := ⟨"y", rfl⟩
  have read₀ := read
  rw [same] at read₀
  obtain ⟨keeps, -⟩ := reached.edit_keeps_valid bound read₀ valid named known takes ran
  have fresh : ¬ Edit.Repeats session.store fields (.add true (.string "y") (.builder 1)) := by
    rintro (listed | _)
    obtain rfl := Json.object.inj same
    revert listed
    decide
  exact ⟨session, later, document, reached, bound, read, ran, read'',
    (keeps fresh "b" 0 bound ⟨fields, read₀, valid⟩ document read'').2⟩

/-- Adding the property that the document requires leaves it invalid: the name is required twice. -/
theorem undeclaringDocument_invalidated : ∃ session later : Session, ∃ document document' document'',
    session.Reached ∧
    session.operand? "b" = some (.builder 0) ∧ session.store.tree? (.node 0) = some document ∧
    Metaschema.isSchema document = true ∧ session.operand? "s" = some (.builder 1) ∧
    session.store.tree? (.node 1) = some document' ∧ Metaschema.isSchema document' = true ∧
    outcome (Session.edit "b" (.add true (.string "x") (.builder 1))) session = (.ok (), later) ∧
    later.store.tree? (.node 0) = some document'' ∧ Metaschema.isSchema document'' = false := by
  have wrapped := Reached.call (.wrap "b" undeclaringDocument .null) (has_of_nil rfl) (.start [] .empty)
  have made := Reached.call (.make "s" (.scalar .string (.value .null))) (has_of_nil rfl) wrapped
  exact ⟨_, _, _, _, _, made, rfl, rfl, by decide, rfl, rfl, by decide, rfl, rfl, by decide⟩

end Session

end SchemaAlgebra
