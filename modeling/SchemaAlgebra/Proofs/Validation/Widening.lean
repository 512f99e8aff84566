import SchemaAlgebra.Proofs.Builder.Properties
import SchemaAlgebra.Proofs.Validation.Rewriting
import SchemaAlgebra.Proofs.Validation.Verdict

/-!
Properties that may be lists too. A schema or lists of it is an exclusive choice, so a value that the schema accepts is
accepted still exactly if it is refused as a list. The keywords beside the properties see the same names declared as
before. So what a schema without references accepts it still accepts after its properties are so widened, exactly if the
values of all these are refused as lists.
-/

namespace SchemaAlgebra

open Outcome Evaluation Property

namespace Schema

/-- A property of the named ones may also be a list of what it was. -/
def widenedSchema (names : List String) (key : Key) (schema : Json) : Json :=
  if key ∈ names.map Key.text then orElse (listsOf schema) schema else schema

/-- Properties of which the named ones may also be lists. -/
def widenedMembers (members : List (Key × Json)) (names : List String) : List (Key × Json) :=
  members.map fun member => (member.1, widenedSchema names member.1 member.2)

/-- The schema object whose named properties may also be lists of what they were. -/
def widened (fields : List (Key × Json)) (names : List String) : List (Key × Json) :=
  match Fields.get? fields "properties" with
  | some (.object members) => Fields.put fields "properties" (.object (widenedMembers members names))
  | _ => fields

variable {fields members : List (Key × Json)} {names : List String}

theorem widened_of_get? (found : Fields.get? fields "properties" = some (.object members)) :
    widened fields names = Fields.put fields "properties" (.object (widenedMembers members names)) := by
  rw [widened, found]

theorem widened_of_missing (missing : Fields.get? fields "properties" = none) : widened fields names = fields := by
  rw [widened, missing]

theorem get?_widened {key : Key} (other : key ≠ "properties") :
    Fields.get? (widened fields names) key = Fields.get? fields key := by
  unfold widened
  split
  · rw [Fields.get?_put, if_neg other.symm]
  · rfl

theorem keys_widenedMembers (members : List (Key × Json)) (names : List String) :
    Fields.keys (widenedMembers members names) = Fields.keys members := by
  rw [widenedMembers, Fields.keys, List.map_map]
  rfl

theorem keys_widened (fields : List (Key × Json)) (names : List String) :
    Fields.keys (widened fields names) = Fields.keys fields := by
  unfold widened
  split
  · next found => rw [Fields.keys_put, if_pos (by rw [Fields.has, found]; rfl)]
  · rfl

/-- Properties that are remade to be lists too, one name after the other, are so widened. -/
theorem entries_remade (once : names.Nodup) (mine : List Property) :
    entries (names.foldl (remake fun schema => orElse (listsOf schema) schema) mine) =
      widenedMembers (entries mine) names := by
  rw [foldl_remake _ _ once, entries, entries, widenedMembers, List.map_map, List.map_map]
  refine List.map_congr_left fun property _ => ?_
  by_cases named : property.name ∈ names
  · simp [widenedSchema, named]
  · simp [widenedSchema, named]

theorem count_widenedSchema {key : Key} {schema : Json} (absent : Reference.count "$ref" schema = 0) :
    Reference.count "$ref" (widenedSchema names key schema) = 0 := by
  unfold widenedSchema
  split
  · simp [orElse, listsOf, Reference.count, Reference.countFields, Reference.countItems, absent]
  · exact absent

/-- A schema without references has none after its properties are widened. -/
theorem count_widened (closed : Reference.count "$ref" (.object fields) = 0) :
    Reference.count "$ref" (.object (widened fields names)) = 0 := by
  unfold widened
  split
  · next members found =>
      have inside := (Reference.count_eq_zero closed).2
      rw [Reference.count, Reference.countFields_eq_zero]
      intro entry listed
      rcases Fields.mem_put listed with rfl | old
      · refine ⟨by simp, ?_⟩
        rw [Reference.count, Reference.countFields_eq_zero, widenedMembers, List.forall_mem_map]
        intro member among
        have absent := (Reference.count_eq_zero (inside _ (Fields.mem_of_get? found)).2).2 member among
        exact ⟨absent.1, count_widenedSchema absent.2⟩
      · exact inside entry old
  · exact closed

end Schema

namespace Metaschema

open Schema

variable {fields : List (Key × Json)} {names : List String} {key : Key} {schema : Json} {role : Walk.Role}

/-- An object passes if each of its keywords has a rule that its value holds. -/
theorem holds_of_ruled (each : ∀ keyword value, Fields.get? fields (.text keyword) = some value →
    ∃ rule, (keyword, rule) ∈ rules ∧ Holds rule value) : Holds .schema (.object fields) := by
  refine holds_object.mpr fun keyword rule ruled value found => ?_
  obtain ⟨rule', ruled', holds⟩ := each keyword value found
  exact eq_of_ruled ruled' ruled ▸ holds

/-- A schema passes wherever one may stand. -/
theorem PassesAs.anywhere (passes : PassesAs .schema schema) (own : role.isNode = true) : PassesAs role schema := by
  cases schema with
  | object fields => exact .node own passes
  | array items => cases passes.array.1
  | _ =>
      obtain ⟨-, b, same⟩ := passes.scalar rfl rfl
      exact same ▸ .bool b own

/-- What passes does so in lists. -/
theorem holds_listsOf (passes : PassesAs .schema schema) : PassesAs .schema (listsOf schema) := by
  refine holds_of_ruled fun keyword value found => ?_
  rw [Fields.get?_cons] at found
  split at found
  · next same =>
      cases found
      cases same
      exact ⟨.types, by decide, .toFirst, rfl⟩
  · rw [Fields.get?_cons] at found
    split at found
    · next same =>
        cases found
        cases same
        have listed : PassesAs .schemaOrList schema := passes.anywhere rfl
        exact ⟨.schemaOrSchemas, by decide, listed⟩
    · cases found

/-- What passes does so in a choice. -/
theorem holds_orElse {other : Json} (passes : PassesAs .schema schema) (passes' : PassesAs .schema other) :
    PassesAs .schema (orElse other schema) := by
  refine holds_of_ruled fun keyword value found => ?_
  rw [Fields.get?_cons] at found
  split at found
  · next same =>
      cases found
      cases same
      have branches : PassesAs .branches (.array [schema, other]) :=
        PassesAs.list rfl (by simp) (by simp [passes, passes'])
      exact ⟨.schemas, by decide, branches⟩
  · cases found

theorem holds_widenedSchema (passes : PassesAs .schema schema) : PassesAs .schema (widenedSchema names key schema) := by
  unfold widenedSchema
  split
  · exact holds_orElse passes (holds_listsOf passes)
  · exact passes

/-- A schema passes the metaschema after its properties are widened. -/
theorem isSchema_widened (isSchema : isSchema (.object fields) = true) :
    Metaschema.isSchema (.object (widened fields names)) = true := by
  have holds := isSchema_iff.mp isSchema
  refine isSchema_iff.mpr (holds_object.mpr fun keyword rule ruled value found => ?_)
  by_cases same : keyword = "properties"
  · subst same
    cases found' : Fields.get? fields "properties" with
    | none =>
        rw [widened_of_missing found'] at found
        exact holds_object.mp holds _ rule ruled value found
    | some argument =>
        have passes : PassesAs .members argument := Passes.keyword holds (by decide) found'
        cases argument with
        | object members =>
            rw [widened_of_get? found', Fields.get?_put_self] at found
            cases found
            obtain rfl : Rule.schemaMap = rule := eq_of_ruled (by decide) ruled
            obtain ⟨notOne, -⟩ | ⟨-, each⟩ := passes.object
            · cases notOne
            · refine PassesAs.members (List.forall_mem_map.mpr fun member listed => ?_)
              exact holds_widenedSchema (each member listed)
        | _ => cases passes.isObject
  · rw [get?_widened (by simpa using same)] at found
    exact holds_object.mp holds _ rule ruled value found

end Metaschema

namespace Structure

variable {node node' : Node} {argument : Parts} {extent : Extent} {value : Json}

/-- Without normalization a keyword is evaluated alike in nodes that declare the same names and agree on the arguments
beside the properties. -/
theorem evaluate_plain_congr {keyword : String}
    (same : ∀ other, other ≠ "properties" → node'.argument? other = node.argument? other)
    (declares : node'.declares = node.declares) :
    evaluate node' keyword argument .plain extent value = evaluate node keyword argument .plain extent value := by
  have patterns : node'.patterns = node.patterns := by
    rw [Node.patterns, Node.patterns, same "patternProperties" (by decide)]
  have message : undeclaredMessage node' = undeclaredMessage node := by
    funext names
    rw [undeclaredMessage, undeclaredMessage, same "patternProperties" (by decide), patterns]
  have undeclared : undeclaredNames node' = undeclaredNames node := by
    funext value
    rw [undeclaredNames, undeclaredNames, patterns, declares]
  unfold evaluate
  split
  · rfl
  · rfl
  · simp only [required, Options.plain, Bool.false_eq_true, if_false]
  · rfl
  · simp only [additionalProperties, undeclared, message]
  · rfl
  · rfl
  · rfl
  · simp only [additionalItems, same "items" (by decide)]
  · rfl
  · rfl
  · rfl
  · rfl
  · rfl
  · simp only [conditional, same "then" (by decide), same "else" (by decide), apply_ite]
  · rfl

/-- A value that one part accepts is accepted by exactly one of two parts if the other one refuses it. -/
theorem oneOf_pair {part other : Part} (keeps : other.Keeps .plain)
    (accepted : part.enter .plain .all value = accept value) :
    oneOf [part, other] .plain value = accept value ↔ accepts other.run .plain value = .ok false := by
  have first : firstValid .plain [part, other] value = .ok (value, some (part, [other])) := by
    simp [firstValid, accepted, isValid]
  have kept := (keeps .first value).1
  rw [oneOf, first]
  simp only [accepting, accepts]
  cases fault : (other.run .plain .first value).fault with
  | some fault => simp [fail_ne_accept]
  | none =>
      cases valid : (other.run .plain .first value).isValid with
      | true => simp [bind, Except.bind, pure, Except.pure, reject_ne_accept]
      | false => simp [bind, Except.bind, pure, Except.pure, kept]

end Structure

namespace Validation

/-- A look at the value up to the first problem that the schema has with it finds one. -/
def Refuses (schema value : Json) : Prop :=
  accepts (alone schema).run .plain value = .ok false

variable {fields members : List (Key × Json)} {names : List String} {schema value child : Json} {extent : Extent}

theorem count_orElse {other : Json} (closed : Reference.count "$ref" schema = 0)
    (closed' : Reference.count "$ref" other = 0) : Reference.count "$ref" (orElse other schema) = 0 := by
  simp [orElse, Reference.count, Reference.countFields, Reference.countItems, closed, closed']

theorem count_listsOf (closed : Reference.count "$ref" schema = 0) : Reference.count "$ref" (listsOf schema) = 0 := by
  simp [listsOf, Reference.count, Reference.countFields, closed]

/-- A choice is evaluated as such. -/
theorem run_orElse {other : Json} (closed : Reference.count "$ref" (orElse other schema) = 0) (value : Json) :
    (alone (orElse other schema)).run .plain extent value = Structure.oneOf [alone schema, alone other] .plain value := by
  rw [orElse, alone_run_of_get? closed rfl]
  change Outcome.chain extent [_] value = _
  rw [Outcome.chain, List.foldl_cons, List.foldl_nil, accept_andThen]
  simp only [Structure.evaluate, argumentWith_branches, Json.elements?, given]
  rfl

/-- A value that a schema accepts is accepted by the choice between it and another one if that refuses the value. -/
theorem enter_orElse {other : Json} (closed : Reference.count "$ref" schema = 0)
    (closed' : Reference.count "$ref" other = 0) (accepted : (alone schema).enter .plain .all child = accept child) :
    (alone (orElse other schema)).enter .plain .all child = accept child ↔ Refuses other child := by
  have entered : Reference.enter "" (orElse other schema) =
      .ok (Reference.locationIn "" [("oneOf", .array [schema, other])]) := rfl
  rw [alone_enter (count_orElse closed closed'), entered, given, run_orElse (count_orElse closed closed')]
  exact Structure.oneOf_pair (alone_keeps other) accepted

/-- What can be shown and is no list is refused as one. -/
theorem refuses_listsOf (closed : Reference.count "$ref" schema = 0) (notArray : child.isArray = false)
    (showable : child.isShowable = true) : Refuses (listsOf schema) child := by
  have typed : Keyword.check "type" (.string "array") child = .reject child "type" [child]
      (child.literal ++ " is not of type " ++ Json.literals [.string "array"]) := by
    cases child <;> first | rfl | cases notArray
  have first : (alone (listsOf schema)).run .plain .first child = .reject child "type" [child]
      (child.literal ++ " is not of type " ++ Json.literals [.string "array"]) := by
    rw [listsOf, alone_run_of_get? (count_listsOf closed) rfl]
    change Outcome.chain .first [fun value => Keyword.check "type" (.string "array") value, _] child = _
    rw [Outcome.chain, List.foldl_cons, accept_andThen, List.foldl_cons, List.foldl_nil, typed, andThen, if_pos]
    simp [reject, showable, isOver]
  simp [Refuses, accepts, first, reject, showable, isValid]

/-- The properties that are declared have the names that they had. -/
theorem declares_widened (found : Fields.get? fields "properties" = some (.object members)) :
    (nodeWith noReference "" (Schema.widened fields names)).declares = (nodeWith noReference "" fields).declares := by
  have keys := Schema.keys_widenedMembers members names
  funext name
  rw [Node.declares, Node.declares, argument?_nodeWith, argument?_nodeWith, Schema.widened_of_get? found]
  simp only [Fields.get?_put_self, found, Option.map_some, argumentWith_self, partWith_schema]
  rw [Json.has, Json.has, Json.get?, Json.get?, keys, ← Fields.has, ← Fields.has, Fields.has_eq_decide,
    Fields.has_eq_decide, keys]

theorem accepts_widened_of_get? (formed : (Json.object fields).wellFormed = true)
    (closed : Reference.count "$ref" (.object fields) = 0)
    (found : Fields.get? fields "properties" = some (.object members)) (accepted : Accepts (.object fields) value) :
    Accepts (.object (Schema.widened fields names)) value ↔
      ∀ name ∈ names, ∀ schema, Fields.get? members (.text name) = some schema →
        ∀ child, value.child? (.member (.text name)) = some child → Refuses (listsOf schema) child := by
  have distinct := ((Json.wellFormed_object fields).mp formed).2.1
  have distinct' := ((Json.wellFormed_object members).mp
    (((Json.wellFormed_object fields).mp formed).2.2 _ (Fields.mem_of_get? found))).2.1
  have inside := (Reference.count_eq_zero ((Reference.count_eq_zero closed).2 _ (Fields.mem_of_get? found)).2).2
  rw [accepts_iff_keywords distinct closed] at accepted
  have each := (Structure.properties_plain_iff (fun _ _ _ _ => rfl) members).mp (accepted "properties" _ found)
  -- every other keyword is evaluated as before
  have step : Accepts (.object (Schema.widened fields names)) value ↔ Structure.properties
      (argumentWith noReference "" (.object (Schema.widenedMembers members names))) .plain .all value = accept value := by
    rw [accepts_iff_keywords (by rwa [Schema.keys_widened]) (Schema.count_widened closed)]
    constructor
    · exact fun all => all "properties" _ (by rw [Schema.widened_of_get? found, Fields.get?_put_self])
    · intro properties keyword argument there
      by_cases same : keyword = "properties"
      · subst same
        rw [Schema.widened_of_get? found, Fields.get?_put_self] at there
        cases there
        exact properties
      · rw [Schema.get?_widened (by simpa using same)] at there
        rw [Structure.evaluate_plain_congr (fun other different => ?_) (declares_widened found)]
        · exact accepted keyword argument there
        · rw [argument?_nodeWith, argument?_nodeWith, Schema.get?_widened (by simpa using different)]
  rw [step, Structure.properties_plain_iff (fun _ _ _ _ => rfl), Schema.widenedMembers, List.forall_mem_map]
  constructor
  · intro all name named schema declared child there
    have listed := Fields.mem_of_get? declared
    have choice := all _ listed child there
    rw [Schema.widenedSchema, if_pos (List.mem_map_of_mem named)] at choice
    have absent := (inside _ listed).2
    exact (enter_orElse absent (count_listsOf absent) (each _ listed child there)).mp choice
  · intro all member listed child there
    have accepted := each member listed child there
    unfold Schema.widenedSchema
    split
    · next named =>
        obtain ⟨name, named, same⟩ := List.mem_map.mp named
        have absent := (inside _ listed).2
        refine (enter_orElse absent (count_listsOf absent) accepted).mpr ?_
        exact all name named member.2 (same ▸ Fields.get?_of_mem distinct' listed) child (same ▸ there)
    · exact accepted

/-- A schema without references accepts a value still after its properties are widened, exactly if what the value has
under their names is refused as a list. -/
theorem accepts_widened (formed : (Json.object fields).wellFormed = true)
    (closed : Reference.count "$ref" (.object fields) = 0) (isSchema : Metaschema.isSchema (.object fields) = true)
    (accepted : Accepts (.object fields) value) :
    Accepts (.object (Schema.widened fields names)) value ↔
      ∀ name ∈ names, ∀ schema, Fields.get? (schemas fields) name = some schema →
        ∀ child, value.child? (.member (.text name)) = some child → Refuses (listsOf schema) child := by
  cases found : Fields.get? fields "properties" with
  | none =>
      rw [Schema.widened_of_missing found, schemas_of_missing found]
      exact iff_of_true accepted fun _ _ _ declared => nomatch declared
  | some argument =>
      have passes := Metaschema.passes_of_isSchema isSchema
      have isMap : Metaschema.PassesAs .members argument := passes.keyword (by decide) found
      cases argument with
      | object members =>
          rw [accepts_widened_of_get? formed closed found accepted, schemas_of_get? found]
          simp only [get?_textual]
      | _ => cases isMap.isObject

end Validation

end SchemaAlgebra
