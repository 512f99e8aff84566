import SchemaAlgebra.Schema.Draft
import SchemaAlgebra.Validation.Reference
import SchemaAlgebra.Validation.Structure

/-!
Evaluation of schemas. `partWith` makes a part of a schema by recursion on the schema, given what a
reference means; `partIn` gives references their meaning in a scope, up to a number of references in a
row that no finite chain needs.

A schema that names the draft 7 metaschema is evaluated without normalization, and so is everything
below it.
-/

namespace SchemaAlgebra

namespace Evaluation

/-- What a reference means at a location: the evaluation of what it names. -/
abbrev Meaning := String → Json → Options → Extent → Json → Outcome

/-- The options in force inside a schema object. A name of a metaschema is a text; another value that
counts as absent is passed over. -/
def optionsIn (fields : List (Key × Json)) (options : Options) : Except Fault Options :=
  match Fields.get? fields "$schema" with
  | some (.string name) => .ok (if Uri.spells Draft.location name then .plain else options)
  | some value =>
      if value.key?.isNone then .error .unusable
      else if value.isTruthy then .error .noMembers
      else .ok options
  | none => .ok options

/-- The evaluation of a schema object at a location, under given options: a reference stands alone,
otherwise every keyword counts. -/
def evaluateNode (meaning : Meaning) (location : String) (fields : List (Key × Json)) (node : Node)
    (options : Options) (extent : Extent) (value : Json) : Outcome :=
  match Fields.get? fields "$ref" with
  | none | some .null =>
      Outcome.chain extent
        (node.map fun entry => Structure.evaluate node entry.1 entry.2 options extent) value
  | some reference => meaning location reference options extent value

/-- The branches that coercion tries for a schema without type. -/
def coercionBranches (node : Node) : Except Fault (List Part) := do
  let found ← ["oneOf", "anyOf", "allOf"].mapM fun keyword =>
    match node.argument? keyword with
    | some parts => if parts.self.schema.isTruthy then parts.branches else .ok []
    | none => .ok []
  return found.flatten.filter fun part => part.schema.isObject

/-- Whether an evaluation accepts a scalar. -/
def accepts (run : Options → Extent → Json → Outcome) (options : Options) (value : Json) :
    Except Fault Bool :=
  let outcome := run options .first value
  match outcome.fault with
  | some fault => .error fault
  | none => .ok outcome.isValid

/-- The first branch that converts a value to one the whole schema accepts. -/
def firstAccepted (run : Options → Extent → Json → Outcome) (options : Options) (value : Json) :
    List Part → Except Fault (Option Json)
  | [] => .ok none
  | branch :: rest => do
      match ← branch.coerce options value with
      | some candidate =>
          if ← accepts run options candidate then return some candidate
          else firstAccepted run options value rest
      | none => firstAccepted run options value rest

/-- The conversion of a value toward a schema object: by its type if it declares one, otherwise, if
the value is not accepted as it is, by the first branch whose conversion is. -/
def coerceNode (fields : List (Key × Json)) (node : Node)
    (run : Options → Extent → Json → Outcome) (options : Options) (value : Json) :
    Except Fault (Option Json) :=
  if value.isContainer then .ok none
  else
    match Coercion.declaredTypes (.object fields) with
    | [] => do
        match ← coercionBranches node with
        | [] => return none
        | branches =>
            if ← accepts run options value then return none
            else firstAccepted run options value branches
    | types => Coercion.conversion? .byValue (types.map .string) value

/-- The evaluation of a schema object whose location is known. -/
def runNode (meaning : Meaning) (fields : List (Key × Json)) (node : Node) (location : String)
    (options : Options) (extent : Extent) (value : Json) : Outcome :=
  Outcome.given (optionsIn fields options) value fun options =>
    evaluateNode meaning location fields node options extent value

mutual

/-- The part of a schema that stands at a location, given what references mean. -/
def partWith (meaning : Meaning) (location : String) : Json → Part
  | .object fields =>
      let run := fun options extent value =>
        runNode meaning fields (nodeWith meaning location fields) location options extent value
      { schema := .object fields
        run := run
        enter := fun options extent value =>
          Outcome.given (Reference.enter location (.object fields)) value fun inner =>
            runNode meaning fields (nodeWith meaning inner fields) inner options extent value
        coerce := fun options value =>
          coerceNode fields (nodeWith meaning location fields) run options value }
  | schema => .flat schema

/-- The node of a schema object; only texts are keywords. -/
def nodeWith (meaning : Meaning) (location : String) : List (Key × Json) → Node
  | [] => []
  | (.text keyword, argument) :: rest =>
      (keyword, ⟨partWith meaning location argument, itemsOf meaning location argument,
        membersOf meaning location argument⟩) :: nodeWith meaning location rest
  | _ :: rest => nodeWith meaning location rest

/-- The items of a keyword's argument. -/
def itemsOf (meaning : Meaning) (location : String) : Json → List Part
  | .array items => partsWith meaning location items
  | _ => []

/-- The members of a keyword's argument. -/
def membersOf (meaning : Meaning) (location : String) : Json → List (Key × Part)
  | .object fields => memberPartsWith meaning location fields
  | _ => []

/-- The parts of several schemas. -/
def partsWith (meaning : Meaning) (location : String) : List Json → List Part
  | [] => []
  | schema :: rest => partWith meaning location schema :: partsWith meaning location rest

/-- The parts of named schemas. -/
def memberPartsWith (meaning : Meaning) (location : String) :
    List (Key × Json) → List (Key × Part)
  | [] => []
  | (name, schema) :: rest =>
      (name, partWith meaning location schema) :: memberPartsWith meaning location rest

end

/-- The meaning of references in a scope, given the parts of schemas at a location. -/
def meaningIn (part : String → Json → Part) (scope : Reference.Scope) : Meaning :=
  fun location reference options extent value =>
    Outcome.given (Reference.resolve scope location reference) value fun found =>
      (part found.1 found.2).run options extent value

/-- The part of a schema at a location, where at most so many references lead on in a row. -/
def partIn (scope : Reference.Scope) : (count : Nat) → String → Json → Part
  | 0 => partWith fun _ _ _ _ value => .fail value .endlessReference
  | count + 1 => partWith (meaningIn (partIn scope count) scope)

/-- Evaluate the root of a schema: here the options hold even if the schema names a metaschema. -/
def evaluateRoot (scope : Reference.Scope) (location : String) (options : Options)
    (schema value : Json) : Outcome :=
  let count := scope.bound value
  match schema with
  | .object fields =>
      let meaning := meaningIn (partIn scope count) scope
      evaluateNode meaning location fields (nodeWith meaning location fields) options .all value
  | _ => (partIn scope count location schema).run options .all value

theorem partsWith_eq_map (meaning : Meaning) (location : String) (schemas : List Json) :
    partsWith meaning location schemas = schemas.map (partWith meaning location) := by
  induction schemas with
  | nil => rfl
  | cons schema rest ih => simp [partsWith, ih]

theorem memberPartsWith_eq_map (meaning : Meaning) (location : String)
    (members : List (Key × Json)) :
    memberPartsWith meaning location members =
      members.map fun member => (member.1, partWith meaning location member.2) := by
  induction members with
  | nil => rfl
  | cons member rest ih => simp [memberPartsWith, ih]

theorem nodeWith_eq_filterMap (meaning : Meaning) (location : String)
    (fields : List (Key × Json)) :
    nodeWith meaning location fields =
      fields.filterMap fun entry => entry.1.text?.map fun keyword =>
        (keyword, ⟨partWith meaning location entry.2, itemsOf meaning location entry.2,
          membersOf meaning location entry.2⟩) := by
  induction fields with
  | nil => rfl
  | cons entry rest ih =>
      obtain ⟨key, argument⟩ := entry
      cases key <;> simp [nodeWith, Key.text?, ih]

end Evaluation

end SchemaAlgebra
