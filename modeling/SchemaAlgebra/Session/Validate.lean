import SchemaAlgebra.Session.Basic

/-!
Validation in a session. The first use of a builder or validator on single values, and its first use
on lists, takes a snapshot of its schema, if that is a schema; later edits do not change the snapshot.
-/

namespace SchemaAlgebra.Session

/-- A snapshot of a schema, which has to keep the rules of schemas. -/
def snapshot (root : Slot) : Act Json := do
  let schema ← schema root
  match Metaschema.check schema with
  | .ok none => return schema
  | .ok (some complaint) =>
      if complaint.subject.isShowable then
        throw (.builder (.refused (.invalidSchema complaint.message)))
      else throw (.fault .tooManyDigits)
  | .error defect => throw (.pattern defect)

/-- Validate a value. -/
def validate (name : String) (value : Json) : Act Validation.Result := do
  let target ← target name
  match target.single with
  | some schema => return Validation.validate target.options schema value
  | none => do
      let schema ← snapshot target.root
      bind name { target with single := some schema }
      return Validation.validate target.options schema value

/-- Validate a list of values. -/
def validateList (name : String) (values : Json) : Act Validation.Result := do
  let target ← target name
  match target.list with
  | some schema => return Validation.validateList target.options schema values
  | none => do
      let schema ← snapshot target.root
      bind name { target with list := some schema }
      return Validation.validateList target.options schema values

/-- Whether a validator has its snapshot for single values. -/
def isCompiled (name : String) : Act Bool := do
  let target ← target name
  match target.kind with
  | .validator => return target.single.isSome
  | .builder => throw .noSuchOperation

end SchemaAlgebra.Session
