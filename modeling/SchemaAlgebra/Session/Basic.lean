import SchemaAlgebra.Builder.Edit
import SchemaAlgebra.Documents.Files
import SchemaAlgebra.Schema.Inline
import SchemaAlgebra.Schema.Metaschema
import SchemaAlgebra.Validation.Validator

/-!
Sessions: names bound to builders and validators over one store. A builder and a validator both have a
schema, options, and up to two snapshots of the schema: the one that single values are validated
against and the one for lists. A snapshot is taken at the first use and then kept.
-/

namespace SchemaAlgebra

/-- What a name is bound to. -/
inductive TargetKind
  | builder
  | validator
  deriving DecidableEq

/-- A builder or a validator. -/
structure Target where
  kind : TargetKind
  root : Slot
  options : Options
  single : Option Json
  list : Option Json

/-- Names bound to builders and validators, and what they are built from. -/
structure Session where
  environment : Fields String String
  files : Files
  store : Store
  targets : Fields String Target

namespace Session

/-- A session without bindings. -/
def start (environment : Fields String String) (files : Files) : Session :=
  ⟨environment, files, .empty, []⟩

/-- Why a step of a session ends without success. -/
inductive Error
  /-- The name is not bound. -/
  | unbound
  /-- What the name is bound to has no such operation. -/
  | noSuchOperation
  | builder (failure : Failure)
  | options (error : Options.Error)
  | inlining (error : Inline.Error)
  | fault (fault : Fault)
  /-- A regular expression in a schema left open whether it is one. -/
  | pattern (defect : Pattern.Defect)
  /-- A schema cannot be written. -/
  | writing (error : WriteError)

/-- A step of a session. What was changed before an error stays changed. -/
abbrev Act (α : Type) := ExceptT Error (StateM Session) α

/-- What a name is bound to. -/
def target (name : String) : Act Target := do
  match (← get).targets.get? name with
  | some target => return target
  | none => throw .unbound

/-- The builder that a name is bound to, and the address of its schema. -/
def builder (name : String) : Act (Target × Nat) := do
  let target ← target name
  match target.kind, target.root with
  | .builder, .node address => return (target, address)
  | _, _ => throw .noSuchOperation

/-- Bind a name. -/
def bind (name : String) (target : Target) : Act Unit :=
  modify fun session => { session with targets := session.targets.put name target }

/-- Change the store. -/
def change {α : Type} (change : Change α) : Act α := do
  let session ← get
  let (result, store) := change.run.run session.store
  set { session with store := store }
  match result with
  | .ok value => return value
  | .error failure => throw (.builder failure)

/-- Resolve the options of a builder. -/
def resolveOptions (overrides : Json) : Act Options := do
  match Options.resolve (← get).environment overrides .null with
  | .ok options => return options
  | .error error => throw (.options error)

/-- Bind a name to a new builder. -/
def bindBuilder (name : String) (address : Nat) (options : Options) : Act Unit :=
  bind name ⟨.builder, .node address, options, none, none⟩

/-- The argument that a bound name is. -/
def operand? (session : Session) (name : String) : Option Operand :=
  (session.targets.get? name).map fun target =>
    match target.kind, target.root with
    | .builder, .node address => .builder address
    | _, _ => .validator

/-- The schema of a slot as a value, if it is finite. -/
def schema (root : Slot) : Act Json := do
  match (← get).store.tree? root with
  | some schema => return schema
  | none => throw (.builder .endless)

/-- The text of the schema that a name is bound to, if it can be written. -/
def schemaText (session : Session) (name : String) : Except WriteError String :=
  match session.targets.get? name with
  | some target =>
      match session.store.tree? target.root with
      | some schema => schema.text?
      | none => .error .circular
  | none => .ok ""

/-- The bound names, in the order of their characters. -/
def names (session : Session) : List String :=
  Text.sorted session.targets.keys

end Session

end SchemaAlgebra
