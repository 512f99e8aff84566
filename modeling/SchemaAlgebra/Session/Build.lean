import SchemaAlgebra.Session.Basic

/-!
Steps that bind names to new builders, and edits of builders. A step that fails binds nothing.
-/

namespace SchemaAlgebra.Session

/-- Bind a name to a builder of a given schema. -/
def wrap (name : String) (schema overrides : Json) : Act Unit := do
  let address ← change (Builder.wrap schema)
  bindBuilder name address (← resolveOptions overrides)

/-- Inline a schema, or the document at a location, and bind a name to a builder of the result. -/
def wrapInlined (name : String) (schema overrides : Json) (base : String) : Act Unit := do
  let library := Inline.Library.ofFiles (← get).files
  match (Inline.inline library base schema).run.run [] with
  | (.ok inlined, _) => wrap name inlined overrides
  | (.error error, _) => throw (.inlining error)

/-- Bind a name to a builder of a factory's schema. -/
def make (name : String) (factory : Factory) : Act Unit := do
  let address ← change factory.run
  bindBuilder name address (← resolveOptions .null)

/-- Bind a name to a copy of a builder, which keeps its options. -/
def clone (source name : String) (metadata : Operand) : Act Unit := do
  let (target, address) ← builder source
  bindBuilder name (← change (Builder.clone address metadata)) target.options

/-- Edit the schema of a builder. -/
def edit (name : String) (edit : Edit) : Act Unit := do
  let (_, address) ← builder name
  change (edit.run address)

/-- Bind a name to a validator over the schema that another name is bound to. -/
def attach (name source : String) (options : Options) : Act Unit := do
  let target ← target source
  bind name ⟨.validator, target.root, options, none, none⟩

/-- Bind a name to a validator over a schema. -/
def attachSchema (name : String) (schema : Json) (options : Options) : Act Unit := do
  let root ← change (Change.place schema)
  bind name ⟨.validator, root, options, none, none⟩

/-- The four answers on the shape of a builder's schema. -/
def flags (name : String) : Act (List Bool) := do
  let (_, address) ← builder name
  return Shape.flags (Cell.face ((← get).store.cell address))

/-- The options of a builder or validator. -/
def options (name : String) : Act Options := do
  return (← target name).options

/-- The text of a builder's schema in a layout. -/
def text (name : String) (layout : Layout) : Act String := do
  let (target, _) ← builder name
  match (← get).store.tree? target.root with
  | none => throw (.writing .circular)
  | some schema =>
      match schema.obstacle? with
      | some error => throw (.writing error)
      | none => return schema.render layout

/-- A builder, as it shows itself. -/
def literal (name : String) : Act String := do
  let (target, _) ← builder name
  return "SchemaBuilder(" ++ (← get).store.literal target.root ++ ")"

end SchemaAlgebra.Session
