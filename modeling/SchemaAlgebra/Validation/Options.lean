import SchemaAlgebra.Json.Literal
import SchemaAlgebra.Text.Case
import SchemaAlgebra.Text.Character

/-!
What validation may change in a value: convert scalars to the declared type, remove properties that
are forbidden, fill in defaults. Options come from four places; explicit overrides win over the
environment, the environment over settings, and settings over the defaults, which allow everything.
-/

namespace SchemaAlgebra

/-- Which normalizations validation applies. -/
structure Options where
  coerceTypes : Bool
  removeAdditional : Bool
  useDefaults : Bool
  deriving DecidableEq, Inhabited

namespace Options

/-- Every normalization. -/
def all : Options := ⟨true, true, true⟩

/-- No normalization: values are only checked. -/
def plain : Options := ⟨false, false, false⟩

/-- The three options. -/
inductive Name
  | coerceTypes
  | removeAdditional
  | useDefaults
  deriving DecidableEq

/-- How an option is written. -/
def Name.text : Name → String
  | .coerceTypes => "coerce_types"
  | .removeAdditional => "remove_additional"
  | .useDefaults => "use_defaults"

/-- The environment variable of an option. -/
def Name.variable : Name → String
  | .coerceTypes => "SCHEMA_BUILDER_COERCE_TYPES"
  | .removeAdditional => "SCHEMA_BUILDER_REMOVE_ADDITIONAL"
  | .useDefaults => "SCHEMA_BUILDER_USE_DEFAULTS"

/-- All options, in the order in which they are shown. -/
def names : List Name := [.coerceTypes, .removeAdditional, .useDefaults]

/-- The option with a written name. -/
def name? (text : String) : Option Name :=
  names.find? fun name => name.text = text

/-- Set one option. -/
def set (options : Options) (name : Name) (value : Bool) : Options :=
  match name with
  | .coerceTypes => { options with coerceTypes := value }
  | .removeAdditional => { options with removeAdditional := value }
  | .useDefaults => { options with useDefaults := value }

/-- The value of one option. -/
def get (options : Options) : Name → Bool
  | .coerceTypes => options.coerceTypes
  | .removeAdditional => options.removeAdditional
  | .useDefaults => options.useDefaults

@[simp] theorem get_set (options : Options) (name other : Name) (value : Bool) :
    (options.set name value).get other = if other = name then value else options.get other := by
  cases name <;> cases other <;> rfl

/-- Why options could not be resolved. -/
inductive Error
  | notBoolean (name : String) (value : Json)
  | unknown (name : String)
  | notAnObject

/-- The wording of an options error; overrides that are no object have none. -/
def Error.message : Error → Option String
  | .notBoolean name value => some s!"Invalid boolean value for {name}: {value.literal}"
  | .unknown name => some
      (s!"Unknown validation option '{name}'. Must be one of: " ++
        ", ".intercalate (names.map Name.text))
  | .notAnObject => none

/-- The words for true. -/
def trueWords : List String := ["1", "true", "yes", "on"]

/-- The words for false. -/
def falseWords : List String := ["0", "false", "no", "off"]

/-- Read a truth value: a boolean, or a word for one with blanks around it and letters of either
case. -/
def readFlag (name : String) : Json → Except Error Bool
  | .bool b => .ok b
  | value =>
      let word := String.ofList ((Text.trim value.display.toList).map Text.lowerCase)
      if word ∈ trueWords then .ok true
      else if word ∈ falseWords then .ok false
      else .error (.notBoolean name value)

/-- Apply settings; unknown names and nulls are passed over. -/
def applySettings (options : Options) : List (Key × Json) → Except Error Options
  | [] => .ok options
  | (key, value) :: rest =>
      match key.text?.bind name?, value with
      | none, _ | _, .null => options.applySettings rest
      | some name, value => do
          let flag ← readFlag name.text value
          (options.set name flag).applySettings rest

/-- Apply environment variables; an empty one counts as absent. -/
def applyEnvironment (options : Options) (environment : Fields String String) :
    List Name → Except Error Options
  | [] => .ok options
  | name :: rest =>
      match environment.get? name.variable with
      | none | some "" => options.applyEnvironment environment rest
      | some text => do
          let flag ← readFlag name.variable (.string text)
          (options.set name flag).applyEnvironment environment rest

/-- Apply overrides; nulls are passed over and unknown names refused. -/
def applyOverrides (options : Options) : List (Key × Json) → Except Error Options
  | [] => .ok options
  | (key, value) :: rest =>
      match key.text?.bind name?, value with
      | none, _ => .error (.unknown key.display)
      | some _, .null => options.applyOverrides rest
      | some name, value => do
          let flag ← readFlag name.text value
          (options.set name flag).applyOverrides rest

/-- The entries of an object; anything else has none. -/
def entries : Json → List (Key × Json)
  | .object fields => fields
  | _ => []

/-- Resolve options from settings, the environment and overrides. -/
def resolve (environment : Fields String String) (overrides settings : Json) : Except Error Options := do
  let fromSettings ← all.applySettings (entries settings)
  let fromEnvironment ← fromSettings.applyEnvironment environment names
  if overrides.isTruthy && !overrides.isObject then .error .notAnObject
  else fromEnvironment.applyOverrides (entries overrides)

/-- Options as an object. -/
def toJson (options : Options) : Json :=
  .object (names.map fun name => (.text name.text, .bool (options.get name)))

end Options

end SchemaAlgebra
