import SchemaAlgebra.Json.Basic
import SchemaAlgebra.Number.Decimal
import SchemaAlgebra.Number.Numeral
import SchemaAlgebra.Text.Quoted

/-!
JSON text. The compact layout puts a blank after commas and colons; the other layout puts each item
on a line of its own behind some copies of an indentation unit. Keys that are no texts are written as
texts. Whole numbers beyond the digit limit, foreign values and containers inside themselves have no
text.
-/

namespace SchemaAlgebra

/-- How the items of containers are set out. -/
inductive Layout
  | compact
  | lines (unit : String)

namespace Layout

/-- A line break with the indentation of a level; nothing in the compact layout. -/
def lineBreak : Layout → Nat → List Char
  | .compact, _ => []
  | .lines unit, level => '\n' :: (List.replicate level unit.toList).flatten

/-- The layout for an indentation: none is compact, and a number says how many blanks go with a level. -/
def indented : Option Int → Layout
  | none => .compact
  | some blanks => .lines (String.ofList (List.replicate blanks.toNat ' '))

/-- What stands between two items. -/
def separator : Layout → Nat → List Char
  | .compact, _ => [',', ' ']
  | .lines unit, level => ',' :: lineBreak (.lines unit) level

end Layout

/-- Why a value cannot be written. -/
inductive WriteError
  /-- A value that JSON cannot denote. -/
  | foreign
  /-- A container inside itself. -/
  | circular
  /-- A whole number with too many digits. -/
  | tooManyDigits
  deriving DecidableEq

namespace Json

/-- The words for doubles without digits in JSON text. -/
def doubleWords : Double.Words := ⟨"NaN", "Infinity"⟩

/-- Whether a whole number is short enough to be written. -/
def writable (n : Int) : Bool :=
  n.natAbs < powerOfTen Numeral.digitLimit

/-- The text under which a member with the key is written. -/
def nameOf : Key → String
  | .text s => s
  | .null => "null"
  | .bool true => "true"
  | .bool false => "false"
  | .int n => toString n
  | .double d => d.text doubleWords
  | .foreign value => value.display

/-- The written form of a key. -/
def keyChars (key : Key) : List Char :=
  Text.jsonQuoted (nameOf key).toList

mutual

/-- The text of a value that begins at a level of indentation. -/
def chars (layout : Layout) (level : Nat) : Json → List Char
  | .null => ['n', 'u', 'l', 'l']
  | .bool true => ['t', 'r', 'u', 'e']
  | .bool false => ['f', 'a', 'l', 's', 'e']
  | .int n => (toString n).toList
  | .double d => (d.text doubleWords).toList
  | .string s => Text.jsonQuoted s.toList
  | .foreign _ => []
  | .array [] => ['[', ']']
  | .array (item :: rest) =>
      '[' :: (layout.lineBreak (level + 1) ++ chars layout (level + 1) item ++
        itemsChars layout (level + 1) rest ++ layout.lineBreak level ++ [']'])
  | .object [] => ['{', '}']
  | .object ((key, value) :: rest) =>
      '{' :: (layout.lineBreak (level + 1) ++ keyChars key ++ [':', ' '] ++
        chars layout (level + 1) value ++ fieldsChars layout (level + 1) rest ++
        layout.lineBreak level ++ ['}'])

/-- The text of the items after the first. -/
def itemsChars (layout : Layout) (level : Nat) : List Json → List Char
  | [] => []
  | item :: rest =>
      layout.separator level ++ chars layout level item ++ itemsChars layout level rest

/-- The text of the members after the first. -/
def fieldsChars (layout : Layout) (level : Nat) : List (Key × Json) → List Char
  | [] => []
  | (key, value) :: rest =>
      layout.separator level ++ keyChars key ++ [':', ' '] ++
        chars layout level value ++ fieldsChars layout level rest

end

/-- Why a foreign value cannot be written. -/
def foreignError (value : Foreign) : WriteError :=
  if value.isCycle then .circular else .foreign

/-- Why a key cannot be written, if it cannot. -/
def keyError? : Key → Option WriteError
  | .int n => if writable n then none else some .tooManyDigits
  | .foreign _ => some .foreign
  | _ => none

mutual

/-- What keeps a value from being written: the first obstacle in the order of writing. -/
def obstacle? : Json → Option WriteError
  | .int n => if writable n then none else some .tooManyDigits
  | .array items => itemsObstacle? items
  | .object fields => fieldsObstacle? fields
  | .foreign value => some (foreignError value)
  | _ => none

/-- The first obstacle among items. -/
def itemsObstacle? : List Json → Option WriteError
  | [] => none
  | item :: rest =>
      match item.obstacle? with
      | some error => some error
      | none => itemsObstacle? rest

/-- The first obstacle among members, each key before its value. -/
def fieldsObstacle? : List (Key × Json) → Option WriteError
  | [] => none
  | (key, value) :: rest =>
      match keyError? key, value.obstacle? with
      | some error, _ => some error
      | none, some error => some error
      | none, none => fieldsObstacle? rest

end

/-- The text of a value in a layout; what cannot be written is left out. -/
def render (layout : Layout) (value : Json) : String :=
  String.ofList (value.chars layout 0)

/-- The compact text of a value, if it can be written. -/
def text? (value : Json) : Except WriteError String :=
  match value.obstacle? with
  | some error => .error error
  | none => .ok (value.render .compact)

end Json

end SchemaAlgebra
