import SchemaAlgebra.Json.Printer

/-!
The literal form of JSON values, which messages show: strings in literal quotes, the constants as
`None`, `True` and `False`, and containers with their items between brackets. A literal, like a JSON
text, is only given if its whole numbers are short enough.
-/

namespace SchemaAlgebra

/-- The words for doubles without digits in literals. -/
def literalWords : Double.Words := ⟨"nan", "inf"⟩

/-- The literal form of a key. -/
def Key.literalChars : Key → List Char
  | .text s => Text.literalQuoted s.toList
  | .null => ['N', 'o', 'n', 'e']
  | .bool true => ['T', 'r', 'u', 'e']
  | .bool false => ['F', 'a', 'l', 's', 'e']
  | .int n => (toString n).toList
  | .double d => (d.text literalWords).toList
  | .foreign value => value.literal.toList

/-- The literal form of a key. -/
def Key.literal (key : Key) : String :=
  String.ofList key.literalChars

/-- A key as running text: a text is itself, anything else has its own form. -/
def Key.display : Key → String
  | .text s => s
  | .foreign value => value.display
  | key => key.literal

namespace Json

mutual

/-- The literal form of a value. -/
def literalChars : Json → List Char
  | .null => Key.null.literalChars
  | .bool b => (Key.bool b).literalChars
  | .int n => (Key.int n).literalChars
  | .double d => (Key.double d).literalChars
  | .string s => (Key.text s).literalChars
  | .foreign value => value.literal.toList
  | .array [] => ['[', ']']
  | .array (item :: rest) => '[' :: (literalChars item ++ itemsLiteral rest ++ [']'])
  | .object [] => ['{', '}']
  | .object ((key, value) :: rest) =>
      '{' :: (key.literalChars ++ [':', ' '] ++ literalChars value ++ fieldsLiteral rest ++ ['}'])

/-- The literal form of the items after the first. -/
def itemsLiteral : List Json → List Char
  | [] => []
  | item :: rest => ',' :: ' ' :: (literalChars item ++ itemsLiteral rest)

/-- The literal form of the members after the first. -/
def fieldsLiteral : List (Key × Json) → List Char
  | [] => []
  | (key, value) :: rest =>
      ',' :: ' ' :: (key.literalChars ++ [':', ' '] ++ literalChars value ++ fieldsLiteral rest)

end

/-- The literal form of a value. -/
def literal (value : Json) : String :=
  String.ofList value.literalChars

/-- A value as running text: a string is itself, anything else has its own form. -/
def display : Json → String
  | .string s => s
  | .foreign value => value.display
  | value => value.literal

/-- Literal forms with commas between them. -/
def literals (values : List Json) : String :=
  ", ".intercalate (values.map literal)

mutual

/-- Whether every whole number in the value is short enough to be shown. -/
def isShowable : Json → Bool
  | .int n => writable n
  | .array items => itemsShowable items
  | .object fields => fieldsShowable fields
  | _ => true

/-- Whether every item can be shown. -/
def itemsShowable : List Json → Bool
  | [] => true
  | item :: rest => item.isShowable && itemsShowable rest

/-- Whether every member can be shown. -/
def fieldsShowable : List (Key × Json) → Bool
  | [] => true
  | (.int n, value) :: rest => writable n && value.isShowable && fieldsShowable rest
  | (_, value) :: rest => value.isShowable && fieldsShowable rest

end

end Json

end SchemaAlgebra
