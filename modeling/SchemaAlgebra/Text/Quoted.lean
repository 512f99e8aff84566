import SchemaAlgebra.Text.Code
import SchemaAlgebra.Text.Printable

/-!
The two written forms of a text. The JSON form stands in double quotes and holds only visible
Basic Latin characters; everything else is written by its UTF-16 units. The literal form, used in
messages, prefers single quotes and keeps every printable character. Both write a code point at a
time, so that a lone half of a pair is written as its unit.
-/

namespace SchemaAlgebra.Text

/-- A hexadecimal digit in lower case. -/
def hexDigit (n : Nat) : Char :=
  if n < 10 then Char.ofNat (48 + n) else Char.ofNat (87 + n)

/-- The last `width` hexadecimal digits of a number. -/
def hexDigits : (width : Nat) → Nat → List Char
  | 0, _ => []
  | width + 1, n => hexDigits width (n / 16) ++ [hexDigit (n % 16)]

/-- The UTF-16 units of a code point. -/
def units16 (code : Nat) : List Nat :=
  if code < 0x10000 then [code]
  else [0xD800 + (code - 0x10000) / 0x400, 0xDC00 + (code - 0x10000) % 0x400]

/-- The letter that escapes a code point after a backslash, if there is one. -/
def shortEscape? : Nat → Option Char
  | 8 => some 'b'
  | 9 => some 't'
  | 10 => some 'n'
  | 12 => some 'f'
  | 13 => some 'r'
  | 34 => some '"'
  | 92 => some '\\'
  | _ => none

/-- The JSON form of a code point inside a string. -/
def jsonCode (code : Nat) : List Char :=
  match shortEscape? code with
  | some letter => ['\\', letter]
  | none =>
      if 32 ≤ code ∧ code < 127 then [Char.ofNat code]
      else (units16 code).flatMap fun n => '\\' :: 'u' :: hexDigits 4 n

/-- The JSON form of a text. -/
def jsonQuoted (text : List Char) : List Char :=
  '"' :: ((codes text).flatMap jsonCode ++ ['"'])

/-- The literal form of a code point inside a text that stands in the given quotes. -/
def literalCode (quote : Char) (code : Nat) : List Char :=
  if code = quote.toNat ∨ code = 92 then ['\\', Char.ofNat code]
  else if code = 10 then ['\\', 'n']
  else if code = 13 then ['\\', 'r']
  else if code = 9 then ['\\', 't']
  else if isPrintable code then [Char.ofNat code]
  else if code < 0x100 then '\\' :: 'x' :: hexDigits 2 code
  else if code < 0x10000 then '\\' :: 'u' :: hexDigits 4 code
  else '\\' :: 'U' :: hexDigits 8 code

/-- The quote a literal stands in: single, unless the text holds single quotes and no double one. -/
def literalQuote (text : List Char) : Char :=
  if text.contains '\'' && !text.contains '"' then '"' else '\''

/-- The literal form of a text. -/
def literalQuoted (text : List Char) : List Char :=
  let quote := literalQuote text
  quote :: ((codes text).flatMap (literalCode quote) ++ [quote])

end SchemaAlgebra.Text

namespace SchemaAlgebra

/-- The literal form of a text, as messages show it. -/
def quoteLiteral (s : String) : String :=
  String.ofList (Text.literalQuoted s.toList)

end SchemaAlgebra
