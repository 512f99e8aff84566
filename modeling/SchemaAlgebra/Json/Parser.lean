import SchemaAlgebra.Json.Basic
import SchemaAlgebra.Number.Numeral
import SchemaAlgebra.Text.Quoted

/-!
Reading JSON text. A text that is not JSON is refused with a cause and the offset at which it was
found. Of two members with one name the first gives the place and the last the value, and the words
`NaN`, `Infinity` and `-Infinity` are numbers.
-/

namespace SchemaAlgebra.Json

/-- Why a text is not JSON. -/
inductive Defect
  | value
  | propertyName
  | colon
  | comma
  | extraData
  | unterminatedString
  | controlCharacter
  | escape
  | unicodeEscape
  | byteOrderMark
  deriving DecidableEq

/-- The wording of a defect. -/
def Defect.message : Defect → String
  | .value => "Expecting value"
  | .propertyName => "Expecting property name enclosed in double quotes"
  | .colon => "Expecting ':' delimiter"
  | .comma => "Expecting ',' delimiter"
  | .extraData => "Extra data"
  | .unterminatedString => "Unterminated string starting at"
  | .controlCharacter => "Invalid control character at"
  | .escape => "Invalid \\escape"
  | .unicodeEscape => "Invalid \\uXXXX escape"
  | .byteOrderMark => "Unexpected UTF-8 BOM (decode using utf-8-sig)"

/-- Why a text could not be read: a defect at an offset, or a whole number with too many digits. -/
inductive ReadError
  | defect (cause : Defect) (offset : Nat)
  | tooManyDigits (count : Nat)
  deriving DecidableEq

/-- How many code points stand before an offset in a text: a mark only announces one. -/
def codeOffset (text : List Char) (offset : Nat) : Nat :=
  offset - (text.take offset).count Text.mark

/-- The line and column of an offset, both counted from one. -/
def lineAndColumn (text : List Char) (offset : Nat) : Nat × Nat :=
  let before := text.take offset
  let line := before.reverse.takeWhile (· ≠ '\n')
  (before.count '\n' + 1, line.length - line.count Text.mark + 1)

/-- The wording of a reading error in a text. -/
def ReadError.message (text : List Char) : ReadError → String
  | .defect cause offset =>
      let (line, column) := lineAndColumn text offset
      s!"{cause.message}: line {line} column {column} (char {codeOffset text offset})"
  | .tooManyDigits count => (Numeral.Flaw.tooManyDigits count).message

/-- What is left to read, and how much was read. -/
structure Cursor where
  rest : List Char
  offset : Nat

/-- Whether JSON allows a character between its tokens. -/
def isGap (c : Char) : Bool :=
  c = ' ' || c = '\t' || c = '\n' || c = '\r'

/-- Skip the characters between two tokens. -/
def skipGap : List Char → Nat → Cursor
  | [], offset => ⟨[], offset⟩
  | c :: rest, offset => if isGap c then skipGap rest (offset + 1) else ⟨c :: rest, offset⟩

/-- Skip the characters between two tokens. -/
def Cursor.skip (cursor : Cursor) : Cursor :=
  skipGap cursor.rest cursor.offset

/-- The value of a hexadecimal digit. -/
def hexValue? (c : Char) : Option Nat :=
  if '0' ≤ c ∧ c ≤ '9' then some (c.toNat - 48)
  else if 'a' ≤ c ∧ c ≤ 'f' then some (c.toNat - 87)
  else if 'A' ≤ c ∧ c ≤ 'F' then some (c.toNat - 55)
  else none

/-- The value of four hexadecimal digits. -/
def hexUnit? (a b c d : Char) : Option Nat := do
  let a ← hexValue? a
  let b ← hexValue? b
  let c ← hexValue? c
  let d ← hexValue? d
  return ((a * 16 + b) * 16 + c) * 16 + d

/-- Whether a UTF-16 unit opens a pair. -/
def isHighUnit (n : Nat) : Bool :=
  0xD800 ≤ n && n < 0xDC00

/-- Whether a UTF-16 unit closes a pair. -/
def isLowUnit (n : Nat) : Bool :=
  0xDC00 ≤ n && n < 0xE000

/-- The code point of a pair of units. -/
def pairCode (high low : Nat) : Nat :=
  0x10000 + (high - 0xD800) * 0x400 + (low - 0xDC00)

/-- Add a code point to characters that are held last first. -/
def push (code : Nat) (done : List Char) : List Char :=
  (Text.ofCode code).reverse ++ done

/-- The characters read so far, last first, after a unit that opens a pair was left without its
partner. -/
def settle (waiting : Option Nat) (done : List Char) : List Char :=
  match waiting with
  | some high => push high done
  | none => done

/-- The character that an escape letter stands for. -/
def escaped? : Char → Option Char
  | '"' => some '"'
  | '\\' => some '\\'
  | '/' => some '/'
  | 'b' => some '\x08'
  | 'f' => some '\x0c'
  | 'n' => some '\n'
  | 'r' => some '\r'
  | 't' => some '\t'
  | _ => none

/-- Read a string after its opening quote, which stands at the offset `start`. A unit that opens a
pair waits for the next escape; one without a partner stands alone. -/
def readString (start : Nat) : List Char → (offset : Nat) → (waiting : Option Nat) →
    (done : List Char) → Except ReadError (String × Cursor)
  | [], _, _, _ => .error (.defect .unterminatedString start)
  | '"' :: rest, offset, waiting, done =>
      .ok (String.ofList (settle waiting done).reverse, ⟨rest, offset + 1⟩)
  | '\\' :: [], _, _, _ => .error (.defect .unterminatedString start)
  | '\\' :: 'u' :: a :: b :: c :: d :: rest, offset, waiting, done =>
      if rest.isEmpty then .error (.defect .unicodeEscape (offset + 1))
      else
        match hexUnit? a b c d, waiting with
        | none, _ => .error (.defect .unicodeEscape (offset + 1))
        | some n, none =>
            if isHighUnit n then readString start rest (offset + 6) (some n) done
            else readString start rest (offset + 6) none (push n done)
        | some n, some high =>
            if isLowUnit n then readString start rest (offset + 6) none (push (pairCode high n) done)
            else if isHighUnit n then
              readString start rest (offset + 6) (some n) (push high done)
            else readString start rest (offset + 6) none (push n (push high done))
  | '\\' :: 'u' :: _, offset, _, _ => .error (.defect .unicodeEscape (offset + 1))
  | '\\' :: c :: rest, offset, waiting, done =>
      match escaped? c with
      | some plain => readString start rest (offset + 2) none (plain :: settle waiting done)
      | none => .error (.defect .escape offset)
  | c :: rest, offset, waiting, done =>
      if c.toNat < 32 then .error (.defect .controlCharacter offset)
      else readString start rest (offset + 1) none (c :: settle waiting done)

/-- The digits at the front of a number, all of the Basic Latin block. -/
def takeDigits : List Char → List Char × List Char
  | [] => ([], [])
  | c :: rest =>
      if c.isDigit then
        let (digits, left) := takeDigits rest
        (c :: digits, left)
      else ([], c :: rest)

/-- The number that Basic Latin digits denote. -/
def digitsValue (digits : List Char) : Nat :=
  digits.foldl (fun n c => 10 * n + (c.toNat - 48)) 0

/-- The whole part of a number: one zero, or digits that do not begin with zero. -/
def takeWhole : List Char → List Char × List Char
  | '0' :: rest => (['0'], rest)
  | text => takeDigits text

/-- A point with digits after it; a point without digits is left alone. -/
def takeFraction : List Char → List Char × List Char
  | '.' :: rest =>
      match takeDigits rest with
      | ([], _) => ([], '.' :: rest)
      | (digits, left) => (digits, left)
  | text => ([], text)

/-- An exponent mark with its digits; a mark without digits is left alone. -/
def takeExponent : List Char → Option Int × List Char
  | [] => (none, [])
  | c :: rest =>
      if c = 'e' ∨ c = 'E' then
        let (negative, body) := Numeral.signAndRest rest
        match takeDigits body with
        | ([], _) => (none, c :: rest)
        | (digits, left) => (some (Double.signed negative (digitsValue digits)), left)
      else (none, c :: rest)

/-- A minus sign at the front of a number. -/
def takeMinus : List Char → Bool × List Char
  | '-' :: rest => (true, rest)
  | text => (false, text)

/-- Read a number. Without point and exponent it is whole, and the limit on digits applies. -/
def readNumber (limit : Option Nat) (cursor : Cursor) : Except ReadError (Json × Cursor) :=
  let (negative, body) := takeMinus cursor.rest
  let (whole, afterWhole) := takeWhole body
  if whole.isEmpty then .error (.defect .value cursor.offset)
  else
    let (fraction, afterFraction) := takeFraction afterWhole
    let (exponent, left) := takeExponent afterFraction
    let after : Cursor := ⟨left, cursor.offset + (cursor.rest.length - left.length)⟩
    if fraction.isEmpty && exponent.isNone then
      match limit with
      | some most =>
          if most < whole.length then .error (.tooManyDigits whole.length)
          else .ok (.int (Double.signed negative (digitsValue whole)), after)
      | none => .ok (.int (Double.signed negative (digitsValue whole)), after)
    else
      .ok (.double (Double.ofDecimal negative (digitsValue (whole ++ fraction))
        (exponent.getD 0 - fraction.length)), after)

mutual

/-- Read a value that begins at the cursor. -/
def readValue (limit : Option Nat) : Nat → Cursor → Except ReadError (Json × Cursor)
  | 0, cursor => .error (.defect .value cursor.offset)
  | fuel + 1, cursor =>
      match cursor.rest with
      | '"' :: rest => do
          let (s, after) ← readString cursor.offset rest (cursor.offset + 1) none []
          return (.string s, after)
      | '{' :: rest =>
          let inner := skipGap rest (cursor.offset + 1)
          match inner.rest with
          | '}' :: rest => .ok (.object [], ⟨rest, inner.offset + 1⟩)
          | _ => do
              let (fields, after) ← readMembers limit fuel inner
              return (.object (Fields.collect fields), after)
      | '[' :: rest =>
          let inner := skipGap rest (cursor.offset + 1)
          match inner.rest with
          | ']' :: rest => .ok (.array [], ⟨rest, inner.offset + 1⟩)
          | _ => do
              let (items, after) ← readItems limit fuel inner
              return (.array items, after)
      | 'n' :: 'u' :: 'l' :: 'l' :: rest => .ok (.null, ⟨rest, cursor.offset + 4⟩)
      | 't' :: 'r' :: 'u' :: 'e' :: rest => .ok (.bool true, ⟨rest, cursor.offset + 4⟩)
      | 'f' :: 'a' :: 'l' :: 's' :: 'e' :: rest => .ok (.bool false, ⟨rest, cursor.offset + 5⟩)
      | 'N' :: 'a' :: 'N' :: rest => .ok (.double (.nan .json), ⟨rest, cursor.offset + 3⟩)
      | 'I' :: 'n' :: 'f' :: 'i' :: 'n' :: 'i' :: 't' :: 'y' :: rest =>
          .ok (.double (.infinity false), ⟨rest, cursor.offset + 8⟩)
      | '-' :: 'I' :: 'n' :: 'f' :: 'i' :: 'n' :: 'i' :: 't' :: 'y' :: rest =>
          .ok (.double (.infinity true), ⟨rest, cursor.offset + 9⟩)
      | _ => readNumber limit cursor

/-- Read the members of an object from the first name on, up to the closing brace. -/
def readMembers (limit : Option Nat) :
    Nat → Cursor → Except ReadError (List (Key × Json) × Cursor)
  | 0, cursor => .error (.defect .propertyName cursor.offset)
  | fuel + 1, cursor =>
      match cursor.rest with
      | '"' :: rest => do
          let (key, afterKey) ← readString cursor.offset rest (cursor.offset + 1) none []
          let colon := afterKey.skip
          match colon.rest with
          | ':' :: rest =>
              let (value, afterValue) ← readValue limit fuel (skipGap rest (colon.offset + 1))
              let next := afterValue.skip
              match next.rest with
              | '}' :: rest => return ([(.text key, value)], ⟨rest, next.offset + 1⟩)
              | ',' :: rest =>
                  let (fields, after) ← readMembers limit fuel (skipGap rest (next.offset + 1))
                  return ((.text key, value) :: fields, after)
              | _ => .error (.defect .comma next.offset)
          | _ => .error (.defect .colon colon.offset)
      | _ => .error (.defect .propertyName cursor.offset)

/-- Read the items of an array from the first on, up to the closing bracket. -/
def readItems (limit : Option Nat) : Nat → Cursor → Except ReadError (List Json × Cursor)
  | 0, cursor => .error (.defect .value cursor.offset)
  | fuel + 1, cursor => do
      let (item, afterItem) ← readValue limit fuel cursor
      let next := afterItem.skip
      match next.rest with
      | ']' :: rest => return ([item], ⟨rest, next.offset + 1⟩)
      | ',' :: rest =>
          let (items, after) ← readItems limit fuel (skipGap rest (next.offset + 1))
          return (item :: items, after)
      | _ => .error (.defect .comma next.offset)

end

/-- Read a text that holds one value and nothing else. Whole numbers may have as many digits as the
limit says, and any number of them without a limit. -/
def read (limit : Option Nat) (text : List Char) : Except ReadError Json :=
  match text with
  | '\ufeff' :: _ => .error (.defect .byteOrderMark 0)
  | _ => do
      let (value, after) ← readValue limit (2 * text.length + 2) (skipGap text 0)
      let last := after.skip
      if last.rest.isEmpty then return value
      else .error (.defect .extraData last.offset)

/-- Read a document: a text whose whole numbers stay within the digit limit. -/
def parse (text : String) : Except ReadError Json :=
  read (some Numeral.digitLimit) text.toList

end SchemaAlgebra.Json
