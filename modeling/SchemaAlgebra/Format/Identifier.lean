import SchemaAlgebra.Text.Character
import SchemaAlgebra.Text.Split

/-!
Internet addresses. The four numbers of a short address have no leading zeros; a long address has
eight groups of hexadecimal digits, of which one run may be left out and the last two may be written
as a short address. Zones are not accepted.
-/

namespace SchemaAlgebra.Format

open Text (splitAtAll)

/-- Whether a text is one of the numbers of a short address. -/
def isOctet (text : List Char) : Bool :=
  text ≠ [] && text.length ≤ 3 && text.all Char.isDigit &&
    (text.length = 1 || text.head? ≠ some '0') &&
    text.foldl (fun n c => 10 * n + (c.toNat - 48)) 0 ≤ 255

/-- Whether a text is a short address. -/
def isShortAddress (text : List Char) : Bool :=
  let parts := splitAtAll '.' text
  parts.length = 4 && parts.all isOctet

/-- Whether a character is a hexadecimal digit. -/
def isHexDigit (c : Char) : Bool :=
  c.isDigit || ('a' ≤ c && c ≤ 'f') || ('A' ≤ c && c ≤ 'F')

/-- Whether a text is a group of hexadecimal digits of a long address. -/
def isHextet (text : List Char) : Bool :=
  text ≠ [] && text.length ≤ 4 && text.all isHexDigit

/-- The groups of a long address, a short address at the end counting as two of them. -/
def hextets? (text : List Char) : Option (List (List Char)) :=
  let parts := splitAtAll ':' text
  if parts.length < 3 then none
  else
    let last := parts.getLastD []
    if last.contains '.' then
      if isShortAddress last then some (parts.dropLast ++ [['0'], ['0']]) else none
    else some parts

/-- Whether groups form a long address; an empty group inside stands for the run left out. -/
def areHextets (parts : List (List Char)) : Bool :=
  let inner := (parts.drop 1).dropLast
  match (inner.filter (· = [])).length with
  | 0 => parts.length = 8 && parts.all isHextet
  | 1 =>
      let before := parts.takeWhile (· ≠ [])
      let front := if parts.head? = some [] then [] else before
      let after := (parts.reverse.takeWhile (· ≠ [])).reverse
      let back := if parts.getLast? = some [] then [] else after
      -- an empty group at an end belongs to the run left out, so it must stand next to it
      let frontOk := parts.head? ≠ some [] || inner.head? = some []
      let backOk := parts.getLast? ≠ some [] || inner.getLast? = some []
      parts.length ≤ 9 && frontOk && backOk && front.length + back.length ≤ 7 &&
        front.all isHextet && back.all isHextet
  | _ => false

/-- Whether a text is a long address. -/
def isLongAddress (text : List Char) : Bool :=
  !text.contains '/' && !text.contains '%' &&
    match hextets? text with
    | some parts => areHextets parts
    | none => false

example : isLongAddress "::1".toList = true ∧ isLongAddress "1::2::3".toList = false := by decide
example : isLongAddress "::ffff:1.2.3.4".toList = true := by decide

/-!
Universally unique identifiers: thirty-two hexadecimal digits with hyphens after the eighth, twelfth,
sixteenth and twentieth. The digits are read as one hexadecimal numeral, which may also hold what such
numerals may hold elsewhere: blanks around it, a plus sign, a base mark, single underscores and digits
of other scripts.
-/

/-- Whether a character is a hexadecimal digit in a numeral. -/
def isNumeralDigit (c : Char) : Bool :=
  isHexDigit c || Text.isDecimal c

/-- Whether a text is a run of digits with single underscores between them. -/
def isDigitRun : List Char → Bool
  | [] => false
  | [c] => isNumeralDigit c
  | c :: '_' :: rest => isNumeralDigit c && isDigitRun rest
  | c :: rest => isNumeralDigit c && isDigitRun rest

/-- A base mark at the front of a numeral, with an underscore after it. -/
def dropBaseMark : List Char → List Char
  | '0' :: x :: '_' :: rest => if x = 'x' ∨ x = 'X' then rest else '0' :: x :: '_' :: rest
  | '0' :: x :: rest => if x = 'x' ∨ x = 'X' then rest else '0' :: x :: rest
  | text => text

/-- Whether a text is a hexadecimal numeral. -/
def isHexNumeral (text : List Char) : Bool :=
  let unsigned := match Text.trimNumeral text with
    | '+' :: rest => rest
    | '-' :: rest => rest
    | rest => rest
  isDigitRun (dropBaseMark unsigned)

/-- Remove a word wherever it occurs, reading from the left. -/
def removeWord (word : List Char) : (fuel : Nat) → List Char → List Char
  | 0, text => text
  | _, [] => []
  | fuel + 1, c :: rest =>
      if word.isPrefixOf (c :: rest) then removeWord word fuel ((c :: rest).drop word.length)
      else c :: removeWord word fuel rest

/-- The numeral inside an identifier: without scheme words, braces and hyphens. -/
def identifierDigits (text : List Char) : List Char :=
  let plain := removeWord "uuid:".toList text.length (removeWord "urn:".toList text.length text)
  let isBrace := fun (c : Char) => c = '\x7b' || c = '\x7d'
  let inner := ((plain.dropWhile isBrace).reverse.dropWhile isBrace).reverse
  inner.filter (· ≠ '-')

/-- Whether a text is a universally unique identifier. -/
def isIdentifier (text : List Char) : Bool :=
  let digits := identifierDigits text
  digits.length = 32 && isHexNumeral digits &&
    [8, 13, 18, 23].all fun place => text[place]? = some '-'

end SchemaAlgebra.Format
