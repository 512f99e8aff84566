import SchemaAlgebra.Number.Double
import SchemaAlgebra.Text.Case
import SchemaAlgebra.Text.Split
import SchemaAlgebra.Yaml.Error

/-!
Numbers in YAML. Underscores do not count; whole numbers may be written in base two, eight or sixteen,
and parts between colons count in sixties.
-/

namespace SchemaAlgebra.Yaml

/-- A numeral without underscores, cut after its sign. -/
def signAndDigits (text : List Char) : Except Error (Bool × List Char) :=
  match text.filter (· ≠ '_') with
  | [] => .error .emptyNumber
  | '-' :: rest => .ok (true, rest)
  | '+' :: rest => .ok (false, rest)
  | chars => .ok (false, chars)

/-- The value of a digit in a base. -/
def digitIn? (base : Nat) (c : Char) : Option Nat :=
  let value? := if 'a' ≤ c ∧ c ≤ 'z' then some (c.toNat - 87)
    else if 'A' ≤ c ∧ c ≤ 'Z' then some (c.toNat - 55)
    else Text.digitValue? c
  value?.filter (· < base)

/-- The letter that marks a base. -/
def baseLetter (base : Nat) : Char :=
  if base = 2 then 'b' else if base = 8 then 'o' else 'x'

/-- Digits without the mark of their base. -/
def dropBaseMark (base : Nat) : List Char → List Char
  | '0' :: c :: rest => if c.toLower = baseLetter base then rest else '0' :: c :: rest
  | text => text

/-- The number that a numeral denotes in base two, eight or sixteen. -/
def wholeIn (base : Nat) (text : List Char) : Except Error Int :=
  let (negative, body) := Numeral.signAndRest (Text.trimNumeral text)
  match (dropBaseMark base body).mapM (digitIn? base) with
  | none | some [] => .error (.notWhole base (String.ofList text))
  | some digits => .ok (Double.signed negative (digits.foldl (fun n d => base * n + d) 0))

/-- The number that a decimal numeral denotes. -/
def wholeInTens (text : List Char) : Except Error Int :=
  match Numeral.readWhole text with
  | .ok n => .ok n
  | .error (.tooManyDigits count) => .error (.tooManyDigits count)
  | .error (.notANumber text) => .error (.notWhole 10 text)

/-- A whole number. -/
def whole (text : List Char) : Except Error Int := do
  let (negative, digits) ← signAndDigits text
  let n : Int ← match digits with
    | [] => .error .emptyNumber
    | ['0'] => .ok 0
    | '0' :: 'b' :: rest => wholeIn 2 rest
    | '0' :: 'x' :: rest => wholeIn 16 rest
    | '0' :: _ => wholeIn 8 digits
    | _ =>
        let sum := fun parts : List Int => parts.foldl (fun n part => 60 * n + part) 0
        ((Text.splitAtAll ':' digits).mapM wholeInTens).map sum
  return if negative then -n else n

/-- The double that a decimal numeral denotes. -/
def decimalPart (text : List Char) : Except Error Double :=
  match Numeral.readDouble? (Text.trimNumeral text) with
  | some d => .ok d
  | none => .error (.notDecimal (String.ofList text))

/-- The sum of parts that count in sixties, the last part first, rounded after each step. -/
def addSixties (sum : Double) (factor : Nat) : List Double → Double
  | [] => sum
  | part :: rest => addSixties (sum.plus (part.times factor)) (60 * factor) rest

/-- A text in small letters. -/
def inSmallLetters (text : List Char) : List Char :=
  Text.ofCodes ((Text.codes text).flatMap Text.smallForm)

/-- A double. -/
def decimal (text : List Char) : Except Error Double := do
  let (negative, digits) ← signAndDigits (inSmallLetters text)
  if digits = ".nan".toList then return .nan .yaml
  else
    let d ← if digits = ".inf".toList then .ok (.infinity false)
      else match Text.splitAtAll ':' digits with
        | [part] => decimalPart part
        | parts => (parts.mapM decimalPart).map fun values =>
            addSixties (.zero false) 1 values.reverse
    return if negative then d.negated else d

end SchemaAlgebra.Yaml
