import SchemaAlgebra.Number.Double
import SchemaAlgebra.Text.Character
import SchemaAlgebra.Text.Quoted

/-!
Numerals in text. Digits may come from any script and single underscores may stand between two of
them. A whole numeral has at most `digitLimit` digits; a decimal numeral has an optional point and
exponent, or is one of the words for the doubles without digits.
-/

namespace SchemaAlgebra.Numeral

open SchemaAlgebra.Text

/-- How many digits a whole number may have when it is read from text or written as text. -/
def digitLimit : Nat := 4300

/-- The digits that continue a run, and what is left: an underscore belongs to the run only if a
digit follows it. -/
def digitTail : List Char → List Nat × List Char
  | [] => ([], [])
  | '_' :: c :: rest =>
      match digitValue? c with
      | some d => let (ds, left) := digitTail rest; (d :: ds, left)
      | none => ([], '_' :: c :: rest)
  | c :: rest =>
      match digitValue? c with
      | some d => let (ds, left) := digitTail rest; (d :: ds, left)
      | none => ([], c :: rest)

/-- The digits at the front of a text, and what is left. -/
def digitRun : List Char → List Nat × List Char
  | [] => ([], [])
  | c :: rest =>
      match digitValue? c with
      | some d => let (ds, left) := digitTail rest; (d :: ds, left)
      | none => ([], c :: rest)

/-- The number that decimal digits denote. -/
def ofDigits (digits : List Nat) : Nat :=
  digits.foldl (fun n d => 10 * n + d) 0

/-- A sign at the front of a text, true for minus, and what is left. -/
def signAndRest : List Char → Bool × List Char
  | '-' :: rest => (true, rest)
  | '+' :: rest => (false, rest)
  | text => (false, text)

/-- Read a whole numeral. -/
def readInt? (text : List Char) : Option Int :=
  let (negative, body) := signAndRest text
  match digitRun body with
  | ([], _) => none
  | (digits, []) =>
      if digits.length ≤ digitLimit then some (Double.signed negative (ofDigits digits)) else none
  | _ => none

/-- Why a text is no whole number. -/
inductive Flaw
  | notANumber (text : String)
  | tooManyDigits (count : Nat)
  deriving DecidableEq

/-- The wording of a flaw; of a long text the beginning is shown. -/
def Flaw.message : Flaw → String
  | .notANumber text =>
      "invalid literal for int() with base 10: " ++
        String.ofList ((literalQuoted text.toList).take 200)
  | .tooManyDigits count =>
      s!"Exceeds the limit ({digitLimit} digits) for integer string conversion: value has " ++
        s!"{count} digits; use sys.set_int_max_str_digits() to increase the limit"

/-- Read a whole numeral with white space around it, and say what is wrong if there is none. Digits are
counted before what follows them is looked at. -/
def readWhole (text : List Char) : Except Flaw Int :=
  let (negative, body) := signAndRest (trimNumeral text)
  match digitRun body with
  | ([], _) | (_, '_' :: _) => .error (.notANumber (String.ofList text))
  | (digits, rest) =>
      if digitLimit < digits.length then .error (.tooManyDigits digits.length)
      else if rest.isEmpty then .ok (Double.signed negative (ofDigits digits))
      else .error (.notANumber (String.ofList text))

/-- An exponent mark with its digits, or nothing; none if something else stands there. -/
def readExponent? : List Char → Option Int
  | [] => some 0
  | c :: rest =>
      if c = 'e' ∨ c = 'E' then
        let (negative, body) := signAndRest rest
        match digitRun body with
        | ([], _) => none
        | (digits, []) => some (Double.signed negative (ofDigits digits))
        | _ => none
      else none

/-- The digits after a point, if one stands at the front. -/
def readFraction : List Char → List Nat × List Char
  | '.' :: rest => digitRun rest
  | text => ([], text)

/-- A decimal numeral, read exactly: its sign, its digits as a whole number, and the power of ten
that the last digit counts. -/
structure Parts where
  negative : Bool
  digits : Nat
  exponent : Int

/-- Read the parts of a decimal numeral. -/
def readParts? (text : List Char) : Option Parts :=
  let (negative, body) := signAndRest text
  let (whole, afterWhole) := digitRun body
  let (fraction, afterFraction) := readFraction afterWhole
  if whole.isEmpty && fraction.isEmpty then none
  else (readExponent? afterFraction).map fun e =>
    ⟨negative, ofDigits (whole ++ fraction), e - fraction.length⟩

/-- Read a decimal numeral or one of the words `inf`, `infinity` and `nan` in letters of either
case. -/
def readDouble? (text : List Char) : Option Double :=
  match readParts? text with
  | some parts => some (Double.ofDecimal parts.negative parts.digits parts.exponent)
  | none =>
      let (negative, body) := signAndRest text
      let word := String.ofList (body.map Char.toLower)
      if word = "inf" ∨ word = "infinity" then some (.infinity negative)
      else if word = "nan" then some (.nan .computed)
      else none

theorem ofDigits_append (a b : List Nat) :
    ofDigits (a ++ b) = b.foldl (fun n d => 10 * n + d) (ofDigits a) := by
  simp [ofDigits, List.foldl_append]

end SchemaAlgebra.Numeral
