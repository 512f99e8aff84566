import SchemaAlgebra.Format.Registry
import SchemaAlgebra.Json.Equality
import SchemaAlgebra.Pattern.Search
import SchemaAlgebra.Validation.Coercion
import SchemaAlgebra.Validation.Outcome

/-!
Keywords that compare a value with their argument and look at no subschema: types, enumerations,
bounds, lengths, patterns and formats. A keyword that does not apply to the kind of the value accepts
it.
-/

namespace SchemaAlgebra.Keyword

/-- The value has one of the types that are listed. -/
def checkType (argument value : Json) : Outcome :=
  let types? : Option (List Json) := match argument with
    | .string _ => some [argument]
    | _ => argument.elements?
  match types? with
  | none => .fail value .unusable
  | some types =>
      match value.hasOneOf .byValue types with
      | .error fault => .fail value fault
      | .ok true => .accept value
      | .ok false =>
          .reject value "type" [value] (value.literal ++ " is not of type " ++ Json.literals types)

/-- The value is one of the listed ones. -/
def checkEnum (argument value : Json) : Outcome :=
  match argument.elements? with
  | some elements =>
      if elements.any fun element => element.same value then .accept value
      else .reject value "enum" [value, argument]
        (value.literal ++ " is not one of " ++ argument.literal)
  | none => .fail value .unusable

/-- The value is the given one. -/
def checkConst (argument value : Json) : Outcome :=
  if value.same argument then .accept value
  else .reject value "const" [argument] (argument.literal ++ " was expected")

/-- A bound on numbers: the value is refused if the relation holds between it and the bound. A truth
value as a bound counts as zero or one. -/
def checkBound (keyword : String) (refused : Number → Number → Bool) (verdict : String)
    (argument value : Json) : Outcome :=
  match value.number?, argument.plainNumber? with
  | none, _ => .accept value
  | some _, none => .fail value .unusable
  | some number, some bound =>
      if refused number bound then
        .reject value keyword [value, argument] (value.literal ++ verdict ++ argument.literal)
      else .accept value

/-- Whether one quotient of whole numbers is a multiple of another, which is not zero. -/
def isExactMultiple (a b : Nat × Nat) : Bool :=
  (a.1 * b.2) % (b.1 * a.2) = 0

/-- The magnitude of a number as a quotient, if it is finite. -/
def finite? : Number → Option (Nat × Nat)
  | .int n => some (n.natAbs, 1)
  | .double (.finite _ m e) => some (Double.ratioOf m e)
  | .double _ => none

/-- Whether a number, which as a double is `a`, is a multiple of a double: their quotient, rounded to a
double, has no fraction. If the quotient is too large the question is decided exactly. -/
def isMultipleOfDouble (number : Number) (a b : Double) : Except Fault Bool :=
  match a.divide? b with
  | none => .error .zeroFactor
  | some (.nan _) => .error .undefinedQuotient
  | some (.infinity _) =>
      match finite? number, finite? (.double b) with
      | some x, some y => .ok (isExactMultiple x y)
      | _, _ => .error .tooLarge
  | some quotient => .ok quotient.toInt?.isSome

/-- Whether a number is a multiple of another. Only among whole numbers, and of a whole number, is
the question decided without rounding. -/
def isMultiple (a b : Number) : Except Fault Bool :=
  match a, b with
  | .int m, .int n => if n = 0 then .error .zeroFactor else .ok (m % n = 0)
  | .int m, .double d =>
      match Double.ofInt? m with
      | some c => isMultipleOfDouble a c d
      | none => .error .tooLarge
  | .double c, .double d => isMultipleOfDouble a c d
  | .double c, .int n =>
      match Double.ofInt? n with
      | none => .error .tooLarge
      | some d =>
          if n = 0 then .error .zeroFactor
          else
            match finite? (.double c), finite? (.double d) with
            | some x, some y => .ok (isExactMultiple x y)
            | _, _ => .ok false

/-- The value is a multiple of the argument. -/
def checkMultiple (argument value : Json) : Outcome :=
  match value.number?, argument.plainNumber? with
  | none, _ => .accept value
  | some _, none => .fail value .unusable
  | some number, some factor =>
      match isMultiple number factor with
      | .error fault => .fail value fault
      | .ok true => .accept value
      | .ok false => .reject value "multipleOf" [value, argument]
          (value.literal ++ " is not a multiple of " ++ argument.literal)

/-- A bound on a size: the value is refused if the relation holds between its size and the bound.
One bound has a wording of its own. -/
def checkSize (keyword : String) (size : Nat) (refused : Number → Number → Bool)
    (special : Int) (specialVerdict verdict : String) (argument value : Json) : Outcome :=
  match argument.plainNumber? with
  | none => .fail value .unusable
  | some bound =>
      if refused (.int size) bound then
        .reject value keyword [value]
          (value.literal ++ if bound.same (.int special) then specialVerdict else verdict)
      else .accept value

/-- A size is at least the argument. -/
def checkLeast (keyword : String) (size : Nat) (verdict : String) : Json → Json → Outcome :=
  checkSize keyword size Number.below 1 " should be non-empty" verdict

/-- A size is at most the argument. -/
def checkMost (keyword : String) (size : Nat) (verdict : String) : Json → Json → Outcome :=
  checkSize keyword size (fun size bound => bound.below size) 0 " is expected to be empty" verdict

/-- No two items are equal. -/
def checkUnique (argument value : Json) : Outcome :=
  match value with
  | .array items =>
      if argument.isTruthy && !Json.allDifferent items then
        .reject value "uniqueItems" [value] (value.literal ++ " has non-unique elements")
      else .accept value
  | _ => .accept value

/-- A regular expression matches somewhere in the text. -/
def checkPattern (argument value : Json) : Outcome :=
  match value, argument with
  | .string text, .string expression =>
      match Pattern.parse expression with
      | .error defect => .fail value (.pattern defect)
      | .ok pattern =>
          if pattern.search text then .accept value
          else .reject value "pattern" []
            (value.literal ++ " does not match " ++ argument.literal)
  | .string _, _ => .fail value .unusable
  | _, _ => .accept value

/-- The text has a format. -/
def checkFormat (argument value : Json) : Outcome :=
  match value, argument with
  | .string text, .string format =>
      match Format.accepts format text with
      | .error defect => .fail value (.pattern defect)
      | .ok true => .accept value
      | .ok false => .reject value "format" [] (value.literal ++ " is not a " ++ argument.literal)
  | _, _ => if argument.key?.isSome then .accept value else .fail value .unusable

/-- The check of a keyword that looks at no subschema; unknown keywords accept everything. -/
def check (keyword : String) (argument value : Json) : Outcome :=
  match keyword with
  | "type" => checkType argument value
  | "enum" => checkEnum argument value
  | "const" => checkConst argument value
  | "minimum" => checkBound keyword Number.below " is less than the minimum of " argument value
  | "maximum" =>
      checkBound keyword (fun number bound => bound.below number)
        " is greater than the maximum of " argument value
  | "exclusiveMinimum" =>
      checkBound keyword Number.atMost " is less than or equal to the minimum of " argument value
  | "exclusiveMaximum" =>
      checkBound keyword (fun number bound => bound.atMost number)
        " is greater than or equal to the maximum of " argument value
  | "multipleOf" => checkMultiple argument value
  | "minLength" =>
      match value with
      | .string text => checkLeast keyword (Text.size text) " is too short" argument value
      | _ => .accept value
  | "maxLength" =>
      match value with
      | .string text => checkMost keyword (Text.size text) " is too long" argument value
      | _ => .accept value
  | "minItems" =>
      match value with
      | .array items => checkLeast keyword items.length " is too short" argument value
      | _ => .accept value
  | "maxItems" =>
      match value with
      | .array items => checkMost keyword items.length " is too long" argument value
      | _ => .accept value
  | "minProperties" =>
      match value with
      | .object fields =>
          checkLeast keyword fields.length " does not have enough properties" argument value
      | _ => .accept value
  | "maxProperties" =>
      match value with
      | .object fields =>
          checkMost keyword fields.length " has too many properties" argument value
      | _ => .accept value
  | "uniqueItems" => checkUnique argument value
  | "pattern" => checkPattern argument value
  | "format" => checkFormat argument value
  | _ => .accept value

end SchemaAlgebra.Keyword
