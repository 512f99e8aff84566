import SchemaAlgebra.Number.Numeral
import SchemaAlgebra.Yaml.Moment

/-!
Why a YAML text has no value. Most rules that a text can break are rules of the language; a scalar whose
tag says what it is can also fail to be that.
-/

namespace SchemaAlgebra.Yaml

/-- Why a text has no value. -/
inductive Error
  /-- The text breaks a rule of YAML. -/
  | malformed
  /-- A scalar stands for itself. -/
  | endless
  /-- An escape with a number that no character has. -/
  | noCharacter (code : Nat)
  /-- A whole number with digits that are none in its base. -/
  | notWhole (base : Nat) (digits : String)
  /-- A whole number with too many digits. -/
  | tooManyDigits (count : Nat)
  /-- A decimal number that is none. -/
  | notDecimal (text : String)
  /-- A number without characters. -/
  | emptyNumber
  /-- A truth value that is none of the words for one. -/
  | notATruthWord
  /-- A time whose text is not written like one. -/
  | notATime
  /-- A time whose node is no scalar. -/
  | timeWithoutText
  /-- A time that does not exist. -/
  | noSuchTime (cause : Moment.Error)

/-- The least number that is too large to be looked up among the characters. -/
def codeLimit : Nat := 2147483648

/-- The wording of an error in a value; some have none. -/
def Error.message : Error → Option String
  | .noCharacter code =>
      if code < codeLimit then some "chr() arg not in range(0x110000)" else none
  | .notWhole base digits => some
      (s!"invalid literal for int() with base {base}: " ++
        String.ofList ((Text.literalQuoted digits.toList).take 200))
  | .tooManyDigits count => some (Numeral.Flaw.tooManyDigits count).message
  | .notDecimal text => some ("could not convert string to float: " ++ quoteLiteral text)
  | .noSuchTime cause => some cause.message
  | _ => none

/-- The kinds of errors in a value, as callers tell them apart. Most are errors of the value itself; the
others come from looking up what is not there. -/
inductive Error.Kind
  | value
  | key
  | index
  | attribute
  | type
  | overflow
  | endless
  deriving DecidableEq

/-- The kind of an error in a value. -/
def Error.kind (error : Error) : Error.Kind :=
  match error with
  | .endless => .endless
  | .noCharacter _ => if error.message.isSome then .value else .overflow
  | .emptyNumber => .index
  | .notATruthWord => .key
  | .notATime => .attribute
  | .timeWithoutText => .type
  | .malformed | .notWhole _ _ | .tooManyDigits _ | .notDecimal _ | .noSuchTime _ => .value

end SchemaAlgebra.Yaml
