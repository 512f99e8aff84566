import SchemaAlgebra.Format.Calendar
import SchemaAlgebra.Format.Identifier
import SchemaAlgebra.Pattern.Parser

/-!
The formats that are checked, by name. Any other format accepts every text. A text that is no regular
expression lacks that format; an expression that is well formed and cannot be used has no answer.
-/

namespace SchemaAlgebra.Format

/-- Whether a text is a regular expression. -/
def isExpression (text : String) : Except Pattern.Defect Bool :=
  match Pattern.parse text with
  | .ok _ => .ok true
  | .error .malformed => .ok false
  | .error defect => .error defect

/-- The check of a format, if it has one. -/
def check? : String → Option (String → Except Pattern.Defect Bool)
  | "date" => some fun text => .ok (isDate text.toList)
  | "email" | "idn-email" => some fun text => .ok (text.toList.contains '@')
  | "ipv4" => some fun text => .ok (isShortAddress text.toList)
  | "ipv6" => some fun text => .ok (isLongAddress text.toList)
  | "regex" => some isExpression
  | "time" => some fun text => .ok (isTime text.toList)
  | "uuid" => some fun text => .ok (isIdentifier text.toList)
  | _ => none

/-- Whether a text has a format. -/
def accepts (format text : String) : Except Pattern.Defect Bool :=
  match check? format with
  | some check => check text
  | none => .ok true

end SchemaAlgebra.Format
