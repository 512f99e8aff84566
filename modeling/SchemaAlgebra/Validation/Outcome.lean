import SchemaAlgebra.Json.Literal
import SchemaAlgebra.Pattern.Parser
import SchemaAlgebra.Validation.Options

/-!
What can end a validation before it has an answer. Violations of a schema are no faults: they are
collected. A fault comes from a schema that passes its own check and still cannot be evaluated, or
from a number beyond what can be computed or written. A reference can lead to a value that nothing has
checked; there every keyword can meet a value that its rule cannot use.
-/

namespace SchemaAlgebra

/-- Why a validation ended without an answer. -/
inductive Fault
  /-- A value was asked for a type that does not exist. -/
  | unknownType
  /-- A whole number has too many digits to be written. -/
  | tooManyDigits
  /-- An undefined quotient was to be a whole number. -/
  | undefinedQuotient
  /-- A multiple of zero was asked for. -/
  | zeroFactor
  /-- A whole number is too large for a double, or an infinity was to be a quotient of whole
  numbers. -/
  | tooLarge
  /-- A value of a kind that a rule cannot work with. -/
  | unusable
  /-- A value of a kind in which a rule can look nothing up. -/
  | noMembers
  /-- A regular expression that cannot be used. -/
  | pattern (defect : Pattern.Defect)
  /-- References lead on without end. -/
  | endlessReference
  /-- A pointer leads nowhere in the document. -/
  | nowhere (pointer : String) (document : Json)
  /-- No subschema carries the anchor. -/
  | noAnchor (name : String) (document : Json)
  /-- A name that can be no anchor, since it has slashes, but lacks the slash of a pointer. -/
  | noPointer (name : String)
  /-- A reference to a document that is not known. -/
  | unknownDocument (reference : String)
  /-- A token that should be the index of an item is none. -/
  | notAnIndex (flaw : Numeral.Flaw)

namespace Fault

/-- The wording of a fault; some have none. -/
def message : Fault → Option String
  | .tooManyDigits => some
      (s!"Exceeds the limit ({Numeral.digitLimit} digits) for integer string conversion; " ++
        "use sys.set_int_max_str_digits() to increase the limit")
  | .undefinedQuotient => some "cannot convert float NaN to integer"
  | .pattern defect => defect.message
  | .nowhere pointer document =>
      let hint := if pointer = "/" then
          ". The pointer '/' is a valid JSON Pointer but it points to an empty string property " ++
            "''. If you intended to point to the entire resource, you should use '#'."
        else ""
      some s!"PointerToNowhere: {quoteLiteral pointer} does not exist within {document.literal}{hint}"
  | .noAnchor name document =>
      some s!"NoSuchAnchor: {quoteLiteral name} does not exist within {document.literal}"
  | .noPointer name =>
      some (s!"InvalidAnchor: '#{name}' is not a valid anchor, neither as a plain name anchor nor " ++
        s!"as a JSON Pointer. You may have intended to use '#/{name}', as the slash is required " ++
        "*before each segment* of a JSON pointer.")
  | .unknownDocument reference => some s!"Unresolvable: {reference}"
  | .notAnIndex flaw => some flaw.message
  | _ => none

end Fault

/-!
Violations of a schema and how they are reported: each with the path of the value, the keyword that
was broken and a message, and all of them together in one line.
-/

/-- A step from a value to a part of it. -/
inductive Step
  | member (key : Key)
  | index (i : Nat)
  deriving DecidableEq

/-- The text of a step: a key that is a whole number or a truth value looks like an index. -/
def Step.text : Step → String
  | .member (.int n) => "[" ++ (Key.int n).literal ++ "]"
  | .member (.bool b) => "[" ++ (Key.bool b).literal ++ "]"
  | .member key => "." ++ key.display
  | .index i => "[" ++ toString i ++ "]"

/-- The text of a path from the validated value. -/
def pathText (path : List Step) : String :=
  "data" ++ String.join (path.map Step.text)

/-- A violation found during evaluation; the value is kept only if it is a scalar. -/
structure Problem where
  path : List Step
  keyword : String
  message : String
  value : Json

/-- The problem seen from a value one step further out. -/
def Problem.under (step : Step) (problem : Problem) : Problem :=
  { problem with path := step :: problem.path }

/-- A violation as it is reported; a value that is null is not shown. The other parts are texts in
every violation that an evaluation finds. -/
structure Violation where
  path : Json
  keyword : Json
  message : Json
  value : Json

namespace Violation

/-- A problem as it is reported. -/
def ofProblem (problem : Problem) : Violation :=
  ⟨.string (pathText problem.path), .string problem.keyword, .string problem.message,
    problem.value⟩

/-- A violation in one line. -/
def text (violation : Violation) : String :=
  violation.path.display ++ " " ++ violation.message.display

/-- A violation with its parts named. -/
def literal (violation : Violation) : String :=
  "ValidationErrorDetail(path=" ++ violation.path.literal ++ ", keyword=" ++
    violation.keyword.literal ++ ", message=" ++ violation.message.literal ++ ")"

/-- Several violations in one line. -/
def report (violations : List Violation) (separator : String) : String :=
  if violations.isEmpty then "No errors" else separator.intercalate (violations.map text)

/-- The message of a validation that found violations. -/
def summary (violations : List Violation) : String :=
  "Invalid parameters: " ++ report violations ", "

/-- The number of violations, as the failed validation shows itself. -/
def countLiteral (violations : List Violation) : String :=
  "ValidationError(" ++ toString violations.length ++ " errors)"

end Violation

/-!
What evaluating a schema on a value yields: the value as normalization left it, the problems found,
and a fault if the evaluation could not be finished. Normalization done before a fault stays done.

An evaluation either collects every problem or stops at the first one; then nothing after that
problem is evaluated or normalized.
-/

/-- How far an evaluation goes. -/
inductive Extent
  | all
  | first
  deriving DecidableEq

/-- The result of an evaluation. -/
structure Outcome where
  value : Json
  problems : List Problem
  fault : Option Fault

namespace Outcome

/-- No problem with a value. -/
def accept (value : Json) : Outcome :=
  ⟨value, [], none⟩

/-- An evaluation that ended in a fault. -/
def fail (value : Json) (fault : Fault) : Outcome :=
  ⟨value, [], some fault⟩

/-- One problem with a value: the keyword, the values that the message shows, and the message. -/
def reject (value : Json) (keyword : String) (shown : List Json) (message : String) : Outcome :=
  if shown.all Json.isShowable then
    ⟨value, [⟨[], keyword, message, if value.isContainer then .null else value⟩], none⟩
  else fail value .tooManyDigits

/-- Whether the evaluation found no problem. -/
def isValid (outcome : Outcome) : Bool :=
  outcome.problems.isEmpty

/-- Whether an evaluation is over. -/
def isOver (outcome : Outcome) (extent : Extent) : Bool :=
  outcome.fault.isSome || (extent = .first && !outcome.problems.isEmpty)

/-- Go on with a further evaluation of the value, unless the evaluation is over. -/
def andThen (outcome : Outcome) (extent : Extent) (next : Json → Outcome) : Outcome :=
  if outcome.isOver extent then outcome
  else
    let later := next outcome.value
    ⟨later.value, outcome.problems ++ later.problems, later.fault⟩

/-- One evaluation after the other, from left to right. -/
def chain (extent : Extent) (steps : List (Json → Outcome)) (value : Json) : Outcome :=
  steps.foldl (fun outcome step => outcome.andThen extent step) (accept value)

/-- The outcome for a part of a value, put back into the whole; its problems are placed there. -/
def within (outcome : Outcome) (place : Problem → Problem) (whole : Json → Json) : Outcome :=
  ⟨whole outcome.value, outcome.problems.map place, outcome.fault⟩

@[simp] theorem accept_problems (value : Json) : (accept value).problems = [] := rfl

@[simp] theorem accept_value (value : Json) : (accept value).value = value := rfl

@[simp] theorem accept_fault (value : Json) : (accept value).fault = none := rfl

@[simp] theorem chain_nil (extent : Extent) (value : Json) :
    chain extent [] value = accept value := rfl

@[simp] theorem accept_andThen (value : Json) (extent : Extent) (next : Json → Outcome) :
    (accept value).andThen extent next = next value := by
  simp [andThen, isOver]

end Outcome

end SchemaAlgebra
