import SchemaAlgebra.Json.Parser
import SchemaAlgebra.Yaml.Error
import SchemaAlgebra.Yaml.Place

/-!
The four written forms of scalars: plain, in single or double quotes, and in blocks. In all of them a
single line end between two lines becomes a blank and further line ends stay, except that a literal
block keeps every line end and a block keeps the line ends around lines that are indented further.
-/

namespace SchemaAlgebra.Yaml

/-- A scalar that was read, and what is left. -/
structure Lexeme where
  text : List Char
  rest : List Place
  /-- Whether the scalar ends at the beginning of a line. -/
  onNewLine : Bool

namespace Scalar

open Place

/-- Whether a plain scalar ends before a character that is followed by another. -/
def endsPlain (flow : Bool) (c next : Char) : Bool :=
  separates c ||
    (c = ':' && (separates next || (flow && [',', '[', ']', '{', '}'].contains next))) ||
    (flow && [',', '?', '[', ']', '{', '}'].contains c)

/-- A run of a plain scalar without blanks, and what is left. -/
def plainRun (flow : Bool) : List Place → List Char × List Place
  | [] => ([], [])
  | place :: rest =>
      if endsPlain flow place.char (front rest) then ([], place :: rest)
      else
        let (run, left) := plainRun flow rest
        (place.char :: run, left)

/-- What stands between two runs of a plain scalar. -/
structure Gap where
  /-- The characters that the gap stands for; none if the scalar cannot go on behind it. -/
  text : Option (List Char)
  rest : List Place
  onNewLine : Bool

/-- The empty lines of a plain scalar: their line ends, and whether a document mark follows. -/
def plainBreaks : (fuel : Nat) → List Place → List Char × Bool × List Place
  | 0, text => ([], false, text)
  | fuel + 1, text =>
      if isDocumentMark text then ([], true, text)
      else
        let inner := skipBlanks text
        if isBreak (front inner) then
          let (first, rest) := takeBreak inner
          let (others, ended, left) := plainBreaks fuel rest
          (first ++ others, ended, left)
        else ([], false, inner)

/-- A line end and the empty lines after it, as they count in a folded scalar. -/
def fold (first others : List Char) : List Char :=
  if first ≠ ['\n'] then first ++ others else if others.isEmpty then [' '] else others

/-- The gap after a run of a plain scalar. -/
def plainGap (text : List Place) : Gap :=
  let (blanks, rest) := span (· = ' ') text
  if isBreak (front rest) then
    let (first, left) := takeBreak rest
    let (others, ended, left) := plainBreaks (left.length + 1) left
    ⟨if ended then none else some (fold first others), left, true⟩
  else ⟨if blanks.isEmpty then none else some blanks, rest, false⟩

/-- The runs of a plain scalar, indented at least by some columns, after a gap. -/
def plainRuns (flow : Bool) (indent : Int) : (fuel : Nat) → (gap : List Char) → (newLine : Bool) →
    List Place → Lexeme
  | 0, _, newLine, text => ⟨[], text, newLine⟩
  | fuel + 1, gap, newLine, text =>
      match plainRun flow text with
      | ([], _) => ⟨[], text, newLine⟩
      | (run, rest) =>
          let next := plainGap rest
          match next.text with
          | none => ⟨gap ++ run, next.rest, next.onNewLine⟩
          | some between =>
              if front next.rest = '#' || (!flow && (columnOf next.rest : Int) < indent) then
                ⟨gap ++ run, next.rest, next.onNewLine⟩
              else
                let others := plainRuns flow indent fuel between next.onNewLine next.rest
                { others with text := gap ++ run ++ others.text }

/-- Read a plain scalar inside something indented by `indent`. -/
def plain (flow : Bool) (indent : Int) (text : List Place) : Lexeme :=
  plainRuns flow (indent + 1) text.length [] false text

/-- The empty lines in a quoted scalar; a document mark must not be there. -/
def quotedBreaks : (fuel : Nat) → List Place → Except Error (List Char × List Place)
  | 0, _ => .error .malformed
  | fuel + 1, text =>
      if isDocumentMark text then .error .malformed
      else
        let inner := text.dropWhile fun place => place.char = ' ' || place.char = '\t'
        if isBreak (front inner) then do
          let (first, rest) := takeBreak inner
          let (others, left) ← quotedBreaks fuel rest
          return (first ++ others, left)
        else .ok ([], inner)

/-- The character that an escape with one letter stands for. -/
def escaped? : Char → Option Char
  | '0' => some '\x00'
  | 'a' => some '\x07'
  | 'b' => some '\x08'
  | 't' | '\t' => some '\t'
  | 'n' => some '\n'
  | 'v' => some '\x0b'
  | 'f' => some '\x0c'
  | 'r' => some '\r'
  | 'e' => some '\x1b'
  | ' ' => some ' '
  | '"' => some '"'
  | '\\' => some '\\'
  | '/' => some '/'
  | 'N' => some '\x85'
  | '_' => some '\xa0'
  | 'L' => some '\u2028'
  | 'P' => some '\u2029'
  | _ => none

/-- How many hexadecimal digits follow the letter of an escape. -/
def escapeWidth? : Char → Option Nat
  | 'x' => some 2
  | 'u' => some 4
  | 'U' => some 8
  | _ => none

/-- The text of the code point with a hexadecimal number. -/
def hexText (digits : List Char) : Except Error (List Char) :=
  match digits.mapM Json.hexValue? with
  | none => .error .malformed
  | some values =>
      let code := values.foldl (fun n d => 16 * n + d) 0
      if code < 0x110000 then .ok (Text.ofCode code) else .error (.noCharacter code)

/-- Read an escape behind its backslash. -/
def escape (text : List Place) : Except Error (List Char × List Place) :=
  let letter := front text
  if isBreak letter then
    let (_, rest) := takeBreak text
    quotedBreaks (rest.length + 1) rest
  else
    match escaped? letter, escapeWidth? letter with
    | some c, _ => .ok ([c], text.drop 1)
    | none, some width => do
        let chars ← hexText (((text.drop 1).take width).map Place.char)
        return (chars, text.drop (width + 1))
    | none, none => .error .malformed

/-- Read a quoted scalar behind its first quote. -/
def quoted (quote : Char) : (fuel : Nat) → List Place → Except Error (List Char × List Place)
  | 0, _ => .error .malformed
  | fuel + 1, text => do
      let c := front text
      if c = quote then
        if quote = '\'' && ahead text 1 = quote then
          let (others, left) ← quoted quote fuel (text.drop 2)
          return (quote :: others, left)
        else return ([], text.drop 1)
      else if c = endMark then .error .malformed
      else if c = ' ' || c = '\t' || isBreak c then
        let (blanks, rest) := span (fun c => c = ' ' || c = '\t') text
        if isBreak (front rest) then
          let (first, rest) := takeBreak rest
          let (breaks, rest) ← quotedBreaks (rest.length + 1) rest
          let (others, left) ← quoted quote fuel rest
          return (fold first breaks ++ others, left)
        else
          let (others, left) ← quoted quote fuel rest
          return (blanks ++ others, left)
      else if c = '\\' && quote = '"' then
        let (chars, rest) ← escape (text.drop 1)
        let (others, left) ← quoted quote fuel rest
        return (chars ++ others, left)
      else
        let (others, left) ← quoted quote fuel (text.drop 1)
        return (c :: others, left)

/-- What becomes of the line ends at the end of a block. -/
inductive Chomping
  | strip
  | clip
  | keep

/-- How a block is written: what its head says. -/
structure BlockHead where
  chomping : Chomping
  increment : Option Nat

/-- Read a sign that says what becomes of the line ends. -/
def chompingSign? : Char → Option Chomping
  | '+' => some .keep
  | '-' => some .strip
  | _ => none

/-- The digit that says how far a block is indented; zero is none. -/
def incrementDigit? (c : Char) : Option Nat :=
  if '1' ≤ c && c ≤ '9' then some (c.toNat - 48) else none

/-- Read the head of a block behind its first character, up to the end of the line. -/
def blockHead? (text : List Place) : Option (BlockHead × List Place) := do
  let (head, rest) : BlockHead × List Place :=
    match chompingSign? (front text), incrementDigit? (front text) with
    | some chomping, _ =>
        match incrementDigit? (ahead text 1) with
        | some n => (⟨chomping, some n⟩, text.drop 2)
        | none => (⟨chomping, none⟩, text.drop 1)
    | none, some n =>
        match chompingSign? (ahead text 1) with
        | some chomping => (⟨chomping, some n⟩, text.drop 2)
        | none => (⟨.clip, some n⟩, text.drop 1)
    | none, none => (⟨.clip, none⟩, text)
  if endsWord (front rest) then
    let after := skipBlanks rest
    let line := if front after = '#' then skipLine after else after
    if endsLine (front line) then return (head, (takeBreak line).2) else none
  else none

/-- The blanks and empty lines at the front of a block: the line ends, the furthest column that is
reached by blanks, and what is left. -/
def blockLead (furthest : Nat) : (fuel : Nat) → List Place → List Char × Nat × List Place
  | 0, text => ([], furthest, text)
  | fuel + 1, text =>
      if front text = ' ' then blockLead (max furthest (columnOf text + 1)) fuel (text.drop 1)
      else if isBreak (front text) then
        let (first, rest) := takeBreak text
        let (others, furthest, left) := blockLead furthest fuel rest
        (first ++ others, furthest, left)
      else ([], furthest, text)

/-- Skip blanks up to a column. -/
def skipIndent (indent : Nat) : List Place → List Place
  | [] => []
  | place :: rest =>
      if place.char = ' ' && place.column < indent then skipIndent indent rest else place :: rest

/-- The empty lines of a block, and what is left behind the indentation of the next line. -/
def blockBreaks (indent : Nat) : (fuel : Nat) → List Place → List Char × List Place
  | 0, text => ([], text)
  | fuel + 1, text =>
      let inner := skipIndent indent text
      if isBreak (front inner) then
        let (first, rest) := takeBreak inner
        let (others, left) := blockBreaks indent fuel rest
        (first ++ others, left)
      else ([], inner)

/-- What comes between two lines of a block. -/
def blockJoint (folded : Bool) (line next : Char) (first others : List Char) : List Char :=
  let indented (c : Char) := c = ' ' || c = '\t'
  if folded && first = ['\n'] && !indented line && !indented next then
    if others.isEmpty then [' '] else others
  else first ++ others

/-- The lines of a block, from behind the indentation of one of them on. -/
def blockLines (folded : Bool) (chomping : Chomping) (indent : Nat) : (fuel : Nat) → List Place →
    List Char × List Place
  | 0, text => ([], text)
  | fuel + 1, text =>
      let (line, rest) := span (fun c => !endsLine c) text
      let (first, rest) := takeBreak rest
      let (others, rest) := blockBreaks indent (rest.length + 1) rest
      if columnOf rest = indent && front rest ≠ endMark then
        let (below, left) := blockLines folded chomping indent fuel rest
        (line ++ blockJoint folded (front text) (front rest) first others ++ below, left)
      else
        match chomping with
        | .strip => (line, rest)
        | .clip => (line ++ first, rest)
        | .keep => (line ++ first ++ others, rest)

/-- Read a block behind its first character, inside something indented by `indent`. -/
def block (folded : Bool) (indent : Int) (text : List Place) : Option (List Char × List Place) := do
  let (head, body) ← blockHead? text
  let least := (indent + 1).toNat.max 1
  let fuel := body.length + 1
  let (lead, column, rest) := match head.increment with
    | some n =>
        let column := least + n - 1
        let (lead, rest) := blockBreaks column fuel body
        (lead, column, rest)
    | none =>
        let (lead, furthest, rest) := blockLead 0 fuel body
        (lead, max least furthest, rest)
  if columnOf rest = column && front rest ≠ endMark then
    let (lines, left) := blockLines folded head.chomping column fuel rest
    return (lead ++ lines, left)
  else
    match head.chomping with
    | .keep => return (lead, rest)
    | _ => return ([], rest)

end Scalar

end SchemaAlgebra.Yaml
