import SchemaAlgebra.Text.Percent
import SchemaAlgebra.Yaml.Scalar

/-!
The tokens of a YAML text. Indentation is told by tokens that open and close blocks. Whether a scalar
is a key is known only at the colon behind it, so a place where a key can begin is remembered, and the
tokens for a key are put in there later; a key has to stand on one line and within 1024 characters.
-/

namespace SchemaAlgebra.Yaml

/-- A line at the top of a document. -/
inductive Directive
  | version (major : Nat)
  | tag (handle lead : String)
  | other

/-- A token. -/
inductive Token
  | directive (directive : Directive)
  | documentStart
  | documentEnd
  | blockSequenceStart
  | blockMappingStart
  | blockEnd
  | flowSequenceStart
  | flowSequenceEnd
  | flowMappingStart
  | flowMappingEnd
  | blockEntry
  | flowEntry
  | key
  | value
  | alias (name : String)
  | anchor (name : String)
  | tag (handle : Option String) (suffix : String)
  | scalar (text : String) (plain : Bool)
  /-- An escape that denotes no character, which nothing is read behind. -/
  | noCharacter (code : Nat)

/-- A place where a key may have begun. -/
structure KeyPlace where
  /-- The number of tokens before it. -/
  index : Nat
  /-- Whether nothing but a key can stand there. -/
  required : Bool
  offset : Nat
  line : Nat
  column : Nat

/-- A text being read: the tokens so far, the flow collections and blocks that are open, and where
keys may have begun, by the number of flow collections around them. -/
structure Lexer where
  rest : List Place
  tokens : Array Token
  flow : Nat
  indent : Int
  indents : List Int
  keyAllowed : Bool
  keys : List (Nat × KeyPlace)

namespace Lexer

open Place

/-- The beginning of a text. -/
def start (text : List Char) : Lexer :=
  let rest := places 0 0 0 text
  ⟨if front rest = '\ufeff' then rest.drop 1 else rest, #[], 0, -1, [], true, []⟩

/-- Add a token that takes some characters. -/
def emit (lexer : Lexer) (token : Token) (rest : List Place) : Lexer :=
  { lexer with tokens := lexer.tokens.push token, rest := rest }

/-- The next characters. -/
def char (lexer : Lexer) (ahead : Nat) : Char :=
  Place.ahead lexer.rest ahead

/-- The column of the next character. -/
def column (lexer : Lexer) : Nat :=
  columnOf lexer.rest

/-- Skip blanks, comments and line ends; a key may begin on a new line outside flow collections. -/
def skipGaps : (fuel : Nat) → Lexer → Lexer
  | 0, lexer => lexer
  | fuel + 1, lexer =>
      let rest := skipBlanks lexer.rest
      let line := if front rest = '#' then skipLine rest else rest
      if isBreak (front line) then
        skipGaps fuel
          { lexer with rest := (takeBreak line).2, keyAllowed := lexer.keyAllowed || lexer.flow = 0 }
      else { lexer with rest := line }

/-- Whether a key that began at a place cannot end here any more. -/
def isStale (lexer : Lexer) (key : KeyPlace) : Bool :=
  match lexer.rest with
  | [] => true
  | place :: _ => key.line ≠ place.line || 1024 < place.offset - key.offset

/-- Forget where keys can have begun no more; a required key must not be among them. -/
def dropStale (lexer : Lexer) : Option Lexer :=
  if lexer.keys.any fun entry => lexer.isStale entry.2 && entry.2.required then none
  else some { lexer with keys := lexer.keys.filter fun entry => !lexer.isStale entry.2 }

/-- Forget that a key may have begun in the present collection; it must not have been required. -/
def dropKey (lexer : Lexer) : Option Lexer :=
  match lexer.keys.lookup lexer.flow with
  | some key =>
      if key.required then none
      else some { lexer with keys := lexer.keys.filter fun entry => entry.1 ≠ lexer.flow }
  | none => some lexer

/-- Remember that a key may begin here, if one is allowed. -/
def saveKey (lexer : Lexer) : Option Lexer := do
  if lexer.keyAllowed then
    let cleared ← lexer.dropKey
    match lexer.rest with
    | [] => none
    | place :: _ =>
        let required := lexer.flow = 0 && lexer.indent = place.column
        let key : KeyPlace := ⟨lexer.tokens.size, required, place.offset, place.line, place.column⟩
        return { cleared with keys := (lexer.flow, key) :: cleared.keys }
  else return lexer

/-- Close the blocks that are indented further than a column. -/
def closeBlocks (column : Int) : (indents : List Int) → Lexer → Lexer
  | [], lexer => lexer
  | outer :: indents, lexer =>
      if lexer.flow = 0 && column < lexer.indent then
        closeBlocks column indents
          { lexer with tokens := lexer.tokens.push .blockEnd, indent := outer, indents := indents }
      else lexer

/-- Close the blocks that end at a column. -/
def unwind (lexer : Lexer) (column : Int) : Lexer :=
  closeBlocks column lexer.indents lexer

/-- Open a block at a column unless one is open there; its token goes to the given place. -/
def openBlock (lexer : Lexer) (column : Nat) (token : Token) (index : Nat) : Lexer :=
  if lexer.flow = 0 && lexer.indent < column then
    { lexer with
      indents := lexer.indent :: lexer.indents
      indent := column
      tokens := lexer.tokens.insertIdxIfInBounds index token }
  else lexer

/-- End the text: every block is closed. -/
def finish (lexer : Lexer) : Option Lexer :=
  (lexer.unwind (-1)).dropKey

/-- Read a token that stands outside all blocks. -/
def topLevel (lexer : Lexer) (token : Token) (rest : List Place) : Option Lexer := do
  let cleared ← (lexer.unwind (-1)).dropKey
  return { cleared.emit token rest with keyAllowed := false }

/-- Whether a character is part of the name of an anchor, a directive or a handle. -/
def isNameChar (c : Char) : Bool :=
  c.isAlphanum || c = '-' || c = '_'

/-- Whether a character is part of the address in a tag. -/
def isTagChar (c : Char) : Bool :=
  c.isAlphanum || "-;/?:@&=+$,_.!~*'()[]%".toList.contains c

/-- Read the address in a tag. -/
def tagAddress? (text : List Place) : Option (String × List Place) :=
  match span isTagChar text with
  | ([], _) => none
  | (chars, rest) =>
      if Text.isEncoded chars then some (String.ofList (Text.percentDecoded chars), rest) else none

/-- Read the handle of a tag. -/
def tagHandle? (text : List Place) : Option (String × List Place) := do
  if front text ≠ '!' then none
  else
    let (name, rest) := span isNameChar (text.drop 1)
    if front rest = '!' then
      return (String.ofList ('!' :: (name ++ ['!'])), rest.drop 1)
    else if name.isEmpty && front rest = ' ' then return ("!", rest)
    else none

/-- Read the number at the front. -/
def number? (text : List Place) : Option (Nat × List Place) :=
  match span Char.isDigit text with
  | ([], _) => none
  | (digits, rest) => some (Json.digitsValue digits, rest)

/-- Read a directive behind its percent sign. -/
def directive? (text : List Place) : Option (Directive × List Place) := do
  let (name, rest) := span isNameChar text
  if name.isEmpty || !endsWord (front rest) then none
  else
    let (directive, after) ←
      match String.ofList name with
      | "YAML" => do
          let (major, rest) ← number? (skipBlanks rest)
          if front rest ≠ '.' then none
          else
            let (_, rest) ← number? (rest.drop 1)
            if endsWord (front rest) then some (Directive.version major, rest) else none
      | "TAG" => do
          let (handle, rest) ← tagHandle? (skipBlanks rest)
          if front rest ≠ ' ' then none
          else
            let (lead, rest) ← tagAddress? (skipBlanks rest)
            if endsWord (front rest) then some (Directive.tag handle lead, rest) else none
      | _ => some (Directive.other, skipLine rest)
    let gap := skipBlanks after
    let line := if front gap = '#' then skipLine gap else gap
    if endsLine (front line) then return (directive, (takeBreak line).2) else none

/-- Read the name of an anchor or alias behind its first character. -/
def anchorName? (text : List Place) : Option (String × List Place) :=
  match span isNameChar text with
  | ([], _) => none
  | (name, rest) =>
      let next := front rest
      if separates next || "?:,]\x7d%@`".toList.contains next then some (String.ofList name, rest)
      else none

/-- Read a tag that begins with an exclamation mark. -/
def tag? (text : List Place) : Option (Token × List Place) := do
  let next := ahead text 1
  let (token, rest) ←
    if next = '<' then do
      let (address, rest) ← tagAddress? (text.drop 2)
      if front rest = '>' then some (Token.tag none address, rest.drop 1) else none
    else if separates next then some (Token.tag none "!", text.drop 1)
    else do
      let (word, _) := span (fun c => !endsWord c) (text.drop 1)
      let (handle, rest) ← if word.contains '!' then tagHandle? text else some ("!", text.drop 1)
      let (suffix, rest) ← tagAddress? rest
      some (Token.tag (some handle) suffix, rest)
  if endsWord (front rest) then return (token, rest) else none

/-- Begin a flow collection. -/
def openFlow (lexer : Lexer) (token : Token) : Option Lexer := do
  let saved ← lexer.saveKey
  return { saved.emit token (lexer.rest.drop 1) with flow := lexer.flow + 1, keyAllowed := true }

/-- End a flow collection. -/
def closeFlow (lexer : Lexer) (token : Token) : Option Lexer := do
  let cleared ← lexer.dropKey
  match lexer.flow with
  | 0 => none
  | outer + 1 =>
      return { cleared.emit token (lexer.rest.drop 1) with flow := outer, keyAllowed := false }

/-- Read a hyphen that begins an item. -/
def blockEntry (lexer : Lexer) : Option Lexer := do
  if lexer.flow = 0 && !lexer.keyAllowed then none
  else
    let opened := lexer.openBlock lexer.column .blockSequenceStart lexer.tokens.size
    let cleared ← { opened with keyAllowed := true }.dropKey
    return cleared.emit .blockEntry (lexer.rest.drop 1)

/-- Read a question mark that begins a key. -/
def keyMark (lexer : Lexer) : Option Lexer := do
  if lexer.flow = 0 && !lexer.keyAllowed then none
  else
    let opened := lexer.openBlock lexer.column .blockMappingStart lexer.tokens.size
    let cleared ← { opened with keyAllowed := lexer.flow = 0 }.dropKey
    return cleared.emit .key (lexer.rest.drop 1)

/-- Read a colon that begins a value. The key before it began at a remembered place, or with a
question mark. -/
def valueMark (lexer : Lexer) : Option Lexer := do
  match lexer.keys.lookup lexer.flow with
  | some key =>
      let marked := { lexer with
        keys := lexer.keys.filter fun entry => entry.1 ≠ lexer.flow
        tokens := lexer.tokens.insertIdxIfInBounds key.index .key
        keyAllowed := false }
      let opened := marked.openBlock key.column .blockMappingStart key.index
      return opened.emit .value (lexer.rest.drop 1)
  | none =>
      if lexer.flow = 0 && !lexer.keyAllowed then none
      else
        let opened := lexer.openBlock lexer.column .blockMappingStart lexer.tokens.size
        return { opened.emit .value (lexer.rest.drop 1) with keyAllowed := lexer.flow = 0 }

/-- Read something that can be a key. -/
def asKey (lexer : Lexer) (token : Token) (rest : List Place) : Option Lexer := do
  return { (← lexer.saveKey).emit token rest with keyAllowed := false }

/-- Read a block scalar. -/
def blockScalar (lexer : Lexer) (folded : Bool) : Option Lexer := do
  let cleared ← lexer.dropKey
  let (text, rest) ← Scalar.block folded lexer.indent (lexer.rest.drop 1)
  return { cleared.emit (.scalar (String.ofList text) false) rest with keyAllowed := true }

/-- Read a quoted scalar. -/
def quotedScalar (lexer : Lexer) (quote : Char) : Option Lexer :=
  match Scalar.quoted quote lexer.rest.length (lexer.rest.drop 1) with
  | .ok (text, rest) => lexer.asKey (.scalar (String.ofList text) false) rest
  | .error (.noCharacter code) => some { lexer.emit (.noCharacter code) [] with keys := [] }
  | .error _ => none

/-- Read a plain scalar. A key may begin after it if it ends on a new line. -/
def plainScalar (lexer : Lexer) : Option Lexer := do
  let found := Scalar.plain (lexer.flow ≠ 0) lexer.indent lexer.rest
  let read ← lexer.asKey (.scalar (String.ofList found.text) true) found.rest
  return { read with keyAllowed := found.onNewLine }

/-- Whether a plain scalar begins here. -/
def beginsPlain (lexer : Lexer) : Bool :=
  let c := lexer.char 0
  let inner := !separates (lexer.char 1)
  !(separates c || "-?:,[]\x7b\x7d#&*!|>'\"%@`".toList.contains c) ||
    (inner && (c = '-' || (lexer.flow = 0 && (c = '?' || c = ':'))))

/-- Read one token, which begins here. -/
def token (lexer : Lexer) : Option Lexer :=
  let c := lexer.char 0
  let word := separates (lexer.char 1)
  let block := lexer.flow = 0
  if c = '%' && lexer.column = 0 then do
    let (directive, rest) ← directive? (lexer.rest.drop 1)
    lexer.topLevel (.directive directive) rest
  else if lexer.column = 0 && isSeparator '-' lexer.rest then
    lexer.topLevel .documentStart (lexer.rest.drop 3)
  else if lexer.column = 0 && isSeparator '.' lexer.rest then
    lexer.topLevel .documentEnd (lexer.rest.drop 3)
  else if c = '[' then lexer.openFlow .flowSequenceStart
  else if c = '\x7b' then lexer.openFlow .flowMappingStart
  else if c = ']' then lexer.closeFlow .flowSequenceEnd
  else if c = '\x7d' then lexer.closeFlow .flowMappingEnd
  else if c = ',' then do
    let cleared ← lexer.dropKey
    return { cleared.emit .flowEntry (lexer.rest.drop 1) with keyAllowed := true }
  else if c = '-' && word then lexer.blockEntry
  else if c = '?' && (!block || word) then lexer.keyMark
  else if c = ':' && (!block || word) then lexer.valueMark
  else if c = '*' then do
    let (name, rest) ← anchorName? (lexer.rest.drop 1)
    lexer.asKey (.alias name) rest
  else if c = '&' then do
    let (name, rest) ← anchorName? (lexer.rest.drop 1)
    lexer.asKey (.anchor name) rest
  else if c = '!' then do
    let (token, rest) ← tag? lexer.rest
    lexer.asKey token rest
  else if c = '|' && block then lexer.blockScalar false
  else if c = '>' && block then lexer.blockScalar true
  else if c = '\'' || c = '"' then lexer.quotedScalar c
  else if lexer.beginsPlain then lexer.plainScalar
  else none

/-- Read tokens up to the end of the text. -/
def run : (fuel : Nat) → Lexer → Option Lexer
  | 0, _ => none
  | fuel + 1, lexer => do
      let ready ← (lexer.skipGaps (lexer.rest.length + 1)).dropStale
      let placed := ready.unwind ready.column
      if placed.char 0 = endMark then placed.finish
      else run fuel (← placed.token)

end Lexer

/-- The tokens of a text; none if it is malformed. -/
def Token.ofText? (text : List Char) : Option (List Token) := do
  if text.all isAllowed && !Text.hasHalves text then
    return (← Lexer.run (text.length + 2) (.start text)).tokens.toList
  else none

end SchemaAlgebra.Yaml
