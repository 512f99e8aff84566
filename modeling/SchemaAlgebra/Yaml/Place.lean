import SchemaAlgebra.Text.Character

/-!
Text with places. Indentation decides what YAML means, so every character of a text is read together
with its place: its offset, line and column. A NUL character, which no text may hold, marks the end.
-/

namespace SchemaAlgebra.Yaml

/-- A character at its place. -/
structure Place where
  char : Char
  offset : Nat
  line : Nat
  column : Nat

/-- The mark at the end of a text. -/
def endMark : Char := '\x00'

/-- Whether a character ends a line. -/
def isBreak (c : Char) : Bool :=
  c = '\n' || c = '\r' || c = '\x85' || c = '\u2028' || c = '\u2029'

/-- Whether a line ends before a character. -/
def endsLine (c : Char) : Bool :=
  isBreak c || c = endMark

/-- Whether a line or a word ends before a character; a tab does not end the word. -/
def endsWord (c : Char) : Bool :=
  c = ' ' || endsLine c

/-- Whether a character separates: a blank, a tab or what ends a line. -/
def separates (c : Char) : Bool :=
  c = '\t' || endsWord c

/-- Whether a text may hold a character. -/
def isAllowed (c : Char) : Bool :=
  let n := c.toNat
  c = '\t' || c = '\n' || c = '\r' || c = '\x85' || (0x20 ≤ n && n ≤ 0x7e) ||
    (0xa0 ≤ n && n ≤ 0xd7ff) || (0xe000 ≤ n && n ≤ 0xfffd) || 0x10000 ≤ n

/-- Whether a character begins a new line after it; the first half of a two-character line end does
not, and a byte order mark takes no column. -/
def places (offset line column : Nat) : List Char → List Place
  | [] => [⟨endMark, offset, line, column⟩]
  | '\r' :: '\n' :: rest =>
      ⟨'\r', offset, line, column⟩ :: ⟨'\n', offset + 1, line, column + 1⟩ ::
        places (offset + 2) (line + 1) 0 rest
  | c :: rest =>
      ⟨c, offset, line, column⟩ ::
        if isBreak c then places (offset + 1) (line + 1) 0 rest
        else places (offset + 1) line (if c = '\ufeff' then column else column + 1) rest

namespace Place

/-- The character at the front. -/
def front : List Place → Char
  | [] => endMark
  | place :: _ => place.char

/-- The character behind some others. -/
def ahead (text : List Place) (count : Nat) : Char :=
  front (text.drop count)

/-- The column at the front. -/
def columnOf : List Place → Nat
  | [] => 0
  | place :: _ => place.column

/-- The characters at the front that pass a test, and what is left. -/
def span (test : Char → Bool) (text : List Place) : List Char × List Place :=
  ((text.takeWhile fun place => test place.char).map Place.char,
    text.dropWhile fun place => test place.char)

/-- What is left behind the blanks at the front. -/
def skipBlanks (text : List Place) : List Place :=
  text.dropWhile fun place => place.char = ' '

/-- What is left of a text from the end of the line on. -/
def skipLine (text : List Place) : List Place :=
  text.dropWhile fun place => !endsLine place.char

/-- A line end at the front, as it counts in a scalar, and what is left. The two Unicode separators
count as themselves, all others as a line feed. -/
def takeBreak : List Place → List Char × List Place
  | [] => ([], [])
  | place :: rest =>
      if place.char = '\r' && front rest = '\n' then (['\n'], rest.drop 1)
      else if place.char = '\u2028' || place.char = '\u2029' then ([place.char], rest)
      else if isBreak place.char then (['\n'], rest)
      else ([], place :: rest)

/-- Whether a line of three hyphens or three points stands at the front. -/
def isSeparator (mark : Char) (text : List Place) : Bool :=
  front text = mark && ahead text 1 = mark && ahead text 2 = mark && separates (ahead text 3)

/-- Whether a document begins or ends at the front. -/
def isDocumentMark (text : List Place) : Bool :=
  isSeparator '-' text || isSeparator '.' text

end Place

end SchemaAlgebra.Yaml
