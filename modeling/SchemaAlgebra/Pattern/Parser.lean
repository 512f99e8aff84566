import SchemaAlgebra.Number.Numeral
import SchemaAlgebra.Pattern.Basic
import SchemaAlgebra.Pattern.Entry
import SchemaAlgebra.Text.Character
import SchemaAlgebra.Text.CharacterName.Lookup
import SchemaAlgebra.Text.Code
import SchemaAlgebra.Text.Name

/-!
The tokens of regular expressions: a code point, or a backslash with the code point after it. A
backslash at the very end breaks off, and an expression is refused as soon as such a token comes next.
-/

namespace SchemaAlgebra.Pattern

/-- A token of a regular expression. -/
inductive Token
  | plain (code : Nat)
  | escaped (code : Nat)
  | brokenOff
  deriving DecidableEq, Inhabited

/-- The tokens of a row of code points. -/
def tokens : List Nat → List Token
  | [] => []
  | [code] => [if code = 92 then .brokenOff else .plain code]
  | code :: next :: rest =>
      if code = 92 then .escaped next :: tokens rest else .plain code :: tokens (next :: rest)

namespace Token

/-- Whether a token is a plain character. -/
def isChar (c : Char) (token : Token) : Bool :=
  token = .plain c.toNat

/-- The character that a token is, if it is plain and no half of a pair. -/
def char? : Token → Option Char
  | .plain code => if Text.isHalf code then none else some (Char.ofNat code)
  | _ => none

/-- The code points of a token. -/
def codes : Token → List Nat
  | .plain code => [code]
  | .escaped code => [92, code]
  | .brokenOff => [92]

/-- Whether a token is a plain character of a kind. -/
def isAny (allowed : Char → Bool) (token : Token) : Bool :=
  token.char?.any allowed

end Token

/-!
Reading regular expressions. Numbered and named groups, references back to them, looking ahead and
behind, atomic groups, conditionals, lazy and possessive loops, characters by name and inline flags are
understood. Flags for the whole expression stand at its start, and what is looked for behind has a
fixed width.
-/

/-- The flags in force at a place of an expression. -/
structure Flags where
  ignoreCase : Bool
  multiline : Bool
  dotAll : Bool
  ascii : Bool
  verbose : Bool
  /-- All scripts are asked for, which goes without saying. -/
  unicode : Bool
  /-- The expression is without loops. -/
  loopless : Bool
  deriving DecidableEq

namespace Flags

/-- No flags. -/
def none : Flags := ⟨false, false, false, false, false, false, false⟩

/-- Give the flag of a letter a value, if the letter is one of a flag. -/
def set? (flags : Flags) (letter : Char) (value : Bool) : Option Flags :=
  match letter with
  | 'i' => some { flags with ignoreCase := value }
  | 'm' => some { flags with multiline := value }
  | 's' => some { flags with dotAll := value }
  | 'a' => some { flags with ascii := value }
  | 'x' => some { flags with verbose := value }
  | 'u' => some { flags with unicode := value }
  | 't' => some { flags with loopless := value }
  | _ => Option.none

/-- How characters are compared under the flags. -/
def comparison (flags : Flags) : Comparison :=
  ⟨flags.ignoreCase, flags.ascii⟩

end Flags

/-- The least and the greatest number of characters a pattern can take. -/
structure Width where
  least : Nat
  most : Option Nat
  deriving DecidableEq

namespace Width

/-- The width of nothing. -/
def zero : Width := ⟨0, some 0⟩

/-- The width of two patterns in a row. -/
def plus (a b : Width) : Width :=
  ⟨a.least + b.least, do return (← a.most) + (← b.most)⟩

/-- The width of either of two patterns. -/
def either (a b : Width) : Width :=
  ⟨min a.least b.least, do return max (← a.most) (← b.most)⟩

/-- The width of a repeated pattern. -/
def times (a : Width) (least : Nat) (most : Option Nat) : Width :=
  ⟨a.least * least,
    if a.most = some 0 || most = some 0 then some 0 else do return (← a.most) * (← most)⟩

/-- The number of characters, if it is always the same. -/
def fixed? (a : Width) : Option Nat :=
  if a.most = some a.least then some a.least else none

end Width

mutual

/-- The width of a pattern, given the widths of the groups it may refer back to. -/
def width (known : List (Nat × Width)) : Pattern → Width
  | .charSet .. | .any _ => ⟨1, some 1⟩
  | .anchor _ | .look .. | .never => .zero
  | .sequence parts => widthAll known parts
  | .choice branches => widthEither known branches
  | .loop least most _ body => (width known body).times least most
  | .group _ body | .scoped body | .atomic body => width known body
  | .repeated number _ => (known.lookup number).getD .zero
  | .ifGroup _ yes no => (width known yes).either (width known no)

/-- The width of patterns in a row. -/
def widthAll (known : List (Nat × Width)) : List Pattern → Width
  | [] => .zero
  | part :: rest => (width known part).plus (widthAll known rest)

/-- The width of any of several patterns. -/
def widthEither (known : List (Nat × Width)) : List Pattern → Width
  | [] => .zero
  | [branch] => width known branch
  | branch :: rest => (width known branch).either (widthEither known rest)

end

/-- Why a text is no regular expression that can be used. -/
inductive Defect
  | malformed
  /-- The flags for the Basic Latin block and for all scripts are both set. -/
  | clashingFlags
  /-- A loop is to make more rounds than can be counted. -/
  | tooManyRounds
  /-- The number of rounds has too many digits. -/
  | tooManyDigits (count : Nat)
  deriving DecidableEq

/-- The wording of a defect; some have none. -/
def Defect.message : Defect → Option String
  | .clashingFlags => some "ASCII and UNICODE flags are incompatible"
  | .tooManyDigits count => some (Numeral.Flaw.tooManyDigits count).message
  | _ => none

/-- The state of the reader: what is left, the flags of the whole expression, the number of the next
group, the names of groups, the widths of the closed ones, the next group at the start of the
outermost look behind, the groups that conditions ask for, and whether all that is looked for behind
has a fixed width. -/
structure Reading where
  rest : List Token
  flags : Flags
  next : Nat
  names : List (List Nat × Nat)
  closed : List (Nat × Width)
  behind : Option Nat
  asked : List Nat
  fixedBehind : Bool

/-- A step of the reader. -/
abbrev Reader := StateT Reading (Except Defect)

namespace Reader

/-- The expression is not well formed. -/
def malformed {α : Type} : Reader α :=
  throw .malformed

/-- Go on with some tokens; the first of them must not be broken off. -/
def goOn (rest : List Token) : Reader Unit :=
  if rest.head? = some .brokenOff then malformed
  else modify fun state => { state with rest := rest }

/-- The next token, left in place. -/
def peek : Reader (Option Token) :=
  return (← get).rest.head?

/-- Whether the next token is a plain character. -/
def isNext (c : Char) : Reader Bool := do
  return (← peek).any (Token.isChar c)

/-- The next token; there has to be one. -/
def take : Reader Token := do
  match (← get).rest with
  | [] => malformed
  | token :: rest =>
      goOn rest
      return token

/-- Take the next token if it is the given character. -/
def accept (c : Char) : Reader Bool := do
  if ← isNext c then
    let _ ← take
    return true
  else return false

/-- Take a character that has to be there. -/
def expect (c : Char) : Reader Unit := do
  if ← accept c then return () else malformed

/-- Take at most `count` plain characters as long as they satisfy a condition. -/
def takeUpTo (allowed : Char → Bool) : Nat → Reader (List Char)
  | 0 => return []
  | count + 1 => do
      match (← peek).bind Token.char? with
      | some c =>
          if allowed c then
            let _ ← take
            return c :: (← takeUpTo allowed count)
          else return []
      | none => return []

/-- Take the code points of all tokens up to a closing character, which is taken too. A token that is
broken off on the way is met as the next one. -/
def takeUntil (close : Char) : Reader (List Nat) := do
  let rest := (← get).rest
  let found := rest.takeWhile fun token => !token.isChar close
  if found.contains .brokenOff then malformed
  match rest.drop found.length with
  | [] => malformed
  | _ :: left =>
      goOn left
      return found.flatMap Token.codes

end Reader

open Reader

/-- The value of a hexadecimal digit. -/
def hexValue (c : Char) : Nat :=
  if c.isDigit then c.toNat - 48
  else if 'a' ≤ c then c.toNat - 87
  else c.toNat - 55

/-- Whether a character is a hexadecimal digit. -/
def isHex (c : Char) : Bool :=
  c.isDigit || ('a' ≤ c && c ≤ 'f') || ('A' ≤ c && c ≤ 'F')

/-- Whether a character is an octal digit. -/
def isOctal (c : Char) : Bool :=
  '0' ≤ c && c ≤ '7'

/-- The number that digits denote in a base. -/
def numberIn (base : Nat) (digits : List Char) : Nat :=
  digits.foldl (fun n c => base * n + hexValue c) 0

/-- Exactly so many hexadecimal digits, as a code point. -/
def hexCode (count : Nat) : Reader Nat := do
  let digits ← takeUpTo isHex count
  let code := numberIn 16 digits
  if digits.length = count ∧ code < 0x110000 then return code else malformed

/-- The code point of a character by its name in braces. -/
def namedCode : Reader Nat := do
  expect '\x7b'
  let name ← takeUntil '\x7d'
  match Text.CharacterName.find? (Text.ofCodes name) with
  | some code => return code
  | none => malformed

/-- The category of an escape letter, and whether it is negated. -/
def category? : Char → Option (Category × Bool)
  | 'd' => some (.digit, false)
  | 'D' => some (.digit, true)
  | 's' => some (.blank, false)
  | 'S' => some (.blank, true)
  | 'w' => some (.word, false)
  | 'W' => some (.word, true)
  | _ => none

/-- The control character of an escape letter. -/
def control? : Char → Option Nat
  | 'a' => some 7
  | 'f' => some 12
  | 'n' => some 10
  | 'r' => some 13
  | 't' => some 9
  | 'v' => some 11
  | '\\' => some 92
  | _ => none

/-- The code point of an escape that means the same in and outside of sets. -/
def commonEscape (code : Nat) : Reader Nat := do
  let c := Char.ofNat code
  match control? c with
  | some control => return control
  | none =>
      if c = 'x' then hexCode 2
      else if c = 'u' then hexCode 4
      else if c = 'U' then hexCode 8
      else if c = 'N' then namedCode
      else if c.isAlphanum then malformed
      else return code

/-- The code point of an octal escape. -/
def octalCode (digits : List Char) : Reader Nat :=
  let code := numberIn 8 digits
  if code ≤ 255 then return code else malformed

/-- One element of a set, given its first token: a code point, or a category. -/
def setElement : Token → Reader (Nat ⊕ Item)
  | .plain code => return .inl code
  | .brokenOff => malformed
  | .escaped code => do
      let letter := Char.ofNat code
      match category? letter with
      | some (kind, negated) => return .inr (.category kind negated)
      | none =>
          if letter = 'b' then return .inl 8
          else if isOctal letter then
            return .inl (← octalCode (letter :: (← takeUpTo isOctal 2)))
          else return .inl (← commonEscape code)

/-- One element of a set as an item. -/
def toItem : Nat ⊕ Item → Item
  | .inl code => .range code code
  | .inr item => item

/-- The elements of a set up to its closing bracket, which is plain at the very front. -/
def setItems : (fuel : Nat) → (front : Bool) → Reader (List Item)
  | 0, _ => malformed
  | fuel + 1, front => do
      let token ← take
      if !front && token.isChar ']' then return []
      else
        let first ← setElement token
        if ← accept '-' then
          let token ← take
          if token.isChar ']' then return [toItem first, .range 45 45]
          else
            match first, ← setElement token with
            | .inl low, .inl high =>
                if high < low then malformed
                else return .range low high :: (← setItems fuel false)
            | _, _ => malformed
        else return toItem first :: (← setItems fuel false)

/-- A group that may be referred to here: it is closed, and not inside the present look behind. -/
def checkGroup (number : Nat) : Reader Unit := do
  let state ← get
  if (state.closed.lookup number).isNone then malformed
  else match state.behind with
    | some first => if first ≤ number then malformed else return ()
    | none => return ()

/-- A condition may ask for a group that comes later, but not from inside a look behind. -/
def checkAsked (number : Nat) : Reader Unit := do
  if (← get).behind.isSome then checkGroup number else return ()

/-- An escape outside of sets. -/
def escape (flags : Flags) (code : Nat) : Reader Pattern := do
  let c := Char.ofNat code
  let literal := fun (code : Nat) => Pattern.single flags.comparison code
  match category? c with
  | some (kind, negated) => return .charSet flags.comparison false [.category kind negated]
  | none =>
      if c = 'A' then return .anchor .textStart
      else if c = 'Z' then return .anchor .textEnd
      else if c = 'b' then return .anchor (.boundary flags.ascii)
      else if c = 'B' then return .anchor (.inside flags.ascii)
      else if c = '0' then
        return literal (← octalCode (c :: (← takeUpTo isOctal 2)))
      else if c.isDigit then
        let second ← takeUpTo Char.isDigit 1
        let third ←
          if isOctal c && second.all isOctal && !second.isEmpty then takeUpTo isOctal 1
          else pure []
        if third.isEmpty then
          let number := numberIn 10 (c :: second)
          checkGroup number
          return .repeated number flags.comparison
        else return literal (← octalCode (c :: second ++ third))
      else return literal (← commonEscape code)

/-- The name of a group, up to its closing character. -/
def groupName (close : Char) : Reader (List Nat) := do
  let name ← takeUntil close
  if Text.isName name then return name else malformed

/-- Give the next number to a group, and a name if it has one. -/
def openGroup (name : Option (List Nat)) : Reader Nat := do
  let state ← get
  let names ← match name with
    | some name =>
        if (state.names.lookup name).isSome then malformed
        else pure ((name, state.next) :: state.names)
    | none => pure state.names
  set { state with next := state.next + 1, names := names }
  return state.next

/-- Close a group. -/
def closeGroup (number : Nat) (body : Pattern) : Reader Unit :=
  modify fun state =>
    { state with closed := (number, width state.closed body) :: state.closed }

/-- The least number of rounds that cannot be counted. -/
def roundLimit : Nat := 4294967295

/-- A number of rounds; without digits there is none. -/
def roundCount (digits : List Char) : Reader (Option Nat) :=
  if digits.isEmpty then return none
  else if Numeral.digitLimit < digits.length then throw (.tooManyDigits digits.length)
  else
    let count := numberIn 10 digits
    if roundLimit ≤ count then throw .tooManyRounds else return some count

/-- The bounds of a loop in braces after the opening brace; none if the brace is plain. -/
def braceBounds : Reader (Option (Nat × Option Nat)) := do
  let start ← get
  if ← isNext '\x7d' then return none
  let low ← takeUpTo Char.isDigit start.rest.length
  let high ← if ← accept ',' then takeUpTo Char.isDigit start.rest.length else pure low
  if ← accept '\x7d' then
    let least := (← roundCount low).getD 0
    let most ← roundCount high
    if most.all fun n => least ≤ n then return some (least, most) else malformed
  else
    set start
    return none

/-- The bounds that a repetition mark stands for; none if the mark is a plain brace. -/
def loopBounds (mark : Char) : Reader (Option (Nat × Option Nat)) :=
  match mark with
  | '?' => return some (0, some 1)
  | '*' => return some (0, none)
  | '+' => return some (1, none)
  | _ => braceBounds

/-- How greedy a loop is, by the mark after it. -/
def loopGreed : Reader Greed := do
  if ← accept '?' then return .least
  else if ← accept '+' then return .mostForGood
  else return .most

/-- Whether a pattern can be repeated: places and loops cannot. -/
def repeatable : Pattern → Bool
  | .anchor _ | .loop .. => false
  | _ => true

/-- Whether a character is the letter of a flag. -/
def isFlag (c : Char) : Bool :=
  (Flags.none.set? c true).isSome

/-- At least one flag letter; the letters `a` and `u` exclude each other. -/
def flagLetters : Reader (List Char) := do
  let letters ← takeUpTo isFlag (← get).rest.length
  if letters.isEmpty || (letters.contains 'a' && letters.contains 'u') then malformed
  else return letters

/-- Give the flags of some letters a value. -/
def setFlags (letters : List Char) (value : Bool) (flags : Flags) : Flags :=
  letters.foldl (fun flags c => (flags.set? c value).getD flags) flags

/-- Set the flags of some letters inside a group: asking for all scripts ends the restriction to the
Basic Latin block. -/
def setScoped (letters : List Char) (flags : Flags) : Flags :=
  let flags := if letters.contains 'u' then { flags with ascii := false } else flags
  setFlags letters true flags

/-- What follows a question mark at the start of a group. -/
inductive Opening
  | capture (name : List Nat)
  | plain
  | atomic
  | look (behind negated : Bool)
  | scoped (change : Flags → Flags)
  | whole (change : Flags → Flags)
  | named (name : List Nat)
  | condition (name : List Nat)
  | comment

/-- Read flags at the start of a group: those that are set and those that are removed. -/
def flagOpening : Reader Opening := do
  let added ← if ← isNext '-' then pure [] else flagLetters
  if ← accept ')' then return .whole (setFlags added true)
  else if added.contains 't' then malformed
  else if ← accept ':' then return .scoped (setScoped added)
  else
    expect '-'
    let removed ← flagLetters
    expect ':'
    if removed.any fun letter => letter ∈ ['a', 'u', 't'] || added.contains letter then malformed
    else return .scoped fun flags => setFlags removed false (setScoped added flags)

/-- Read what follows a question mark at the start of a group. -/
def opening : Reader Opening := do
  let start ← get
  match (← take).char? with
  | some ':' => return .plain
  | some '>' => return .atomic
  | some '=' => return .look false false
  | some '!' => return .look false true
  | some '#' => do
      let _ ← takeUntil ')'
      return .comment
  | some '<' => do
      match (← take).char? with
      | some '=' => return .look true false
      | some '!' => return .look true true
      | _ => malformed
  | some 'P' => do
      match (← take).char? with
      | some '<' => return .capture (← groupName '>')
      | some '=' => return .named (← groupName ')')
      | _ => malformed
  | some '(' => return .condition (← takeUntil ')')
  | _ => do
      set start
      flagOpening

/-- The least number that no group can have. -/
def groupLimit : Nat := 1073741823

/-- The number of the group that a condition names. -/
def conditionGroup (name : List Nat) : Reader Nat := do
  let state ← get
  if Text.isName name then
    match state.names.lookup name with
    | some number => return number
    | none => malformed
  else
    match Numeral.readInt? (Text.trimNumeral (Text.ofCodes name)) with
    | none => malformed
    | some number =>
        if number ≤ 0 ∨ (groupLimit : Int) ≤ number then malformed
        else
          modify fun state => { state with asked := number.toNat :: state.asked }
          return number.toNat

/-- A row of patterns as one pattern. -/
def ofRow : List Pattern → Pattern
  | [part] => part
  | parts => .sequence parts

/-- Pass over a comment at the end of a line: all tokens up to a line break. -/
def skipComment : Reader Unit := do
  let rest := (← get).rest
  let found := rest.takeWhile fun token => !token.isChar '\n'
  if found.contains .brokenOff then malformed
  goOn (rest.drop (found.length + 1))

/-- Whether a character separates tokens in verbose expressions. -/
def isVerboseBlank (c : Char) : Bool :=
  c = ' ' || c = '\t' || c = '\n' || c = '\r' || c = '\x0b' || c = '\x0c'

mutual

/-- Read branches up to the end or a closing parenthesis. -/
def readChoice : (fuel : Nat) → (Flags → Flags) → (outermost : Bool) → Reader Pattern
  | 0, _, _ => malformed
  | fuel + 1, scope, outermost => do
      let first ← readRow fuel scope outermost []
      let others ← readBranches fuel scope
      match others with
      | [] => return .sequence first
      | _ => return .choice (.sequence first :: others)

/-- Read further branches. -/
def readBranches : (fuel : Nat) → (Flags → Flags) → Reader (List Pattern)
  | 0, _ => malformed
  | fuel + 1, scope => do
      if ← accept '|' then
        let branch ← readRow fuel scope false []
        return .sequence branch :: (← readBranches fuel scope)
      else return []

/-- Read patterns in a row; `done` holds the ones before, last first. -/
def readRow : (fuel : Nat) → (Flags → Flags) → (front : Bool) → (done : List Pattern) →
    Reader (List Pattern)
  | 0, _, _, _ => malformed
  | fuel + 1, scope, front, done => do
      let flags := scope (← get).flags
      match ← peek with
      | none => return done.reverse
      | some .brokenOff => malformed
      | some (.escaped code) => do
          let _ ← take
          readRow fuel scope front ((← escape flags code) :: done)
      | some (.plain code) =>
          let c := if Text.isHalf code then Text.mark else Char.ofNat code
          if c = '|' || c = ')' then return done.reverse
          else
            let _ ← take
            if flags.verbose && isVerboseBlank c then readRow fuel scope front done
            else if flags.verbose && c = '#' then
              skipComment
              readRow fuel scope front done
            else
              match c with
              | '.' => readRow fuel scope front (.any flags.dotAll :: done)
              | '^' =>
                  let place := if flags.multiline then Anchor.lineStart else .textStart
                  readRow fuel scope front (.anchor place :: done)
              | '$' =>
                  let place := if flags.multiline then Anchor.lineEnd else .lastLineEnd
                  readRow fuel scope front (.anchor place :: done)
              | '[' => do
                  let negated ← accept '^'
                  let items ← setItems fuel true
                  readRow fuel scope front (.charSet flags.comparison negated items :: done)
              | '(' => do
                  match ← readGroup fuel scope (front && done.isEmpty) with
                  | some pattern => readRow fuel scope front (pattern :: done)
                  | none => readRow fuel scope front done
              | _ => do
                  if c = '*' || c = '+' || c = '?' || c = '\x7b' then
                    match ← loopBounds c with
                    | none => readRow fuel scope front (.single flags.comparison code :: done)
                    | some (least, most) =>
                        match done with
                        | [] => malformed
                        | body :: before =>
                            if repeatable body then
                              let greed ← loopGreed
                              readRow fuel scope front (.loop least most greed body :: before)
                            else malformed
                  else readRow fuel scope front (.single flags.comparison code :: done)

/-- Read a group after its opening parenthesis; comments and flags leave no pattern. -/
def readGroup : (fuel : Nat) → (Flags → Flags) → (front : Bool) → Reader (Option Pattern)
  | 0, _, _ => malformed
  | fuel + 1, scope, front => do
      if ← accept '?' then
        match ← opening with
        | .comment => return none
        | .whole change =>
            if front then
              modify fun state => { state with flags := change state.flags }
              return none
            else malformed
        | .named name =>
            match (← get).names.lookup name with
            | some number =>
                checkGroup number
                return some (.repeated number (scope (← get).flags).comparison)
            | none => malformed
        | .plain =>
            let body ← readChoice fuel scope false
            expect ')'
            return some (.group none body)
        | .scoped change =>
            let body ← readChoice fuel (fun flags => change (scope flags)) false
            expect ')'
            return some (.scoped body)
        | .atomic =>
            let body ← readChoice fuel scope false
            expect ')'
            return some (.atomic body)
        | .capture name => readCapture fuel scope (some name)
        | .look behind negated =>
            let outer := (← get).behind
            if behind && outer.isNone then
              modify fun state => { state with behind := some state.next }
            let body ← readChoice fuel scope false
            if behind && outer.isNone then
              modify fun state => { state with behind := none }
            expect ')'
            if behind then
              match (width (← get).closed body).fixed? with
              | some size => return some (.look (some size) negated body)
              | none => do
                  modify fun state => { state with fixedBehind := false }
                  return some .never
            else return some (.look none negated body)
        | .condition name =>
            let number ← conditionGroup name
            checkAsked number
            let yes ← readRow fuel scope false []
            let no ← if ← accept '|' then readRow fuel scope false [] else pure []
            expect ')'
            return some (.ifGroup number (ofRow yes) (ofRow no))
      else readCapture fuel scope none

/-- Read the body of a numbered group. -/
def readCapture : (fuel : Nat) → (Flags → Flags) → (name : Option (List Nat)) →
    Reader (Option Pattern)
  | 0, _, _ => malformed
  | fuel + 1, scope, name => do
      let number ← openGroup name
      let body ← readChoice fuel scope false
      expect ')'
      closeGroup number body
      return some (.group (some number) body)

end

mutual

/-- Whether a pattern has no loops. -/
def isLoopless : Pattern → Bool
  | .loop .. => false
  | .sequence parts | .choice parts => areLoopless parts
  | .group _ body | .scoped body | .atomic body | .look _ _ body => isLoopless body
  | .ifGroup _ yes no => isLoopless yes && isLoopless no
  | _ => true

/-- Whether patterns have no loops. -/
def areLoopless : List Pattern → Bool
  | [] => true
  | part :: rest => isLoopless part && areLoopless rest

end

/-- Read a whole expression. -/
def readAll (text : List Nat) : Reader Pattern := do
  goOn (tokens text)
  let pattern ← readChoice (4 * text.length + 8) id true
  let state ← get
  if state.flags.ascii && state.flags.unicode then throw .clashingFlags
  else if state.rest.isEmpty && (state.asked.all fun number => number < state.next) &&
      state.fixedBehind && (!state.flags.loopless || isLoopless pattern) then
    return withEntry state.flags.ascii pattern
  else malformed

/-- Read a regular expression. -/
def parse (text : String) : Except Defect Pattern :=
  (readAll (Text.codes text.toList)).run' ⟨[], .none, 1, [], [], none, [], true⟩

end SchemaAlgebra.Pattern
