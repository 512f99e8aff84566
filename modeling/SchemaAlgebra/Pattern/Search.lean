import SchemaAlgebra.Pattern.Basic
import SchemaAlgebra.Text.Code

/-!
Searching a text for a pattern by backtracking. A match is tried from every position; within it,
branches are tried in order and loops in the order of their greed. A loop that has made a round
without moving forward makes no further one, so the number of rounds is bounded by the length of the
text.
-/

namespace SchemaAlgebra.Pattern

/-- How far a match has come: the position and the spans of the groups that took part. -/
structure Progress where
  position : Nat
  groups : List (Nat × Nat × Nat)

/-- What remains to be matched. -/
abbrev Rest := Progress → Option Progress

/-- Whether the code point at a position may stand in a word. -/
def wordAt (text : Array Nat) (ascii : Bool) (position : Nat) : Bool :=
  match text[position]? with
  | some code => Category.word.holds ascii code
  | none => false

/-- Whether word characters begin or end at a position. -/
def atBoundary (text : Array Nat) (ascii : Bool) (position : Nat) : Bool :=
  let before := 0 < position && wordAt text ascii (position - 1)
  before != wordAt text ascii position

/-- Whether a position is of the kind an anchor asks for. -/
def Anchor.holds (text : Array Nat) (position : Nat) : Anchor → Bool
  | .textStart => position = 0
  | .textEnd => position = text.size
  | .lastLineEnd =>
      position = text.size || (position + 1 = text.size && text[position]? = some 10)
  | .lineStart => position = 0 || text[position - 1]? = some 10
  | .lineEnd => position = text.size || text[position]? = some 10
  | .boundary ascii => text.size ≠ 0 && atBoundary text ascii position
  | .inside ascii => text.size ≠ 0 && !atBoundary text ascii position

/-- Repeat a body. `last` is the position at which the latest free round began. -/
def rounds (body : Progress → Rest → Option Progress) (least : Nat) (most : Option Nat)
    (greedy : Bool) : (fuel : Nat) → (done : Nat) → (last : Option Nat) → Progress → Rest →
    Option Progress
  | 0, _, _, progress, rest => rest progress
  | fuel + 1, done, last, progress, rest =>
      if done < least then
        body progress fun next => rounds body least most greedy fuel (done + 1) last next rest
      else
        let mayGoOn := (most.all fun n => done < n) && last ≠ some progress.position
        let oneMore := fun (_ : Unit) =>
          if mayGoOn then
            body progress fun next =>
              rounds body least most greedy fuel (done + 1) (some progress.position) next rest
          else none
        if greedy then
          match oneMore () with
          | some result => some result
          | none => rest progress
        else
          match rest progress with
          | some result => some result
          | none => oneMore ()

/-- Whether the text repeats a span at a position. -/
def repeatsAt (text : Array Nat) (comparison : Comparison) (first last position : Nat) : Bool :=
  position + (last - first) ≤ text.size &&
    (List.range (last - first)).all fun i =>
      match text[first + i]?, text[position + i]? with
      | some a, some b => comparison.fold a = comparison.fold b
      | _, _ => false

mutual

/-- Match a pattern and then what remains. -/
def match? (text : Array Nat) : Pattern → Progress → Rest → Option Progress
  | .charSet comparison negated items, progress, rest =>
      match text[progress.position]? with
      | some code =>
          if (items.any fun item => item.holds comparison (comparison.fold code)) != negated then
            rest { progress with position := progress.position + 1 }
          else none
      | none => none
  | .any newlines, progress, rest =>
      match text[progress.position]? with
      | some code =>
          if newlines || code ≠ 10 then rest { progress with position := progress.position + 1 }
          else none
      | none => none
  | .anchor place, progress, rest =>
      if place.holds text progress.position then rest progress else none
  | .sequence parts, progress, rest => matchAll? text parts progress rest
  | .choice branches, progress, rest => matchFirst? text branches progress rest
  | .loop least most greed body, progress, rest =>
      let fuel := least + text.size + 2
      match greed with
      | .most => rounds (match? text body) least most true fuel 0 none progress rest
      | .least => rounds (match? text body) least most false fuel 0 none progress rest
      | .mostForGood =>
          match rounds (match? text body) least most true fuel 0 none progress some with
          | some next => rest next
          | none => none
  | .group none body, progress, rest | .scoped body, progress, rest =>
      match? text body progress rest
  | .group (some number) body, progress, rest =>
      match? text body progress fun next =>
        rest { next with groups := (number, progress.position, next.position) :: next.groups }
  | .repeated number comparison, progress, rest =>
      match progress.groups.lookup number with
      | some (first, last) =>
          if repeatsAt text comparison first last progress.position then
            rest { progress with position := progress.position + (last - first) }
          else none
      | none => none
  | .look behind negated body, progress, rest =>
      let width := behind.getD 0
      let found :=
        if width ≤ progress.position then
          match? text body { progress with position := progress.position - width } some
        else none
      match found, negated with
      | some next, false => rest { next with position := progress.position }
      | none, true => rest progress
      | _, _ => none
  | .atomic body, progress, rest =>
      match match? text body progress some with
      | some next => rest next
      | none => none
  | .ifGroup number yes no, progress, rest =>
      if (progress.groups.lookup number).isSome then match? text yes progress rest
      else match? text no progress rest
  | .never, _, _ => none

/-- Match patterns one after the other. -/
def matchAll? (text : Array Nat) : List Pattern → Progress → Rest → Option Progress
  | [], progress, rest => rest progress
  | part :: parts, progress, rest =>
      match? text part progress fun next => matchAll? text parts next rest

/-- Match the first of the patterns that leads on. -/
def matchFirst? (text : Array Nat) : List Pattern → Progress → Rest → Option Progress
  | [], _, _ => none
  | branch :: branches, progress, rest =>
      match match? text branch progress rest with
      | some result => some result
      | none => matchFirst? text branches progress rest

end

/-- Whether the pattern matches somewhere in the text. -/
def search (pattern : Pattern) (text : String) : Bool :=
  let codes := (Text.codes text.toList).toArray
  (List.range (codes.size + 1)).any fun start =>
    (match? codes pattern ⟨start, []⟩ some).isSome

end SchemaAlgebra.Pattern
