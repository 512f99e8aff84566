import SchemaAlgebra.Text.Case
import SchemaAlgebra.Text.Character
import SchemaAlgebra.Text.Letter

/-!
Regular expressions as trees, and what a single position of them accepts. Texts are rows of code
points here, so that a lone half of a UTF-16 pair is matched like any other. Letter case is ignored by
comparing small letters, together with their variants.
-/

namespace SchemaAlgebra

namespace Pattern

/-- The classes of characters that have an escape of their own. -/
inductive Category
  | digit
  | blank
  | word
  deriving DecidableEq

/-- Whether a code point is in a category, perhaps of the Basic Latin block only. -/
def Category.holds (ascii : Bool) (category : Category) (code : Nat) : Bool :=
  (!ascii || code < 128) &&
    match category with
    | .digit => (Text.digitCode? code).isSome
    | .blank => Text.blankSpans.holds code && !(ascii && 28 ≤ code && code ≤ 31)
    | .word => Text.isWordCode code

/-- A part of a set of characters. -/
inductive Item
  | range (first last : Nat)
  | category (kind : Category) (negated : Bool)
  deriving DecidableEq

/-- How the characters of a set are compared. -/
structure Comparison where
  ignoreCase : Bool
  ascii : Bool
  deriving DecidableEq

/-- The small letter at a code point, perhaps of the Basic Latin block only. -/
def Comparison.fold (comparison : Comparison) (code : Nat) : Nat :=
  if !comparison.ignoreCase then code
  else if comparison.ascii then (if 65 ≤ code ∧ code ≤ 90 then code + 32 else code)
  else Text.lowerCode code

/-- The capitals of a small letter. -/
def capitals (code : Nat) : List Nat :=
  Text.capitalRuns.filterMap fun run =>
    let n := (code - run.shift : Int)
    if 0 ≤ n && run.holds n.toNat then some n.toNat else none

/-- The code points that count as one with a folded one. -/
def Comparison.forms (comparison : Comparison) (code : Nat) : List Nat :=
  if !comparison.ignoreCase then [code]
  else if comparison.ascii then [code, if 97 ≤ code ∧ code ≤ 122 then code - 32 else code]
  else (Text.smallVariants code).flatMap fun small => small :: capitals small

/-- Whether a folded code point is in a part of a set. -/
def Item.holds (comparison : Comparison) (code : Nat) : Item → Bool
  | .range first last =>
      (comparison.forms code).any fun form => first ≤ form && form ≤ last
  | .category kind negated => kind.holds comparison.ascii code != negated

/-- Places between characters. -/
inductive Anchor
  | textStart
  | textEnd
  | lastLineEnd
  | lineStart
  | lineEnd
  | boundary (ascii : Bool)
  | inside (ascii : Bool)
  deriving DecidableEq

/-- In which order a loop tries its numbers of rounds. -/
inductive Greed
  | most
  | least
  | mostForGood
  deriving DecidableEq

end Pattern

open Pattern in
/-- A regular expression. A scoped body has been read under flags of its own. -/
inductive Pattern
  | charSet (comparison : Comparison) (negated : Bool) (items : List Item)
  | any (newlines : Bool)
  | anchor (place : Anchor)
  | sequence (parts : List Pattern)
  | choice (branches : List Pattern)
  | loop (least : Nat) (most : Option Nat) (greed : Greed) (body : Pattern)
  | group (number : Option Nat) (body : Pattern)
  | scoped (body : Pattern)
  | repeated (number : Nat) (comparison : Comparison)
  | look (behind : Option Nat) (negated : Bool) (body : Pattern)
  | atomic (body : Pattern)
  | ifGroup (number : Nat) (yes no : Pattern)
  | never
  deriving Inhabited

namespace Pattern

/-- The pattern of one code point. -/
def single (comparison : Comparison) (code : Nat) : Pattern :=
  .charSet comparison false [.range code code]

end Pattern

end SchemaAlgebra
