/-!
Sets of characters are written as lists of spans of code points, both ends included. The tables of
the Unicode character database (version 14) that the neighbouring modules hold are in this form.
-/

namespace SchemaAlgebra.Text

/-- A list of spans of code points, both ends included. -/
abbrev Spans := List (Nat × Nat)

namespace Spans

/-- Whether the code point lies in one of the spans. -/
def holds (spans : Spans) (code : Nat) : Bool :=
  spans.any fun span => span.1 ≤ code && code ≤ span.2

theorem holds_iff (spans : Spans) (code : Nat) :
    spans.holds code = true ↔ ∃ span ∈ spans, span.1 ≤ code ∧ code ≤ span.2 := by
  simp [holds]

end Spans

/-!
White space: the characters of Unicode that separate words, among them the four information
separators and the next-line control. Text is trimmed of them before a numeral is read.
-/

/-- The spans of white space. -/
def blankSpans : Spans :=
  [(9, 13), (28, 32), (133, 133), (160, 160), (5760, 5760), (8192, 8202), (8232, 8233), (8239,
   8239), (8287, 8287), (12288, 12288)]

/-- Whether a character is white space. -/
def isBlank (c : Char) : Bool :=
  blankSpans.holds c.toNat

/-- Remove white space from both ends. -/
def trim (text : List Char) : List Char :=
  ((text.dropWhile isBlank).reverse.dropWhile isBlank).reverse

/-- White space around a numeral that is read without trimming: the information separators are not
part of it. -/
def isNumeralBlank (c : Char) : Bool :=
  isBlank c && !(28 ≤ c.toNat && c.toNat ≤ 31)

/-- Remove the white space around a numeral. -/
def trimNumeral (text : List Char) : List Char :=
  ((text.dropWhile isNumeralBlank).reverse.dropWhile isNumeralBlank).reverse

theorem isBlank_of_isWhitespace (c : Char) (h : c.isWhitespace = true) : isBlank c = true := by
  have cases : c = ' ' ∨ c = '\t' ∨ c = '\r' ∨ c = '\n' := by
    simpa [Char.isWhitespace, or_assoc] using h
  rcases cases with h | h | h | h <;> subst h <;> decide

/-!
Decimal digits of every script. Each script's digits stand in one run of ten code points, so a
digit is known by the zero that begins its run. Some further characters look like digits (raised,
lowered and circled ones) and have no place in a numeral.
-/

/-- The code points of the zeros. -/
def zeros : List Nat :=
  [48, 1632, 1776, 1984, 2406, 2534, 2662, 2790, 2918, 3046, 3174, 3302, 3430, 3558, 3664, 3792,
   3872, 4160, 4240, 6112, 6160, 6470, 6608, 6784, 6800, 6992, 7088, 7232, 7248, 42528, 43216,
   43264, 43472, 43504, 43600, 44016, 65296, 66720, 68912, 69734, 69872, 69942, 70096, 70384,
   70736, 70864, 71248, 71360, 71472, 71904, 72016, 72784, 73040, 73120, 92768, 92864, 93008,
   120782, 120792, 120802, 120812, 120822, 123200, 123632, 125264, 130032]

/-- The value of the decimal digit at a code point. -/
def digitCode? (code : Nat) : Option Nat :=
  (zeros.find? fun start => start ≤ code && code < start + 10).map fun start => code - start

/-- The value of a decimal digit. -/
def digitValue? (c : Char) : Option Nat :=
  digitCode? c.toNat

/-- Whether a character is a decimal digit of some script. -/
def isDecimal (c : Char) : Bool :=
  (digitValue? c).isSome

/-- The spans of the characters that look like digits and are not decimal ones. -/
def digitLikeSpans : Spans :=
  [(178, 179), (185, 185), (4969, 4977), (6618, 6618), (8304, 8304), (8308, 8313), (8320, 8329),
   (9312, 9320), (9332, 9340), (9352, 9360), (9450, 9450), (9461, 9469), (9471, 9471), (10102,
   10110), (10112, 10120), (10122, 10130), (68160, 68163), (69216, 69224), (69714, 69722),
   (127232, 127242)]

/-- Whether a character is a digit or looks like one. -/
def isDigitLike (c : Char) : Bool :=
  isDecimal c || digitLikeSpans.holds c.toNat

theorem digitValue?_lt {c : Char} {n : Nat} (h : digitValue? c = some n) : n < 10 := by
  simp only [digitValue?, digitCode?, Option.map_eq_some_iff] at h
  obtain ⟨start, found, rfl⟩ := h
  have := List.find?_some found
  simp only [Bool.and_eq_true, decide_eq_true_eq] at this
  omega

/-- The ten digits of the Basic Latin block, by value. -/
def latinDigit (n : Nat) : Char :=
  Char.ofNat (48 + n)

example : digitValue? '7' = some 7 := by decide
example : digitValue? '\u0663' = some 3 := by decide
example : isDecimal '\u00b2' = false ∧ isDigitLike '\u00b2' = true := by decide

end SchemaAlgebra.Text
