/-!
Code points. The text of a JSON document may hold halves of UTF-16 pairs that stand alone; they are
code points and no characters. So that every text is a string, a lone half is written with two
characters: a mark, and a letter that says which half it is. The mark itself is written as a mark with
a letter of its own. A text without lone halves and without marks is written as it is.
-/

namespace SchemaAlgebra.Text

/-- The mark that announces a code point which is written by a letter. -/
def mark : Char := Char.ofNat 0x10FFFF

/-- The first of the letters behind marks. -/
def firstLetter : Nat := 0xE000

/-- The number of halves of UTF-16 pairs. -/
def halfCount : Nat := 0x800

/-- Whether a code point is half of a UTF-16 pair. -/
def isHalf (code : Nat) : Bool :=
  0xD800 ≤ code && code < 0xE000

/-- The code point that a mark and a letter stand for. -/
def markedCode (letter : Char) : Nat :=
  if letter.toNat < firstLetter + halfCount then letter.toNat - firstLetter + 0xD800
  else mark.toNat

/-- The characters that write a code point. -/
def ofCode (code : Nat) : List Char :=
  if isHalf code then [mark, Char.ofNat (code - 0xD800 + firstLetter)]
  else if code = mark.toNat then [mark, Char.ofNat (firstLetter + halfCount)]
  else [Char.ofNat code]

/-- The code points of a text. -/
def codes : List Char → List Nat
  | [] => []
  | [c] => [c.toNat]
  | c :: letter :: rest =>
      if c = mark then markedCode letter :: codes rest else c.toNat :: codes (letter :: rest)

/-- The text of some code points. -/
def ofCodes (codes : List Nat) : List Char :=
  codes.flatMap ofCode

/-- A row of characters, none of them half of a pair, as a text. -/
def marked (chars : List Char) : List Char :=
  chars.flatMap fun c => ofCode c.toNat

/-- Whether a text has lone halves. -/
def hasHalves (text : List Char) : Bool :=
  (codes text).any isHalf

/-- The length of a text: its code points are counted. -/
def size (text : String) : Nat :=
  (codes text.toList).length

/-- The text of one code point. -/
def single (code : Nat) : String :=
  String.ofList (ofCode code)

/-- A text cut into texts of one code point each. -/
def singles (text : String) : List String :=
  (codes text.toList).map single

/-- Whether a row of code points begins another. -/
def begins : List Nat → List Nat → Bool
  | [], _ => true
  | _, [] => false
  | a :: as, b :: bs => a = b && begins as bs

/-- Whether a row of code points occurs in another. -/
def occurs (part : List Nat) : List Nat → Bool
  | [] => part.isEmpty
  | code :: rest => begins part (code :: rest) || occurs part rest

/-- Whether a text occurs in another. -/
def isPart (part text : String) : Bool :=
  occurs (codes part.toList) (codes text.toList)

/-- The order of two rows of code points: at the first difference, or by length. -/
def orderCodes : List Nat → List Nat → Ordering
  | [], [] => .eq
  | [], _ :: _ => .lt
  | _ :: _, [] => .gt
  | a :: as, b :: bs => if a < b then .lt else if b < a then .gt else orderCodes as bs

/-- The order of two texts by their code points. -/
def order (a b : String) : Ordering :=
  orderCodes (codes a.toList) (codes b.toList)

/-- Sort texts by their code points. -/
def sorted (texts : List String) : List String :=
  texts.mergeSort fun a b => order b a ≠ .lt

@[simp] theorem codes_nil : codes [] = [] := rfl

theorem codes_cons (c : Char) (rest : List Char) (plain : c ≠ mark) :
    codes (c :: rest) = c.toNat :: codes rest := by
  cases rest with
  | nil => rfl
  | cons letter rest => simp [codes, plain]

example : codes (ofCodes [97, 0xD83D, 0x10FFFF, 0x1F600]) = [97, 0xD83D, 0x10FFFF, 0x1F600] := by
  decide
example : order "a" "b" = .lt ∧ order "ab" "a" = .gt := by decide

end SchemaAlgebra.Text
