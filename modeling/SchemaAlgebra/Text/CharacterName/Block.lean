import SchemaAlgebra.Text.Split

/-!
Tables of character names. A block holds the names of consecutive code points. Its rows list entries
with semicolons between them; an entry that begins with a digit takes over so many words of the name
before it.
-/

namespace SchemaAlgebra.Text.CharacterName

/-- The names of consecutive code points: the first code point, and rows of entries. -/
abbrev Block := Nat × List String

/-- A name as a list of words. -/
abbrev Words := List (List Char)

/-- The words of a name. -/
def wordsOf (name : List Char) : Words :=
  splitAtAll ' ' name

/-- The words of an entry, given those of the name before it. -/
def wordsAfter (before : Words) (entry : Words) : Words :=
  match entry with
  | [c] :: rest => if c.isDigit then before.take (c.toNat - 48) ++ rest else entry
  | _ => entry

/-- The code point of a name among entries, of which the first one has the given code point. -/
def findIn (name : Words) (code : Nat) (before : Words) : List Words → Option Nat
  | [] => none
  | entry :: rest =>
      let words := wordsAfter before entry
      if words = name then some code else findIn name (code + 1) words rest

/-- The entries of a block. -/
def Block.entries (block : Block) : List Words :=
  block.2.flatMap fun row => (splitAtAll ';' row.toList).map wordsOf

/-- The code point of a name in a block. -/
def Block.find? (block : Block) (name : Words) : Option Nat :=
  findIn name block.1 [] block.entries

example : Block.find? (65, ["LETTER A;1 B", "1 C"]) (wordsOf "LETTER C".toList) = some 67 := by
  decide

end SchemaAlgebra.Text.CharacterName
