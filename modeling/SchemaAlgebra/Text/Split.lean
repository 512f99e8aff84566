/-!
Cutting text at a separator and joining it again.
-/

namespace SchemaAlgebra.Text

/-- Split a text at every occurrence of a character. -/
def splitAtAll (separator : Char) : List Char → List (List Char)
  | [] => [[]]
  | c :: rest =>
      if c = separator then [] :: splitAtAll separator rest
      else
        match splitAtAll separator rest with
        | [] => [[c]]
        | first :: others => (c :: first) :: others

/-- Join texts with a character between them. -/
def joinWith (separator : Char) : List (List Char) → List Char
  | [] => []
  | [part] => part
  | part :: rest => part ++ separator :: joinWith separator rest

theorem splitAtAll_ne_nil (separator : Char) (text : List Char) :
    splitAtAll separator text ≠ [] := by
  induction text with
  | nil => simp [splitAtAll]
  | cons c rest ih =>
      simp only [splitAtAll]
      split
      · simp
      · split <;> simp

theorem joinWith_splitAtAll (separator : Char) (text : List Char) :
    joinWith separator (splitAtAll separator text) = text := by
  induction text with
  | nil => rfl
  | cons c rest ih =>
      obtain ⟨first, others, split⟩ :=
        List.exists_cons_of_ne_nil (splitAtAll_ne_nil separator rest)
      rw [split] at ih
      by_cases h : c = separator
      · simp [splitAtAll, h, split, joinWith, ih]
      · cases others <;> simp_all [splitAtAll, joinWith]

/-- The text before the first occurrence of a character, and the text after it. -/
def cutAt (separator : Char) (text : String) : String × String :=
  let chars := text.toList
  (String.ofList (chars.takeWhile (· ≠ separator)),
    String.ofList ((chars.dropWhile (· ≠ separator)).drop 1))

end SchemaAlgebra.Text
