import SchemaAlgebra.Proofs.Json.Lexemes
import SchemaAlgebra.Proofs.Number.Numerals
import SchemaAlgebra.Proofs.Number.Rounding
import SchemaAlgebra.Proofs.Validation.Targets

/-!
Whole numbers from texts. A whole numeral is read as it stands, so what is written for a whole number is read back,
with any white space around it. A numeral with a fraction or an exponent is rounded to a double first, and becomes the
whole number that this double is: the number that the numeral denotes if it is the value of a double, and otherwise
one next to it.
-/

namespace SchemaAlgebra.Coercion

open Numeral (Denotes DenotesWhole)
open Text (isBlank trim)

variable {checker : TypeChecker} {text : String} {n : Int}

/-! Whole numerals. -/

theorem toNumber?_whole (whole : DenotesWhole text.toList n) : toNumber? (.string text) = some (.int n) := by
  simp only [toNumber?, Numeral.denotesWhole_iff.mp whole]

theorem toInteger?_whole (whole : DenotesWhole text.toList n) : toInteger? (.string text) = some (.int n) := by
  simp only [toInteger?, toNumber?_whole whole]

/-- What is written for a whole number is a whole numeral of it. -/
theorem whole_toString (n : Int) :
    Numeral.Whole (toString n).toList (Nat.toDigits 10 n.natAbs).length n := by
  obtain ⟨ds, digits, length, value⟩ := Numeral.digitRow_toDigits n.natAbs
  rw [toList_toString_int, ← length]
  by_cases negative : n < 0
  · have whole := Numeral.Whole.signed .minus digits
    rw [if_pos rfl, value] at whole
    rw [if_pos negative]
    convert whole using 1
    omega
  · have whole := Numeral.Whole.signed .none digits
    rw [if_neg Bool.false_ne_true, value] at whole
    rw [if_neg negative]
    convert whole using 1
    omega

/-- A whole number within the limit on digits becomes a text, and that text, with white space around it, becomes the
number again, whether an integer or a number is asked for. -/
theorem integer_roundTrip (checker : TypeChecker) (short : (Nat.toDigits 10 n.natAbs).length ≤ Numeral.digitLimit)
    {before after : String} (blank : ∀ c ∈ before.toList, isBlank c = true)
    (blank' : ∀ c ∈ after.toList, isBlank c = true) :
    ∃ text, conversion? checker [.string "string"] (.int n) = .ok (some (.string text)) ∧
      conversion? checker [.string "integer"] (.string (before ++ text ++ after)) = .ok (some (.int n)) ∧
      conversion? checker [.string "number"] (.string (before ++ text ++ after)) = .ok (some (.int n)) := by
  have whole : DenotesWhole (before ++ toString n ++ after).toList n :=
    ⟨before.toList, (toString n).toList, after.toList, _, by simp, blank, blank', whole_toString n, short⟩
  refine ⟨toString n, ?_, ?_, ?_⟩
  · rw [conversion?_single rfl, convert?, toText?, integerText, if_pos (Json.writable_iff.mpr short)]
    rfl
  · rw [conversion?_single rfl, convert?, toInteger?_whole whole]
  · rw [conversion?_single rfl, convert?, toNumber?_whole whole]

/-- A negative number between a tab and an ideographic space, which is white space as well. -/
theorem twelveHundred_roundTrip :
    (Nat.toDigits 10 (-1200 : Int).natAbs).length ≤ Numeral.digitLimit ∧
      (∀ c ∈ "\t".toList, isBlank c = true) ∧ (∀ c ∈ "\u3000\n".toList, isBlank c = true) ∧
      ∃ text, conversion? .byKind [.string "string"] (.int (-1200)) = .ok (some (.string text)) ∧
        conversion? .byKind [.string "integer"] (.string ("\t" ++ text ++ "\u3000\n")) = .ok (some (.int (-1200))) ∧
        conversion? .byKind [.string "number"] (.string ("\t" ++ text ++ "\u3000\n")) = .ok (some (.int (-1200))) := by
  have short : (Nat.toDigits 10 (-1200 : Int).natAbs).length ≤ Numeral.digitLimit := by decide
  have blank : ∀ c ∈ "\t".toList, isBlank c = true := List.all_eq_true.mp (by decide)
  have blank' : ∀ c ∈ "\u3000\n".toList, isBlank c = true := List.all_eq_true.mp (by decide)
  exact ⟨short, blank, blank', integer_roundTrip .byKind short blank blank'⟩

/-! Numerals with a fraction or an exponent. -/

theorem toNumber?_int (made : toNumber? (.string text) = some (.int n)) : DenotesWhole text.toList n := by
  simp only [toNumber?] at made
  cases whole : Numeral.readInt? (trim text.toList) with
  | some m =>
      simp only [whole, Option.some.injEq, Json.int.injEq] at made
      exact Numeral.denotesWhole_iff.mpr (made ▸ whole)
  | none =>
      simp only [whole] at made
      split at made
      · split at made <;> simp at made
      · simp at made

/-- Finite doubles come from numerals only. -/
theorem readDouble?_finite {text : List Char} {d : Double} (read : Numeral.readDouble? text = some d)
    (finite : d.isFinite = true) :
    ∃ parts, Numeral.readParts? text = some parts ∧
      d = Double.ofDecimal parts.negative parts.digits parts.exponent := by
  unfold Numeral.readDouble? at read
  split at read
  · next parts found => exact ⟨parts, found, (Option.some.inj read).symm⟩
  · simp only at read
    split at read
    · exact absurd finite (by simp [← Option.some.inj read, Double.isFinite])
    · split at read
      · exact absurd finite (by simp [← Option.some.inj read, Double.isFinite])
      · simp at read

/-- A text becomes a double if it is a numeral, and no whole one that could be read; the double is nearest to what
the numeral denotes. -/
theorem toNumber?_double {d : Double} (made : toNumber? (.string text) = some (.double d)) :
    (¬∃ m, DenotesWhole text.toList m) ∧ ∃ q, Denotes text.toList q ∧ Double.Nearest q d := by
  simp only [toNumber?] at made
  cases whole : Numeral.readInt? (trim text.toList) with
  | some m => simp [whole] at made
  | none =>
      simp only [whole] at made
      have noWhole : ¬∃ m, DenotesWhole text.toList m := by
        rintro ⟨m, other⟩
        simp [Numeral.denotesWhole_iff.mp other] at whole
      refine ⟨noWhole, ?_⟩
      split at made
      · next d' read =>
          split at made
          · next finite =>
              obtain rfl := Json.double.inj (Option.some.inj made)
              obtain ⟨parts, found, rfl⟩ := readDouble?_finite read finite
              exact ⟨parts.value, Numeral.denotes_iff.mpr ⟨parts, found, rfl⟩, Double.ofDecimal_nearest finite⟩
          · simp at made
      · simp at made

/-- The two ways in which a text becomes a whole number. -/
theorem toInteger?_string (made : toInteger? (.string text) = some (.int n)) :
    DenotesWhole text.toList n ∨
      (¬∃ m, DenotesWhole text.toList m) ∧
        ∃ q d, Denotes text.toList q ∧ Double.Nearest q d ∧ d.value = n := by
  obtain ⟨d, m, double | found, whole, same⟩ | ⟨number, -⟩ := toInteger?_cases made
  · cases double
  · obtain rfl := Json.int.inj same
    obtain ⟨noWhole, q, denotes, nearest⟩ := toNumber?_double found
    exact .inr ⟨noWhole, q, d, denotes, nearest, (Double.toInt?_eq_some whole).2⟩
  · exact .inl (toNumber?_int number)

/-- A text that becomes a whole number is a numeral, and denotes one number only. It becomes this number exactly if it
is a whole numeral within the limit on digits, or if the number is the value of a double. Otherwise it becomes a double
nearest to it, which happens to be whole. -/
theorem numeral_exact_iff (converted : conversion? checker [.string "integer"] (.string text) = .ok (some (.int n))) :
    ∃ q, Denotes text.toList q ∧ (∀ q', Denotes text.toList q' → q' = q) ∧
      ((n : ℚ) = q ↔ (∃ m, DenotesWhole text.toList m) ∨ ∃ d : Double, d.Represents q) ∧
        ((∃ m, DenotesWhole text.toList m) ∨ ∃ d, Double.Nearest q d ∧ d.value = n) := by
  rw [conversion?_single rfl, convert?] at converted
  rcases toInteger?_string (Except.ok.inj converted) with whole | ⟨noWhole, q, d, denotes, nearest, same⟩
  · refine ⟨n, whole.denotes, fun q' other => whole.denotes.unique other, ?_, .inl ⟨n, whole⟩⟩
    exact ⟨fun _ => .inl ⟨n, whole⟩, fun _ => rfl⟩
  · refine ⟨q, denotes, fun q' other => denotes.unique other, ⟨?exact, ?represented⟩, .inr ⟨d, nearest, same⟩⟩
    case exact => exact fun exact => .inr ⟨d, nearest.finite, nearest.proper, same.trans exact⟩
    case represented =>
      rintro (whole | ⟨other, represents⟩)
      · exact absurd whole noWhole
      · rw [← same, nearest.exact represents]

/-- A numeral with underscore, fraction and exponent that is exact. -/
theorem hundredTwentyFive_exact :
    conversion? .byValue [.string "integer"] (.string " +1_2.50e1 ") = .ok (some (.int 125)) ∧
      ∃ q, Denotes " +1_2.50e1 ".toList q ∧ (∀ q', Denotes " +1_2.50e1 ".toList q' → q' = q) ∧
        (((125 : Int) : ℚ) = q ↔ (∃ m, DenotesWhole " +1_2.50e1 ".toList m) ∨ ∃ d : Double, d.Represents q) ∧
          ((∃ m, DenotesWhole " +1_2.50e1 ".toList m) ∨ ∃ d, Double.Nearest q d ∧ d.value = (125 : Int)) := by
  have converted : conversion? .byValue [.string "integer"] (.string " +1_2.50e1 ") = .ok (some (.int 125)) := by rfl
  exact ⟨converted, numeral_exact_iff converted⟩

/-- Not every text becomes the whole number that it denotes: the one after `2 ^ 53` becomes `2 ^ 53` if it is written
with a fraction. -/
theorem fraction_rounds :
    ¬∀ (text : String) (n : Int), conversion? .byValue [.string "integer"] (.string text) = .ok (some (.int n)) →
      Denotes text.toList n := by
  intro exact
  have rounded : Denotes "9007199254740993.0".toList (9007199254740992 : Int) := exact _ _ rfl
  have denoted : Denotes "9007199254740993.0".toList 9007199254740993 :=
    Numeral.denotes_iff.mpr ⟨⟨false, 90071992547409930, -1⟩, by rfl, by norm_num [Numeral.Parts.value, Double.signed]⟩
  have same := denoted.unique rounded
  norm_num at same

end SchemaAlgebra.Coercion
