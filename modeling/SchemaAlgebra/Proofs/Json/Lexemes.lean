import Mathlib.Data.List.Basic
import Mathlib.Tactic.IntervalCases
import SchemaAlgebra.Json.Parser
import SchemaAlgebra.Json.Printer
import SchemaAlgebra.Proofs.Json.Sorting

/-!
Strings and whole numbers are read back from their JSON form. Each code point of a string is written by itself, as
a character, a short escape, or one or two UTF-16 units; the reader takes up exactly what was written for it and goes
on. Lone halves of pairs are left out here: two of them next to each other would be read as one pair. What is written
for a number begins with a minus sign or a digit and has no superfluous zeros, and the limit on digits is a limit on
its magnitude.
-/

namespace SchemaAlgebra

namespace Text

/-- A code point that is a Unicode scalar value. -/
def IsScalar (code : Nat) : Prop :=
  code < 0x110000 ∧ isHalf code = false

/-- A text of Unicode scalar values: it is written as its code points are and has no lone halves. -/
def Scalars (text : String) : Prop :=
  Written text ∧ hasHalves text.toList = false

instance (text : String) : Decidable (Scalars text) :=
  inferInstanceAs (Decidable (_ ∧ _))

theorem toNat_lt (c : Char) : c.toNat < 0x110000 := by
  have valid := c.valid
  simp only [UInt32.isValidChar, Nat.isValidChar, UInt32.toNat] at valid
  simp only [Char.toNat, UInt32.toNat]
  omega

theorem markedCode_lt (letter : Char) : markedCode letter < 0x110000 := by
  have last := toNat_lt mark
  unfold markedCode firstLetter halfCount
  split <;> omega

theorem codes_lt (text : List Char) : ∀ code ∈ codes text, code < 0x110000 := by
  fun_induction codes text with
  | case1 => simp
  | case2 c =>
      intro code listed
      obtain rfl := List.mem_singleton.mp listed
      exact toNat_lt c
  | case3 letter rest ih =>
      intro code listed
      rcases List.mem_cons.mp listed with rfl | later
      · exact markedCode_lt letter
      · exact ih code later
  | case4 c letter rest other ih =>
      intro code listed
      rcases List.mem_cons.mp listed with rfl | later
      · exact toNat_lt c
      · exact ih code later

theorem toNat_ofNat {code : Nat} (scalar : IsScalar code) : (Char.ofNat code).toNat = code := by
  obtain ⟨bound, whole⟩ := scalar
  have valid : code.isValidChar := by
    simp only [isHalf, Bool.and_eq_false_iff, decide_eq_false_iff_not] at whole
    simp only [Nat.isValidChar]
    omega
  rw [Char.ofNat, dif_pos valid]
  rfl

theorem Scalars.each {text : String} (scalars : Scalars text) : ∀ code ∈ rank text, IsScalar code := by
  intro code listed
  have none := scalars.2
  rw [hasHalves, List.any_eq_false] at none
  exact ⟨codes_lt _ code listed, by simpa using none code listed⟩

theorem codes_ofCode_append {code : Nat} (scalar : IsScalar code) (rest : List Char) :
    codes (ofCode code ++ rest) = code :: codes rest := by
  rw [ofCode, scalar.2, if_neg Bool.false_ne_true]
  split
  · next last => simp [codes, last, markedCode, firstLetter, halfCount]
  · next other =>
      have unmarked : Char.ofNat code ≠ mark := by
        intro same
        exact other (by rw [← toNat_ofNat scalar, same])
      rw [List.singleton_append, codes_cons _ _ unmarked, toNat_ofNat scalar]

/-- Every row of Unicode scalar values has a text. -/
theorem scalars_ofCodes {row : List Nat} (each : ∀ code ∈ row, IsScalar code) :
    rank (String.ofList (ofCodes row)) = row ∧ Scalars (String.ofList (ofCodes row)) := by
  have same : codes (ofCodes row) = row := by
    induction row with
    | nil => rfl
    | cons code row ih =>
        rw [ofCodes, List.flatMap_cons, codes_ofCode_append (each code (by simp))]
        exact congrArg _ (ih fun other listed => each other (by simp [listed]))
  simp only [Scalars, Written, rank, hasHalves, String.toList_ofList, same, true_and, List.any_eq_false]
  exact fun code listed => by simpa using (each code listed).2

theorem hexDigits_four (n : Nat) :
    hexDigits 4 n = [hexDigit (n / 16 / 16 / 16 % 16), hexDigit (n / 16 / 16 % 16), hexDigit (n / 16 % 16),
      hexDigit (n % 16)] := by
  simp [hexDigits]

end Text

namespace Json

open Text

theorem hexValue?_hexDigit {n : Nat} (digit : n < 16) : hexValue? (hexDigit n) = some n := by
  revert n
  decide

/-- A unit of sixteen bits is read back from its four digits. -/
theorem hexUnit?_hexDigits {n : Nat} (unit : n < 0x10000) :
    hexUnit? (hexDigit (n / 16 / 16 / 16 % 16)) (hexDigit (n / 16 / 16 % 16)) (hexDigit (n / 16 % 16))
      (hexDigit (n % 16)) = some n := by
  have value : ((n / 16 / 16 / 16 % 16 * 16 + n / 16 / 16 % 16) * 16 + n / 16 % 16) * 16 + n % 16 = n := by omega
  simp [hexUnit?, hexValue?_hexDigit (Nat.mod_lt _ (by decide : 0 < 16)), value]

variable {start offset code : Nat} {waiting : Option Nat} {done more : List Char}

/-- A unit in digits is taken up as the unit that it is. -/
theorem readString_unit {n : Nat} (unit : n < 0x10000) (left : more ≠ []) :
    readString start ('\\' :: 'u' :: (hexDigits 4 n ++ more)) offset waiting done =
      match waiting with
      | none =>
          if isHighUnit n then readString start more (offset + 6) (some n) done
          else readString start more (offset + 6) none (push n done)
      | some high =>
          if isLowUnit n then readString start more (offset + 6) none (push (pairCode high n) done)
          else if isHighUnit n then readString start more (offset + 6) (some n) (push high done)
          else readString start more (offset + 6) none (push n (push high done)) := by
  rw [hexDigits_four, readString.eq_def]
  cases waiting <;> simp [hexUnit?_hexDigits unit, left]

theorem ofCode_scalar (scalar : IsScalar code) (other : code ≠ mark.toNat) : ofCode code = [Char.ofNat code] := by
  simp [ofCode, scalar.2, other]

/-- What stands for a code point by itself or behind a backslash is taken up as the code point. -/
theorem readString_short {letter : Char} (short : shortEscape? code = some letter) :
    readString start ('\\' :: letter :: more) offset none done =
      readString start more (offset + 2) none (push code done) := by
  unfold shortEscape? at short
  split at short <;> simp only [Option.some.injEq, reduceCtorEq] at short <;> subst short
  all_goals
    rw [readString.eq_def]
    rfl

/-- A visible character is taken up as it is. -/
theorem readString_visible (visible : 32 ≤ code ∧ code < 127) (long : shortEscape? code = none) :
    readString start (Char.ofNat code :: more) offset none done =
      readString start more (offset + 1) none (push code done) := by
  obtain ⟨low, high⟩ := visible
  have scalar : IsScalar code := ⟨by omega, by simp [isHalf]; omega⟩
  have number := toNat_ofNat scalar
  have known : code ≠ mark.toNat := by
    have last : mark.toNat = 0x10FFFF := by decide
    omega
  have noQuote : Char.ofNat code ≠ '"' := by
    intro same
    obtain rfl : code = 34 := by rw [← number, same]; rfl
    simp [shortEscape?] at long
  have noBackslash : Char.ofNat code ≠ '\\' := by
    intro same
    obtain rfl : code = 92 := by rw [← number, same]; rfl
    simp [shortEscape?] at long
  rw [readString]
  · simp [number, not_lt.mpr low, push, ofCode_scalar scalar known, settle]
  · exact noQuote
  · exact fun same _ => noBackslash same
  · exact fun _ _ _ _ _ same _ => noBackslash same
  · exact fun _ same _ => noBackslash same
  · exact fun _ _ same _ => noBackslash same

theorem isHighUnit_add {n : Nat} (bound : n < 0x400) : isHighUnit (0xD800 + n) = true := by
  rw [isHighUnit, Bool.and_eq_true, decide_eq_true_eq, decide_eq_true_eq]
  omega

theorem isLowUnit_add {n : Nat} (bound : n < 0x400) : isLowUnit (0xDC00 + n) = true := by
  rw [isLowUnit, Bool.and_eq_true, decide_eq_true_eq, decide_eq_true_eq]
  omega

theorem pairCode_units (wide : 0x10000 ≤ code) :
    pairCode (0xD800 + (code - 0x10000) / 0x400) (0xDC00 + (code - 0x10000) % 0x400) = code := by
  unfold pairCode
  omega

theorem length_hexDigits (width n : Nat) : (hexDigits width n).length = width := by
  induction width generalizing n with
  | zero => rfl
  | succ width ih => simp [hexDigits, ih]

/-- What is written for a code point is taken up as the code point. -/
theorem readString_code (scalar : IsScalar code) (left : more ≠ []) :
    readString start (jsonCode code ++ more) offset none done =
      readString start more (offset + (jsonCode code).length) none (push code done) := by
  obtain ⟨bound, whole⟩ := scalar
  unfold jsonCode
  cases short : shortEscape? code with
  | some letter => exact readString_short short
  | none =>
      simp only
      split
      · next visible => exact readString_visible visible short
      · unfold units16
        split
        · next narrow =>
            have single : isHighUnit code = false := by
              simp only [isHalf, Bool.and_eq_false_iff, decide_eq_false_iff_not] at whole
              simp only [isHighUnit, Bool.and_eq_false_iff, decide_eq_false_iff_not]
              omega
            simp only [List.flatMap_cons, List.flatMap_nil, List.append_nil, List.cons_append, List.length_cons,
              length_hexDigits]
            rw [readString_unit narrow left, single]
            rfl
        · next wide =>
            simp only [List.flatMap_cons, List.flatMap_nil, List.append_nil, List.cons_append, List.append_assoc,
              List.length_cons, List.length_append, length_hexDigits]
            rw [readString_unit (by omega) (by simp), isHighUnit_add (by omega)]
            simp only [if_true]
            rw [readString_unit (by omega) left, isLowUnit_add (by omega)]
            simp only [if_true, pairCode_units (not_lt.mp wide)]

/-- A row of code points is taken up one after the other, up to the closing quote. -/
theorem readString_codes {rest : List Char} : ∀ {codes : List Nat} (offset : Nat) (done : List Char),
    (∀ code ∈ codes, IsScalar code) →
      readString start (codes.flatMap jsonCode ++ '"' :: rest) offset none done =
        .ok (String.ofList (done.reverse ++ ofCodes codes), ⟨rest, offset + (codes.flatMap jsonCode).length + 1⟩) := by
  intro codes
  induction codes with
  | nil =>
      intro offset done _
      simp [readString, settle, ofCodes]
  | cons code codes ih =>
      intro offset done scalars
      rw [List.flatMap_cons, List.append_assoc, readString_code (scalars code (by simp)) (by simp),
        ih _ _ fun other listed => scalars other (by simp [listed])]
      simp [push, ofCodes, Nat.add_assoc]

variable (start offset) in
/-- A text is read back from its JSON form. -/
theorem readString_jsonQuoted {text : String} (rest : List Char) (scalars : Scalars text) :
    ∃ after, jsonQuoted text.toList ++ rest = '"' :: after ∧
      readString start after offset none [] =
        .ok (text, ⟨rest, offset + (jsonQuoted text.toList).length - 1⟩) := by
  refine ⟨(codes text.toList).flatMap jsonCode ++ '"' :: rest, by simp [jsonQuoted], ?_⟩
  have read : readString start ((rank text).flatMap jsonCode ++ '"' :: rest) offset none [] = _ :=
    readString_codes offset [] scalars.each
  rw [List.reverse_nil, List.nil_append, scalars.1, String.ofList_toList] at read
  rw [rank] at read
  rw [read]
  simp [jsonQuoted, ← Nat.add_assoc]

end Json

/-! Whole numbers. -/

/-- A whole number in text is its sign followed by the digits of its magnitude. -/
theorem toList_toString_int (n : Int) :
    (toString n).toList = (if n < 0 then ['-'] else []) ++ Nat.toDigits 10 n.natAbs := by
  cases n with
  | ofNat n =>
      have nonnegative : ¬Int.ofNat n < 0 := by simp
      rw [if_neg nonnegative]
      exact Nat.toList_repr
  | negSucc n =>
      rw [if_pos (Int.negSucc_lt_zero n)]
      change ("-" ++ (n + 1).repr).toList = _
      rw [String.toList_append, Nat.toList_repr]
      rfl

/-- The digits of a positive number do not begin with zero. -/
theorem head_toDigits : ∀ {n : Nat}, 0 < n → (Nat.toDigits 10 n).head? ≠ some '0' := by
  intro n
  induction n using Nat.strongRecOn with
  | ind n ih =>
      intro positive
      by_cases single : n < 10
      · rw [Nat.toDigits_of_lt_base single]
        interval_cases n <;> decide
      · rw [Nat.toDigits_of_base_le (by decide) (not_lt.mp single),
          List.head?_append_of_ne_nil _ Nat.toDigits_ne_nil]
        exact ih (n / 10) (by omega) (by omega)

theorem powerOfTen_eq (n : Nat) : powerOfTen n = 10 ^ n := by
  simp [powerOfTen]

namespace Json

/-- Digits are taken up to the first character that is none. -/
theorem takeDigits_append {rest : List Char} (stop : ∀ c ∈ rest.head?, c.isDigit = false) :
    ∀ {digits : List Char}, (∀ c ∈ digits, c.isDigit = true) → takeDigits (digits ++ rest) = (digits, rest)
  | [], _ => by
      cases rest with
      | nil => rfl
      | cons c rest => simp [takeDigits, stop c (by simp)]
  | c :: digits, each => by
      have later : takeDigits (digits ++ rest) = (digits, rest) :=
        takeDigits_append stop fun other listed => each other (by simp [listed])
      simp [takeDigits, each c (by simp), later]

theorem digitsValue_eq (digits : List Char) : digitsValue digits = Nat.ofDigitChars 10 digits 0 := rfl

/-- The digits of a number are its whole part: the only one that begins with zero is zero. -/
theorem takeWhole_toDigits (n : Nat) {rest : List Char} (stop : ∀ c ∈ rest.head?, c.isDigit = false) :
    takeWhole (Nat.toDigits 10 n ++ rest) = (Nat.toDigits 10 n, rest) := by
  have each : ∀ c ∈ Nat.toDigits 10 n, c.isDigit = true := fun c listed =>
    Nat.isDigit_of_mem_toDigits (by decide) (by decide) listed
  rcases Nat.eq_zero_or_pos n with rfl | positive
  · rfl
  · have first := head_toDigits positive
    rw [takeWhole.eq_2, takeDigits_append stop each]
    intro left same
    rcases front : Nat.toDigits 10 n with _ | ⟨c, digits⟩
    · exact Nat.toDigits_ne_nil front
    · rw [front] at same first
      obtain ⟨rfl, -⟩ := List.cons.inj same
      exact first rfl

/-- Whether a character can stand right after a whole number in a document. -/
def endsNumber (c : Char) : Bool :=
  !c.isDigit && c ≠ '.' && c ≠ 'e' && c ≠ 'E'

theorem takeFraction_stop {rest : List Char} (stop : ∀ c ∈ rest.head?, endsNumber c = true) :
    takeFraction rest = ([], rest) := by
  refine takeFraction.eq_2 rest fun left same => ?_
  subst same
  exact absurd (stop '.' rfl) (by decide)

theorem takeExponent_stop {rest : List Char} (stop : ∀ c ∈ rest.head?, endsNumber c = true) :
    takeExponent rest = (none, rest) := by
  cases rest with
  | nil => rfl
  | cons c rest =>
      have last := stop c rfl
      simp only [endsNumber, Bool.and_eq_true, decide_eq_true_eq] at last
      rw [takeExponent, if_neg]
      rintro (rfl | rfl)
      · exact last.1.2 rfl
      · exact last.2 rfl

/-- A number is within the limit if it has at most as many digits as the limit says. -/
theorem writable_iff {n : Int} :
    writable n = true ↔ (Nat.toDigits 10 n.natAbs).length ≤ Numeral.digitLimit := by
  rw [writable, decide_eq_true_eq, powerOfTen_eq]
  exact (Nat.length_toDigits_le_iff (by decide) (by decide)).symm

/-- The first character of a number and the characters after it. -/
theorem takeMinus_toString (n : Int) (rest : List Char) :
    takeMinus ((toString n).toList ++ rest) = (decide (n < 0), Nat.toDigits 10 n.natAbs ++ rest) := by
  rw [toList_toString_int]
  by_cases negative : n < 0
  · simp [negative, takeMinus]
  · rw [if_neg negative, List.nil_append, takeMinus.eq_2]
    · simp [negative]
    · intro left same
      rcases front : Nat.toDigits 10 n.natAbs with _ | ⟨c, digits⟩
      · exact Nat.toDigits_ne_nil front
      · rw [front] at same
        obtain ⟨rfl, -⟩ := List.cons.inj same
        have digit := Nat.isDigit_of_mem_toDigits (b := 10) (n := n.natAbs) (c := '-') (by decide) (by decide)
          (by simp [front])
        exact absurd digit (by decide)

theorem isDigit_of_endsNumber {c : Char} (last : endsNumber c = true) : c.isDigit = false := by
  simp only [endsNumber, Bool.and_eq_true, Bool.not_eq_true'] at last
  exact last.1.1.1

/-- The sign and the magnitude of a whole number make it up. -/
theorem signed_natAbs (n : Int) : Double.signed (decide (n < 0)) n.natAbs = n := by
  unfold Double.signed
  by_cases negative : n < 0 <;> simp only [negative, decide_true, decide_false, if_true, if_false,
    Bool.false_eq_true] <;> omega

/-- A whole number within the limit is read back from its text. -/
theorem readNumber_toString {n : Int} (short : writable n = true) {rest : List Char}
    (stop : ∀ c ∈ rest.head?, endsNumber c = true) (offset : Nat) :
    ∃ after, readNumber (some Numeral.digitLimit) ⟨(toString n).toList ++ rest, offset⟩ =
      .ok (.int n, ⟨rest, after⟩) := by
  have whole := takeWhole_toDigits n.natAbs fun c front => isDigit_of_endsNumber (stop c front)
  have value : digitsValue (Nat.toDigits 10 n.natAbs) = n.natAbs := by
    rw [digitsValue_eq, Nat.ofDigitChars_ten_toDigits]
  have some : (Nat.toDigits 10 n.natAbs).isEmpty = false := List.isEmpty_eq_false_iff.mpr Nat.toDigits_ne_nil
  refine ⟨offset + (((toString n).toList ++ rest).length - rest.length), ?_⟩
  simp only [readNumber, takeMinus_toString, whole, takeFraction_stop stop, takeExponent_stop stop, some,
    List.isEmpty_nil, Option.isNone_none, Bool.and_self, if_true, value, signed_natAbs, Bool.false_eq_true,
    not_lt.mpr (writable_iff.mp short), if_false]

end Json

end SchemaAlgebra
