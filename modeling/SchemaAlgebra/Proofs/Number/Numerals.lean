import Mathlib.Algebra.Order.Field.Rat
import Mathlib.Data.List.TakeWhile
import Mathlib.Data.Nat.Digits.Defs
import Mathlib.Tactic.FieldSimp
import Mathlib.Tactic.Ring
import SchemaAlgebra.Number.Numeral

/-!
What numerals are and what they denote. A numeral is a sign, digits, a fraction and an exponent, most of which may be
missing; it denotes a rational number, which is not rounded. The readers take exactly these texts apart, and to the
same number. White space around a numeral is trimmed before, and no character of a numeral is white space.
-/

namespace SchemaAlgebra.Numeral

open SchemaAlgebra.Text

/-- What follows the first digit of a row: digits of any script, each behind at most one underscore. -/
inductive DigitTail : List Char → List Nat → Prop
  | done : DigitTail [] []
  | digit {c : Char} {d : Nat} {row : List Char} {ds : List Nat} :
      digitValue? c = some d → DigitTail row ds → DigitTail (c :: row) (d :: ds)
  | spaced {c : Char} {d : Nat} {row : List Char} {ds : List Nat} :
      digitValue? c = some d → DigitTail row ds → DigitTail ('_' :: c :: row) (d :: ds)

/-- A row of digits and their values. -/
inductive DigitRow : List Char → List Nat → Prop
  | row {c : Char} {d : Nat} {row : List Char} {ds : List Nat} :
      digitValue? c = some d → DigitTail row ds → DigitRow (c :: row) (d :: ds)

/-- A row of digits, or nothing. -/
inductive Digits : List Char → List Nat → Prop
  | none : Digits [] []
  | some {row : List Char} {ds : List Nat} : DigitRow row ds → Digits row ds

/-- A sign, and whether it is minus. -/
inductive Sign : List Char → Bool → Prop
  | none : Sign [] false
  | plus : Sign ['+'] false
  | minus : Sign ['-'] true

/-- A point with digits behind it, or nothing. -/
inductive Fraction : List Char → List Nat → Prop
  | none : Fraction [] []
  | point {row : List Char} {ds : List Nat} : Digits row ds → Fraction ('.' :: row) ds

/-- The number that digits denote, the last of them counting ones. -/
def worth (ds : List Nat) : Nat :=
  Nat.ofDigits 10 ds.reverse

/-- An exponent mark with a whole number behind it, or nothing. -/
inductive Exponent : List Char → Int → Prop
  | none : Exponent [] 0
  | power {mark : Char} {sign row : List Char} {negative : Bool} {ds : List Nat} :
      mark = 'e' ∨ mark = 'E' → Sign sign negative → DigitRow row ds →
        Exponent (mark :: (sign ++ row)) (if negative then -worth ds else worth ds)

/-- A whole numeral: how many digits it has, and the number that it denotes. -/
inductive Whole : List Char → Nat → Int → Prop
  | signed {sign row : List Char} {negative : Bool} {ds : List Nat} : Sign sign negative → DigitRow row ds →
      Whole (sign ++ row) ds.length (if negative then -worth ds else worth ds)

/-- A decimal numeral and the number that it denotes. It has a digit before or behind the point. -/
inductive Decimal : List Char → ℚ → Prop
  | parts {sign whole fraction exponent : List Char} {negative : Bool} {ds fs : List Nat} {e : Int} :
      Sign sign negative → Digits whole ds → Fraction fraction fs → ds ≠ [] ∨ fs ≠ [] → Exponent exponent e →
        Decimal (sign ++ (whole ++ (fraction ++ exponent)))
          ((if negative then -1 else 1) * (worth ds + worth fs / 10 ^ fs.length) * 10 ^ e)

/-- A decimal numeral with white space around it. -/
def Denotes (text : List Char) (q : ℚ) : Prop :=
  ∃ before numeral after, text = before ++ (numeral ++ after) ∧ (∀ c ∈ before, isBlank c = true) ∧
    (∀ c ∈ after, isBlank c = true) ∧ Decimal numeral q

/-- A whole numeral short enough to be read as one, with white space around it. -/
def DenotesWhole (text : List Char) (n : Int) : Prop :=
  ∃ before numeral after count, text = before ++ (numeral ++ after) ∧ (∀ c ∈ before, isBlank c = true) ∧
    (∀ c ∈ after, isBlank c = true) ∧ Whole numeral count n ∧ count ≤ digitLimit

variable {text body rest row : List Char} {ds : List Nat} {negative : Bool} {q : ℚ} {n : Int}

/-! The numbers that digits denote. -/

theorem ofDigits_eq_worth (ds : List Nat) : ofDigits ds = worth ds := by
  rw [worth, Nat.ofDigits_eq_foldr, List.foldr_reverse, ofDigits]
  congr 1
  funext n d
  simp [Nat.add_comm]

theorem worth_append (ds fs : List Nat) : worth (ds ++ fs) = worth ds * 10 ^ fs.length + worth fs := by
  rw [worth, List.reverse_append, Nat.ofDigits_append, List.length_reverse, worth, worth]
  ring

theorem signed_eq_worth (negative : Bool) (ds : List Nat) :
    Double.signed negative (ofDigits ds) = if negative then -(worth ds : Int) else worth ds := by
  rw [ofDigits_eq_worth, Double.signed]

/-! Rows of digits. -/

/-- Whether no row of digits goes on with a text. -/
def Stops (rest : List Char) : Prop :=
  ∀ c ∈ rest.head?, digitValue? c = none ∧ c ≠ '_'

theorem ne_of_digit {c other : Char} {d : Nat} (digit : digitValue? c = some d) (none : digitValue? other = none) :
    c ≠ other := by
  rintro rfl
  cases digit.symm.trans none

theorem ne_underscore {c : Char} {d : Nat} (digit : digitValue? c = some d) : c ≠ '_' :=
  ne_of_digit digit (by decide)

theorem digitTail_digit {c : Char} {d : Nat} (digit : digitValue? c = some d) (rest : List Char) :
    digitTail (c :: rest) = (d :: (digitTail rest).1, (digitTail rest).2) := by
  rw [digitTail.eq_3 _ _ fun _ _ same => absurd same (ne_underscore digit)]
  simp [digit]

theorem digitTail_spaced {c : Char} {d : Nat} (digit : digitValue? c = some d) (rest : List Char) :
    digitTail ('_' :: c :: rest) = (d :: (digitTail rest).1, (digitTail rest).2) := by
  simp [digitTail, digit]

theorem digitTail_stops (stops : Stops rest) : digitTail rest = ([], rest) := by
  cases rest with
  | nil => rfl
  | cons c rest =>
      obtain ⟨noDigit, visible⟩ := stops c rfl
      rw [digitTail.eq_3 _ _ fun _ _ same => absurd same visible]
      simp [noDigit]

theorem DigitTail.read (tail : DigitTail row ds) (stops : Stops rest) : digitTail (row ++ rest) = (ds, rest) := by
  induction tail with
  | done => exact digitTail_stops stops
  | digit digit _ ih => rw [List.cons_append, digitTail_digit digit, ih]
  | spaced digit _ ih => rw [List.cons_append, List.cons_append, digitTail_spaced digit, ih]

theorem digitTail_sound (cut : digitTail text = (ds, rest)) : ∃ row, text = row ++ rest ∧ DigitTail row ds := by
  fun_induction digitTail text generalizing ds with
  | case1 =>
      obtain ⟨rfl, rfl⟩ := Prod.mk.inj cut
      exact ⟨[], rfl, .done⟩
  | case2 c after d digit ds' left found ih =>
      obtain ⟨rfl, rfl⟩ := Prod.mk.inj cut
      obtain ⟨row, rfl, tail⟩ := ih found
      exact ⟨'_' :: c :: row, rfl, .spaced digit tail⟩
  | case3 =>
      obtain ⟨rfl, rfl⟩ := Prod.mk.inj cut
      exact ⟨[], rfl, .done⟩
  | case4 c after _ d digit ds' left found ih =>
      obtain ⟨rfl, rfl⟩ := Prod.mk.inj cut
      obtain ⟨row, rfl, tail⟩ := ih found
      exact ⟨c :: row, rfl, .digit digit tail⟩
  | case5 =>
      obtain ⟨rfl, rfl⟩ := Prod.mk.inj cut
      exact ⟨[], rfl, .done⟩

theorem DigitRow.read (digits : DigitRow row ds) (stops : Stops rest) : digitRun (row ++ rest) = (ds, rest) := by
  obtain ⟨digit, tail⟩ := digits
  rw [List.cons_append, digitRun]
  simp [digit, tail.read stops]

theorem Digits.read (digits : Digits row ds) (stops : Stops rest) : digitRun (row ++ rest) = (ds, rest) := by
  cases digits with
  | some digits => exact digits.read stops
  | none =>
      cases rest with
      | nil => rfl
      | cons c rest => simp [digitRun, (stops c rfl).1]

theorem digitRun_sound (cut : digitRun text = (ds, rest)) : ∃ row, text = row ++ rest ∧ Digits row ds := by
  unfold digitRun at cut
  split at cut
  · obtain ⟨rfl, rfl⟩ := Prod.mk.inj cut
    exact ⟨[], rfl, .none⟩
  · next c after =>
      split at cut
      · next d digit =>
          obtain ⟨rfl, rfl⟩ := Prod.mk.inj cut
          have cut : digitTail after = ((digitTail after).1, (digitTail after).2) := rfl
          obtain ⟨row, split, tail⟩ := digitTail_sound cut
          exact ⟨c :: row, congrArg _ split, .some ⟨digit, tail⟩⟩
      · obtain ⟨rfl, rfl⟩ := Prod.mk.inj cut
        exact ⟨[], rfl, .none⟩

theorem Digits.digitRow (digits : Digits row ds) (some : ds ≠ []) : DigitRow row ds := by
  cases digits with
  | none => exact absurd rfl some
  | some digits => exact digits

theorem DigitRow.ne_nil (digits : DigitRow row ds) : ds ≠ [] := by
  cases digits
  simp

/-! Signs. -/

/-- Whether a text begins with something else than a sign. -/
def Unsigned (text : List Char) : Prop :=
  ∀ c ∈ text.head?, c ≠ '+' ∧ c ≠ '-'

theorem Sign.read {sign : List Char} (signed : Sign sign negative) (plain : Unsigned body) :
    signAndRest (sign ++ body) = (negative, body) := by
  cases signed with
  | plus => rfl
  | minus => rfl
  | none =>
      rw [List.nil_append, signAndRest.eq_3]
      · rintro rest rfl
        exact absurd rfl (plain '-' rfl).2
      · rintro rest rfl
        exact absurd rfl (plain '+' rfl).1

theorem signAndRest_sound (cut : signAndRest text = (negative, body)) :
    ∃ sign, text = sign ++ body ∧ Sign sign negative := by
  unfold signAndRest at cut
  split at cut
  all_goals obtain ⟨rfl, rfl⟩ := Prod.mk.inj cut
  · exact ⟨['-'], rfl, .minus⟩
  · exact ⟨['+'], rfl, .plus⟩
  · exact ⟨[], rfl, .none⟩

theorem DigitRow.unsigned (digits : DigitRow row ds) (rest : List Char) : Unsigned (row ++ rest) := by
  obtain ⟨digit, -⟩ := digits
  rintro c front
  obtain rfl := Option.some.inj front
  exact ⟨ne_of_digit digit (by decide), ne_of_digit digit (by decide)⟩

/-! Whole numerals. -/

/-- A sign and a row of digits are taken apart into these. -/
theorem DigitRow.read_signed {sign : List Char} (digits : DigitRow row ds) (signed : Sign sign negative) :
    signAndRest (sign ++ row) = (negative, row) ∧ digitRun row = (ds, []) := by
  have run : digitRun (row ++ []) = (ds, []) := digits.read (by simp [Stops])
  have plain := digits.unsigned []
  rw [List.append_nil] at run plain
  exact ⟨signed.read plain, run⟩

theorem signedRow_sound (cut : signAndRest text = (negative, body)) (run : digitRun body = (ds, []))
    (some : ds ≠ []) : ∃ sign row, text = sign ++ row ∧ Sign sign negative ∧ DigitRow row ds := by
  obtain ⟨sign, rfl, signed⟩ := signAndRest_sound cut
  obtain ⟨row, rfl, digits⟩ := digitRun_sound run
  exact ⟨sign, row, by rw [List.append_nil], signed, digits.digitRow some⟩

theorem Whole.read {count : Nat} (whole : Whole text count n) (short : count ≤ digitLimit) :
    readInt? text = some n := by
  obtain ⟨signed, digits⟩ := whole
  obtain ⟨cut, run⟩ := digits.read_signed signed
  obtain ⟨d, ds, rfl⟩ := List.exists_cons_of_ne_nil digits.ne_nil
  simp only [readInt?, cut, run, short, if_true, signed_eq_worth]

theorem readInt?_sound (read : readInt? text = some n) : ∃ count, Whole text count n ∧ count ≤ digitLimit := by
  rcases cut : signAndRest text with ⟨negative, body⟩
  rcases run : digitRun body with ⟨ds, rest⟩
  simp only [readInt?, cut, run] at read
  split at read
  · simp at read
  · next ds' some same =>
      obtain ⟨rfl, rfl⟩ := Prod.mk.inj same
      split at read
      · next short =>
          obtain rfl := Option.some.inj read
          obtain ⟨sign, row, rfl, signed, digits⟩ := signedRow_sound cut run fun none => some none
          rw [signed_eq_worth]
          exact ⟨_, .signed signed digits, short⟩
      · simp at read
  · simp at read

/-! Decimal numerals. -/

/-- The number that the parts of a numeral make up. -/
def Parts.value (parts : Parts) : ℚ :=
  Double.signed parts.negative parts.digits * 10 ^ parts.exponent

theorem value_parts (negative : Bool) (ds fs : List Nat) (e : Int) :
    (⟨negative, ofDigits (ds ++ fs), e - fs.length⟩ : Parts).value =
      (if negative then -1 else 1) * (worth ds + worth fs / 10 ^ fs.length) * 10 ^ e := by
  have ten : (10 : ℚ) ≠ 0 := by norm_num
  rw [Parts.value, signed_eq_worth, worth_append, zpow_sub₀ ten, zpow_natCast]
  cases negative <;> simp <;> field_simp

theorem Exponent.head {exponent : List Char} {e : Int} (power : Exponent exponent e) :
    ∀ c ∈ exponent.head?, c = 'e' ∨ c = 'E' := by
  rintro c front
  cases power with
  | none => cases front
  | power mark => exact Option.some.inj front ▸ mark

theorem Exponent.stops {exponent : List Char} {e : Int} (power : Exponent exponent e) : Stops exponent := by
  rintro c front
  rcases power.head c front with rfl | rfl
  all_goals exact ⟨by decide, by decide⟩

theorem Exponent.read {exponent : List Char} {e : Int} (power : Exponent exponent e) :
    readExponent? exponent = some e := by
  cases power with
  | none => rfl
  | power mark signed digits =>
      obtain ⟨cut, run⟩ := digits.read_signed signed
      obtain ⟨d, ds, rfl⟩ := List.exists_cons_of_ne_nil digits.ne_nil
      simp only [readExponent?, mark, cut, run, if_true, signed_eq_worth]

theorem readExponent?_sound {exponent : List Char} {e : Int} (read : readExponent? exponent = some e) :
    Exponent exponent e := by
  unfold readExponent? at read
  split at read
  · obtain rfl := Option.some.inj read
    exact .none
  · next c after =>
      split at read
      · next mark =>
          rcases cut : signAndRest after with ⟨negative, body⟩
          rcases run : digitRun body with ⟨ds, rest⟩
          simp only [cut, run] at read
          split at read
          · simp at read
          · next ds' some same =>
              obtain ⟨rfl, rfl⟩ := Prod.mk.inj same
              obtain rfl := Option.some.inj read
              obtain ⟨sign, row, rfl, signed, digits⟩ := signedRow_sound cut run fun none => some none
              rw [signed_eq_worth]
              exact .power mark signed digits
          · simp at read
      · simp at read

theorem Fraction.stops {fraction exponent : List Char} {fs : List Nat} {e : Int} (digits : Fraction fraction fs)
    (power : Exponent exponent e) : Stops (fraction ++ exponent) := by
  cases digits with
  | none => exact power.stops
  | point =>
      rintro c front
      obtain rfl := Option.some.inj front
      exact ⟨by decide, by decide⟩

theorem Fraction.read {fraction exponent : List Char} {fs : List Nat} {e : Int} (digits : Fraction fraction fs)
    (power : Exponent exponent e) : readFraction (fraction ++ exponent) = (fs, exponent) := by
  cases digits with
  | point digits => exact digits.read power.stops
  | none =>
      rw [List.nil_append, readFraction.eq_2]
      rintro rest rfl
      rcases power.head '.' rfl with same | same
      all_goals exact absurd same (by decide)

theorem readFraction_sound (cut : readFraction text = (ds, rest)) :
    ∃ fraction, text = fraction ++ rest ∧ Fraction fraction ds := by
  unfold readFraction at cut
  split at cut
  · obtain ⟨row, rfl, digits⟩ := digitRun_sound cut
    exact ⟨'.' :: row, rfl, .point digits⟩
  · obtain ⟨rfl, rfl⟩ := Prod.mk.inj cut
    exact ⟨[], rfl, .none⟩

/-- The reader takes every numeral, and to the number that it denotes. -/
theorem Decimal.read (numeral : Decimal text q) : ∃ parts, readParts? text = some parts ∧ parts.value = q := by
  obtain ⟨signed, whole, fraction, some, power⟩ := numeral
  next sign front fractional exponent negative ds fs e =>
    have plain : Unsigned (front ++ (fractional ++ exponent)) := by
      cases whole with
      | some digits => exact digits.unsigned _
      | none =>
          cases fraction with
          | none => simp at some
          | point =>
              rintro c first
              obtain rfl := Option.some.inj first
              exact ⟨by decide, by decide⟩
    have digits : (ds.isEmpty && fs.isEmpty) = false := by
      rcases some with some | some <;> simp [some]
    refine ⟨_, ?_, value_parts negative ds fs e⟩
    simp only [readParts?, signed.read plain, whole.read (fraction.stops power), fraction.read power, digits,
      power.read, Bool.false_eq_true, if_false, Option.map_some]

/-- What the reader takes is a numeral. -/
theorem readParts?_sound {parts : Parts} (read : readParts? text = some parts) : Decimal text parts.value := by
  rcases cut : signAndRest text with ⟨negative, body⟩
  rcases run : digitRun body with ⟨ds, afterWhole⟩
  rcases point : readFraction afterWhole with ⟨fs, afterFraction⟩
  obtain ⟨sign, rfl, signed⟩ := signAndRest_sound cut
  obtain ⟨row, rfl, whole⟩ := digitRun_sound run
  obtain ⟨fractional, rfl, fraction⟩ := readFraction_sound point
  simp only [readParts?, cut, run, point] at read
  split at read
  · simp at read
  · next some =>
      obtain ⟨e, power, rfl⟩ := Option.map_eq_some_iff.mp read
      rw [value_parts]
      refine .parts signed whole fraction ?_ (readExponent?_sound power)
      simpa only [Bool.and_eq_true, List.isEmpty_iff, not_and_or] using some

/-! White space. No character of a numeral is trimmed. -/

theorem isBlank_of_digit {c : Char} {d : Nat} (digit : digitValue? c = some d) : isBlank c = false := by
  have apart : ∀ start ∈ zeros, ∀ span ∈ blankSpans, span.2 < start ∨ start + 9 < span.1 := by decide
  simp only [digitValue?, digitCode?, Option.map_eq_some_iff] at digit
  obtain ⟨start, found, -⟩ := digit
  have near := List.find?_some found
  simp only [Bool.and_eq_true, decide_eq_true_eq] at near
  rw [isBlank, Bool.eq_false_iff]
  intro blank
  obtain ⟨span, listed, inside⟩ := (Spans.holds_iff _ _).mp blank
  have := apart start (List.mem_of_find?_eq_some found) span listed
  omega

/-- Whether a text has no white space. -/
def Visible (text : List Char) : Prop :=
  ∀ c ∈ text, isBlank c = false

instance (text : List Char) : Decidable (Visible text) :=
  List.decidableBAll _ text

theorem visible_append {a b : List Char} : Visible (a ++ b) ↔ Visible a ∧ Visible b := by
  simp [Visible, or_imp, forall_and]

theorem visible_cons {c : Char} : Visible (c :: text) ↔ isBlank c = false ∧ Visible text := by
  simp [Visible]

theorem DigitTail.visible (tail : DigitTail row ds) : Visible row := by
  induction tail with
  | done => decide
  | digit digit _ ih => exact visible_cons.mpr ⟨isBlank_of_digit digit, ih⟩
  | spaced digit _ ih => exact visible_cons.mpr ⟨by decide, visible_cons.mpr ⟨isBlank_of_digit digit, ih⟩⟩

theorem DigitRow.visible (digits : DigitRow row ds) : Visible row := by
  obtain ⟨digit, tail⟩ := digits
  exact visible_cons.mpr ⟨isBlank_of_digit digit, tail.visible⟩

theorem Digits.visible (digits : Digits row ds) : Visible row := by
  cases digits with
  | none => decide
  | some digits => exact digits.visible

theorem Sign.visible {sign : List Char} (signed : Sign sign negative) : Visible sign := by
  cases signed <;> decide

theorem Whole.visible {count : Nat} (whole : Whole text count n) : Visible text := by
  obtain ⟨signed, digits⟩ := whole
  exact visible_append.mpr ⟨signed.visible, digits.visible⟩

theorem Decimal.visible (numeral : Decimal text q) : Visible text := by
  obtain ⟨signed, whole, fraction, -, power⟩ := numeral
  refine visible_append.mpr ⟨signed.visible, visible_append.mpr ⟨whole.visible, visible_append.mpr ⟨?_, ?_⟩⟩⟩
  · cases fraction with
    | none => decide
    | point digits => exact visible_cons.mpr ⟨by decide, digits.visible⟩
  · cases power with
    | none => decide
    | power mark signed digits =>
        refine visible_cons.mpr ⟨?_, visible_append.mpr ⟨signed.visible, digits.visible⟩⟩
        rcases mark with rfl | rfl <;> decide

theorem dropWhile_blank {before : List Char} (blank : ∀ c ∈ before, isBlank c = true) (visible : Visible text)
    (rest : List Char) (blank' : ∀ c ∈ rest, isBlank c = true) :
    (before ++ (text ++ rest)).dropWhile isBlank = if text = [] then [] else text ++ rest := by
  rw [List.dropWhile_append_of_pos blank]
  cases text with
  | nil => rw [List.nil_append, if_pos rfl, List.dropWhile_eq_nil_iff]; exact blank'
  | cons c text => simp [(visible_cons.mp visible).1]

/-- Trimming takes away the white space around a text without white space, and nothing else. -/
theorem trim_append {before after : List Char} (blank : ∀ c ∈ before, isBlank c = true) (visible : Visible text)
    (blank' : ∀ c ∈ after, isBlank c = true) : trim (before ++ (text ++ after)) = text := by
  rw [trim, dropWhile_blank blank visible after blank']
  split
  · next empty => simp [empty]
  · next some =>
      have blank'' : ∀ c ∈ after.reverse, isBlank c = true := by simpa using blank'
      have visible' : Visible text.reverse := by simpa [Visible] using visible
      have reversed := dropWhile_blank blank'' visible' [] (by simp)
      rw [List.append_nil, ← List.reverse_append] at reversed
      rw [reversed, if_neg (by simpa using some), List.reverse_reverse]

theorem trim_sound (text : List Char) :
    ∃ before after, text = before ++ (trim text ++ after) ∧ (∀ c ∈ before, isBlank c = true) ∧
      ∀ c ∈ after, isBlank c = true := by
  refine ⟨text.takeWhile isBlank, ((text.dropWhile isBlank).reverse.takeWhile isBlank).reverse, ?_,
    fun c => List.mem_takeWhile_imp, fun c listed => List.mem_takeWhile_imp (List.mem_reverse.mp listed)⟩
  rw [trim, ← List.reverse_append, List.takeWhile_append_dropWhile, List.reverse_reverse,
    List.takeWhile_append_dropWhile]

/-- A text denotes what its trimmed parts make up. -/
theorem denotes_iff : Denotes text q ↔ ∃ parts, readParts? (trim text) = some parts ∧ parts.value = q := by
  constructor
  · rintro ⟨before, numeral, after, rfl, blank, blank', decimal⟩
    rw [trim_append blank decimal.visible blank']
    exact decimal.read
  · rintro ⟨parts, read, rfl⟩
    obtain ⟨before, after, split, blank, blank'⟩ := trim_sound text
    exact ⟨before, trim text, after, split, blank, blank', readParts?_sound read⟩

/-- A text denotes one number at most. -/
theorem Denotes.unique {q' : ℚ} (denotes : Denotes text q) (other : Denotes text q') : q' = q := by
  obtain ⟨parts, read, rfl⟩ := denotes_iff.mp denotes
  obtain ⟨parts', read', rfl⟩ := denotes_iff.mp other
  rw [Option.some.inj (read'.symm.trans read)]

theorem denotesWhole_iff : DenotesWhole text n ↔ readInt? (trim text) = some n := by
  constructor
  · rintro ⟨before, numeral, after, count, rfl, blank, blank', whole, short⟩
    rw [trim_append blank whole.visible blank']
    exact whole.read short
  · intro read
    obtain ⟨before, after, split, blank, blank'⟩ := trim_sound text
    obtain ⟨count, whole, short⟩ := readInt?_sound read
    exact ⟨before, trim text, after, count, split, blank, blank', whole, short⟩

/-- A whole numeral is a decimal numeral without fraction and exponent. -/
theorem Whole.decimal {count : Nat} (whole : Whole text count n) : Decimal text n := by
  obtain ⟨signed, digits⟩ := whole
  have decimal := Decimal.parts signed (.some digits) .none (.inl digits.ne_nil) .none
  rw [List.append_nil, List.append_nil] at decimal
  convert decimal using 1
  split <;> simp [worth]

theorem DenotesWhole.denotes (whole : DenotesWhole text n) : Denotes text n := by
  obtain ⟨before, numeral, after, count, split, blank, blank', whole, -⟩ := whole
  exact ⟨before, numeral, after, split, blank, blank', whole.decimal⟩

/-! What is written for a number is a numeral of it. -/

theorem DigitTail.append {row' : List Char} {ds' : List Nat} (tail : DigitTail row ds) (more : DigitTail row' ds') :
    DigitTail (row ++ row') (ds ++ ds') := by
  induction tail with
  | done => exact more
  | digit digit _ ih => exact .digit digit ih
  | spaced digit _ ih => exact .spaced digit ih

theorem DigitRow.append {row' : List Char} {ds' : List Nat} (digits : DigitRow row ds) (more : DigitTail row' ds') :
    DigitRow (row ++ row') (ds ++ ds') := by
  obtain ⟨digit, tail⟩ := digits
  exact .row digit (tail.append more)

theorem digitValue?_digitChar {d : Nat} (digit : d < 10) : digitValue? (Nat.digitChar d) = some d := by
  revert d
  decide

theorem digitRow_toDigits (n : Nat) :
    ∃ ds, DigitRow (Nat.toDigits 10 n) ds ∧ ds.length = (Nat.toDigits 10 n).length ∧ worth ds = n := by
  induction n using Nat.strongRecOn with
  | ind n ih =>
      by_cases single : n < 10
      · rw [Nat.toDigits_of_lt_base single]
        exact ⟨[n], .row (digitValue?_digitChar single) .done, rfl, by simp [worth]⟩
      · obtain ⟨ds, digits, length, value⟩ := ih (n / 10) (by omega)
        have last := digitValue?_digitChar (Nat.mod_lt n (by decide : 0 < 10))
        rw [Nat.toDigits_of_base_le (by decide) (not_lt.mp single)]
        refine ⟨ds ++ [n % 10], digits.append (.digit last .done), ?_, ?_⟩
        · simp only [List.length_append, List.length_singleton, length]
        · rw [worth_append, value]
          simp [worth]
          omega

end SchemaAlgebra.Numeral
