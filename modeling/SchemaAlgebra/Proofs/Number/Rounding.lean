import Mathlib.Algebra.Order.Field.Power
import Mathlib.Algebra.Order.Field.Rat
import Mathlib.Data.Nat.Cast.Field
import Mathlib.Data.Nat.Log
import Mathlib.Tactic.FieldSimp
import Mathlib.Tactic.Linarith
import Mathlib.Tactic.NormNum
import Mathlib.Tactic.Positivity
import Mathlib.Tactic.Ring
import SchemaAlgebra.Number.Double

/-!
Doubles as rational numbers, and rounding to them. A double is nearest to a rational number if no other one lies
closer. A quotient is rounded on the grid of the multiples of one power of two, which is chosen so that the quotient
takes at most 53 bits on it; doubles that do not lie on the grid are too small to come closer than the grid does. So
what is rounded to a double is rounded to a nearest one, and a number that is the value of a double stays as it is.
-/

namespace SchemaAlgebra.Double

/-- The rational number that a finite double stands for. -/
def value : Double → ℚ
  | .finite negative m e => (if negative then -1 else 1) * m * 2 ^ e
  | _ => 0

/-- Whether a double has a place in 64 bits: the mantissa is below `2 ^ 53` and the exponent in range. -/
def Proper : Double → Prop
  | .finite _ m e => m < 2 ^ 53 ∧ minExponent ≤ e ∧ e ≤ maxExponent
  | _ => True

instance : (d : Double) → Decidable d.Proper
  | .finite _ m e => inferInstanceAs (Decidable (m < 2 ^ 53 ∧ minExponent ≤ e ∧ e ≤ maxExponent))
  | .nan _ | .infinity _ => .isTrue trivial

/-- A finite double and no other lies closer to a number. -/
structure Nearest (q : ℚ) (d : Double) : Prop where
  finite : d.isFinite = true
  proper : d.Proper
  closest : ∀ other : Double, other.isFinite = true → other.Proper → |d.value - q| ≤ |other.value - q|

/-- A number that a double stands for. -/
def Represents (d : Double) (q : ℚ) : Prop :=
  d.isFinite = true ∧ d.Proper ∧ d.value = q

theorem two_pow_pos (e : Int) : (0 : ℚ) < 2 ^ e :=
  zpow_pos (by norm_num) e

/-- What is nearest to a number that a double stands for is that number. -/
theorem Nearest.exact {q : ℚ} {d other : Double} (nearest : Nearest q d) (represents : other.Represents q) :
    d.value = q := by
  obtain ⟨finite, proper, same⟩ := represents
  have close := nearest.closest other finite proper
  rw [same, sub_self, abs_zero] at close
  exact sub_eq_zero.mp (abs_eq_zero.mp (le_antisymm close (abs_nonneg _)))

/-! Quotients and powers of two. -/

theorem scaleDown_spec (num : Nat) {den : Nat} (positive : 0 < den) (e : Int) :
    0 < (scaleDown num den e).2 ∧
      ((scaleDown num den e).1 : ℚ) / (scaleDown num den e).2 = num / den / 2 ^ e := by
  cases e with
  | ofNat n =>
      refine ⟨by simp [scaleDown, Nat.shiftLeft_eq, positive], ?_⟩
      simp only [scaleDown, Nat.shiftLeft_eq, Nat.cast_mul, Nat.cast_pow, Nat.cast_ofNat, Int.ofNat_eq_natCast,
        zpow_natCast, div_div]
  | negSucc n =>
      refine ⟨positive, ?_⟩
      simp only [scaleDown, Nat.shiftLeft_eq, Nat.cast_mul, Nat.cast_pow, Nat.cast_ofNat, zpow_negSucc, div_inv_eq_mul]
      ring

theorem ratioOf_spec (m : Nat) (e : Int) :
    0 < (ratioOf m e).2 ∧ ((ratioOf m e).1 : ℚ) / (ratioOf m e).2 = m * 2 ^ e := by
  cases e with
  | ofNat n => simp [ratioOf, Nat.shiftLeft_eq]
  | negSucc n => simp [ratioOf, Nat.shiftLeft_eq, zpow_negSucc, div_eq_mul_inv]

theorem cast_signed (negative : Bool) (n : Nat) :
    ((signed negative n : Int) : ℚ) = (if negative then -1 else 1) * n := by
  cases negative <;> simp [signed]

theorem natAbs_signed (negative : Bool) (n : Nat) : (signed negative n).natAbs = n := by
  cases negative <;> simp [signed]

/-- A double without fraction equals the whole number that is taken for it. -/
theorem toInt?_eq_some {d : Double} {n : Int} (whole : d.toInt? = some n) : d.isFinite = true ∧ d.value = n := by
  cases d with
  | nan => cases whole
  | infinity => cases whole
  | finite negative m e =>
      obtain ⟨positive, ratio⟩ := ratioOf_spec m e
      have nonzero : ((ratioOf m e).2 : ℚ) ≠ 0 := by exact_mod_cast positive.ne'
      simp only [toInt?] at whole
      split at whole
      · next even =>
          have quotient : ((ratioOf m e).1 / (ratioOf m e).2 : Nat) = (m : ℚ) * 2 ^ e := by
            rw [← ratio, Nat.cast_div (Nat.dvd_of_mod_eq_zero even) nonzero]
          obtain rfl := Option.some.inj whole
          refine ⟨rfl, ?_⟩
          rw [cast_signed, quotient, value, mul_assoc]
      · cases whole

/-- The whole number that a double is has no more bits than the greatest double. -/
theorem natAbs_lt_of_toInt? {d : Double} (proper : d.Proper) {n : Int} (whole : d.toInt? = some n) :
    n.natAbs < 2 ^ 1024 := by
  cases d with
  | nan => cases whole
  | infinity => cases whole
  | finite negative m e =>
      obtain ⟨bits, -, high⟩ := proper
      have ratio : (ratioOf m e).1 < 2 ^ 1024 := by
        cases e with
        | ofNat k =>
            have bound : k ≤ 971 := Int.ofNat_le.mp high
            have power := pow_le_pow_right₀ (by decide : 1 ≤ 2) (by omega : 53 + k ≤ 1024)
            calc m <<< k = m * 2 ^ k := Nat.shiftLeft_eq m k
              _ < 2 ^ 53 * 2 ^ k := Nat.mul_lt_mul_of_pos_right bits (Nat.two_pow_pos k)
              _ = 2 ^ (53 + k) := (pow_add 2 53 k).symm
              _ ≤ 2 ^ 1024 := power
        | negSucc k => exact bits.trans (pow_lt_pow_right₀ (by decide : 1 < 2) (by decide : 53 < 1024))
      simp only [toInt?] at whole
      split at whole
      · have size : n.natAbs = (ratioOf m e).1 / (ratioOf m e).2 := by
          rw [← Option.some.inj whole, natAbs_signed]
        rw [size]
        exact (Nat.div_le_self _ _).trans_lt ratio
      · cases whole

/-- Bounds of a number between two powers of two. -/
theorem log2_bounds {n : Nat} (positive : 0 < n) : (2 : ℚ) ^ (n.log2 : Int) ≤ n ∧ (n : ℚ) < 2 ^ (n.log2 + 1 : Int) := by
  have low := Nat.log2_self_le positive.ne'
  have high := Nat.lt_log2_self (n := n)
  constructor
  · rw [zpow_natCast]
    exact_mod_cast low
  · exact_mod_cast high

theorem floorLog2_spec {num den : Nat} (num_pos : 0 < num) (den_pos : 0 < den) :
    (2 : ℚ) ^ floorLog2 num den ≤ num / den ∧ (num : ℚ) / den < 2 ^ (floorLog2 num den + 1) := by
  have two : (2 : ℚ) ≠ 0 := by norm_num
  have den_pos' : (0 : ℚ) < den := by exact_mod_cast den_pos
  obtain ⟨numLow, numHigh⟩ := log2_bounds num_pos
  obtain ⟨denLow, denHigh⟩ := log2_bounds den_pos
  obtain ⟨positive, ratio⟩ := scaleDown_spec num den_pos (num.log2 - den.log2)
  have high : (num : ℚ) / den < 2 ^ ((num.log2 : Int) - den.log2 + 1) := by
    rw [div_lt_iff₀ den_pos', show (num.log2 : Int) - den.log2 + 1 = (num.log2 + 1) - den.log2 by ring,
      zpow_sub₀ two, div_mul_eq_mul_div, lt_div_iff₀ (two_pow_pos _)]
    exact mul_lt_mul numHigh denLow (two_pow_pos _) (two_pow_pos _).le
  have low : (2 : ℚ) ^ ((num.log2 : Int) - den.log2 - 1) ≤ num / den := by
    rw [le_div_iff₀ den_pos', show (num.log2 : Int) - den.log2 - 1 = num.log2 - (den.log2 + 1) by ring,
      zpow_sub₀ two, div_mul_eq_mul_div, div_le_iff₀ (two_pow_pos _)]
    exact mul_le_mul numLow denHigh.le den_pos'.le (by positivity)
  have test : (scaleDown num den (num.log2 - den.log2)).2 ≤ (scaleDown num den (num.log2 - den.log2)).1 ↔
      (2 : ℚ) ^ ((num.log2 : Int) - den.log2) ≤ num / den := by
    have positive' : (0 : ℚ) < (scaleDown num den (num.log2 - den.log2)).2 := by exact_mod_cast positive
    rw [← one_le_div₀ (two_pow_pos _), ← ratio, one_le_div₀ positive', Nat.cast_le]
  simp only [floorLog2]
  split
  · next above => exact ⟨test.mp above, high⟩
  · next below => exact ⟨low, by rw [sub_add_cancel]; exact not_le.mp fun above => below (test.mpr above)⟩

/-! Rounding to whole numbers. -/

theorem roundQuotient_close (num : Nat) {den : Nat} (positive : 0 < den) :
    |(roundQuotient num den : ℚ) - num / den| ≤ 1 / 2 := by
  have positive' : (0 : ℚ) < den := by exact_mod_cast positive
  have quotient : (num : ℚ) / den = (num / den : Nat) + ((num % den : Nat) : ℚ) / den := by
    rw [div_eq_iff positive'.ne', add_mul, div_mul_cancel₀ _ positive'.ne', mul_comm]
    exact_mod_cast (Nat.div_add_mod num den).symm
  have bound : ((num % den : Nat) : ℚ) / den < 1 := by
    rw [div_lt_one positive']
    exact_mod_cast Nat.mod_lt num positive
  have low : (0 : ℚ) ≤ ((num % den : Nat) : ℚ) / den := by positivity
  rw [quotient, abs_le]
  unfold roundQuotient
  simp only
  split
  · next below =>
      have half : ((num % den : Nat) : ℚ) / den < 1 / 2 := by
        rw [div_lt_iff₀ positive']
        have : (2 * (num % den : Nat) : ℚ) < den := by exact_mod_cast below
        linarith
      constructor <;> linarith
  · split
    · next above =>
        have half : (1 : ℚ) / 2 < ((num % den : Nat) : ℚ) / den := by
          rw [lt_div_iff₀ positive']
          have : (den : ℚ) < 2 * (num % den : Nat) := by exact_mod_cast above
          linarith
        push_cast
        constructor <;> linarith
    · -- the quotient lies in the middle, and either neighbour is as near
      have half : ((num % den : Nat) : ℚ) / den = 1 / 2 := by
        rw [div_eq_iff positive'.ne']
        have : (2 * (num % den : Nat) : ℚ) = den := by
          exact_mod_cast (by omega : 2 * (num % den) = den)
        linarith
      rw [half]
      rcases Nat.mod_two_eq_zero_or_one (num / den) with even | odd
      · rw [even]
        constructor <;> norm_num
      · rw [odd]
        push_cast
        constructor <;> linarith

/-- What lies within a half of a number is a nearest whole number. -/
theorem nearest_of_close {x : ℚ} {m : Int} (close : |(m : ℚ) - x| ≤ 1 / 2) (k : Int) : |(m : ℚ) - x| ≤ |(k : ℚ) - x| := by
  rcases eq_or_ne k m with rfl | other
  · exact le_rfl
  · have apart : (1 : ℚ) ≤ |(k : ℚ) - m| := by
      rw [← Int.cast_sub, ← Int.cast_abs]
      exact_mod_cast Int.one_le_abs (sub_ne_zero.mpr other)
    have triangle : |(k : ℚ) - m| ≤ |(k : ℚ) - x| + |x - m| := abs_sub_le _ _ _
    rw [abs_sub_comm x] at triangle
    linarith

/-! Rounding to doubles. -/

/-- A grid that is fit for rounding a positive number: it takes at most 53 bits there, and either it is the finest
one or the number takes no fewer. -/
structure Grid (x : ℚ) (e : Int) : Prop where
  least : minExponent ≤ e
  above : x < 2 ^ 53 * 2 ^ e
  fine : e = minExponent ∨ 2 ^ 52 * 2 ^ e ≤ x

theorem grid_of_ratio {num den : Nat} (num_pos : 0 < num) (den_pos : 0 < den) :
    Grid ((num : ℚ) / den) (max (floorLog2 num den - 52) minExponent) := by
  have two : (2 : ℚ) ≠ 0 := by norm_num
  obtain ⟨low, high⟩ := floorLog2_spec num_pos den_pos
  refine ⟨le_max_right _ _, high.trans_le ?_, ?_⟩
  · rw [← zpow_natCast, ← zpow_add₀ two]
    refine zpow_le_zpow_right₀ (by norm_num) ?_
    have := le_max_left (floorLog2 num den - 52) minExponent
    push_cast
    omega
  · rcases max_choice (floorLog2 num den - 52) minExponent with same | same
    · rw [same]
      refine .inr (le_trans (le_of_eq ?_) low)
      rw [← zpow_natCast, ← zpow_add₀ two]
      congr 1
      push_cast
      omega
    · exact .inl same

/-- A multiple of a power of two with at most 53 bits lies on the grid, or it is smaller than what is rounded on the
grid can be. -/
theorem on_grid {z e' : Int} (bits : |z| < 2 ^ 53) (e : Int) :
    (∃ k : Int, (z : ℚ) * 2 ^ e' = k * 2 ^ e) ∨ e' < e ∧ |(z : ℚ) * 2 ^ e'| < 2 ^ 52 * 2 ^ e := by
  have two : (2 : ℚ) ≠ 0 := by norm_num
  rcases le_or_gt e e' with coarser | finer
  · refine .inl ⟨z * 2 ^ (e' - e).toNat, ?_⟩
    push_cast
    rw [mul_assoc, ← zpow_natCast, ← zpow_add₀ two]
    congr 2
    omega
  · refine .inr ⟨finer, ?_⟩
    have bits' : |(z : ℚ)| < 2 ^ 53 := by exact_mod_cast bits
    rw [abs_mul, abs_of_pos (two_pow_pos e')]
    calc |(z : ℚ)| * 2 ^ e' < 2 ^ 53 * 2 ^ e' := mul_lt_mul_of_pos_right bits' (two_pow_pos e')
      _ ≤ 2 ^ 53 * 2 ^ (e - 1) :=
          mul_le_mul_of_nonneg_left (zpow_le_zpow_right₀ (by norm_num) (by omega)) (by norm_num)
      _ = 2 ^ 52 * 2 ^ e := by rw [zpow_sub_one₀ two]; ring

/-- What is nearest on the grid is as near as any multiple of a power of two with at most 53 bits. -/
theorem Grid.nearest {x : ℚ} {e m : Int} (grid : Grid x e) (close : |(m : ℚ) - x / 2 ^ e| ≤ 1 / 2) {z e' : Int}
    (bits : |z| < 2 ^ 53) (least : minExponent ≤ e') : |(m : ℚ) * 2 ^ e - x| ≤ |(z : ℚ) * 2 ^ e' - x| := by
  have scaled : ∀ k : Int, |(k : ℚ) * 2 ^ e - x| = |(k : ℚ) - x / 2 ^ e| * 2 ^ e := by
    intro k
    have distance : (k : ℚ) * 2 ^ e - x = (k - x / 2 ^ e) * 2 ^ e := by
      rw [sub_mul, div_mul_cancel₀ _ (two_pow_pos e).ne']
    rw [distance, abs_mul, abs_of_pos (two_pow_pos e)]
  have onGrid : ∀ k : Int, |(m : ℚ) * 2 ^ e - x| ≤ |(k : ℚ) * 2 ^ e - x| := by
    intro k
    rw [scaled, scaled]
    exact mul_le_mul_of_nonneg_right (nearest_of_close close k) (two_pow_pos e).le
  rcases on_grid bits e with ⟨k, same⟩ | ⟨finer, small⟩
  · rw [same]
    exact onGrid k
  · -- the number is at least `2 ^ 52` on the grid, which lies between it and the other one
    have large : 2 ^ 52 * 2 ^ e ≤ x := grid.fine.resolve_left (by omega)
    have between := onGrid (2 ^ 52)
    rw [Int.cast_pow, Int.cast_ofNat] at between
    rw [abs_sub_comm (2 ^ 52 * 2 ^ e) x, abs_of_nonneg (sub_nonneg.mpr large)] at between
    have upper := (abs_lt.mp small).2
    have apart : 0 ≤ x - z * 2 ^ e' := by linarith
    rw [abs_sub_comm ((z : ℚ) * 2 ^ e') x, abs_of_nonneg apart]
    linarith

theorem Grid.bits {x : ℚ} {e : Int} {m : Nat} (grid : Grid x e) (close : |(m : ℚ) - x / 2 ^ e| ≤ 1 / 2) :
    m ≤ 2 ^ 53 := by
  have below : x / 2 ^ e < 2 ^ 53 := (div_lt_iff₀ (two_pow_pos e)).mpr grid.above
  have high := (abs_le.mp close).2
  have : (m : ℚ) < (2 ^ 53 + 1 : Nat) := by
    push_cast
    linarith
  exact Nat.lt_succ_iff.mp (by exact_mod_cast this)

/-- The double that a nearest whole number on the grid makes, if it is finite. -/
theorem nearest_of_grid {x : ℚ} {e : Int} {m : Nat} (negative : Bool) (grid : Grid x e)
    (close : |(m : ℚ) - x / 2 ^ e| ≤ 1 / 2) {d : Double} (finite : d.isFinite = true) (proper : d.Proper)
    (same : d.value = (if negative then -1 else 1) * (m * 2 ^ e)) :
    Nearest ((if negative then -1 else 1) * x) d := by
  refine ⟨finite, proper, fun other finite' proper' => ?_⟩
  cases other with
  | nan => cases finite'
  | infinity => cases finite'
  | finite negative' m' e' =>
      obtain ⟨bits, least, -⟩ := proper'
      -- both numbers are turned to the side of `x`
      have turned : ∀ sign : ℚ, |sign| = 1 → ∀ a b : ℚ, |sign * a - sign * b| = |a - b| := by
        intro sign unit a b
        rw [← mul_sub, abs_mul, unit, one_mul]
      have unit : |(if negative then -1 else 1 : ℚ)| = 1 := by cases negative <;> simp
      have square : (if negative then -1 else 1 : ℚ) * (if negative then -1 else 1) = 1 := by cases negative <;> norm_num
      rw [same, turned _ unit]
      rw [← turned _ unit (Double.value _), ← mul_assoc, square, one_mul, value]
      have bits' : |(if negative then -1 else 1 : Int) * ((if negative' then -1 else 1) * m')| < 2 ^ 53 := by
        cases negative <;> cases negative' <;> simp <;> omega
      have near := grid.nearest (m := m) (by exact_mod_cast close) bits' least
      push_cast at near
      simpa only [Int.cast_ite, Int.cast_neg, Int.cast_one, mul_assoc] using near

/-- Zero is nearest to what lies closer to it than half of the least positive double. -/
theorem nearest_zero {x : ℚ} (negative sign : Bool) (positive : 0 ≤ x) (small : 2 * x ≤ 2 ^ minExponent) :
    Nearest ((if sign then -1 else 1) * x) (zero negative) := by
  have size : |(if sign then -1 else 1 : ℚ) * x| = x := by
    cases sign <;> simp [abs_of_nonneg positive]
  have nothing : (zero negative).value = 0 := by simp [zero, value]
  refine ⟨rfl, ⟨by norm_num, le_rfl, by decide⟩, fun other finite proper => ?_⟩
  rw [nothing, zero_sub, abs_neg, size]
  cases other with
  | nan => cases finite
  | infinity => cases finite
  | finite negative' m e =>
      obtain ⟨-, least, -⟩ := proper
      rcases Nat.eq_zero_or_pos m with rfl | some
      · simp only [value, Nat.cast_zero, mul_zero, zero_mul, zero_sub, abs_neg, size, le_refl]
      · have least' : (2 : ℚ) ^ minExponent ≤ |value (.finite negative' m e)| := by
          have one : (1 : ℚ) ≤ m := by exact_mod_cast some
          have unit : |(if negative' then -1 else 1 : ℚ)| = 1 := by cases negative' <;> simp
          rw [value, abs_mul, abs_mul, unit, one_mul, abs_of_pos (two_pow_pos e), abs_of_nonneg (by linarith)]
          calc (2 : ℚ) ^ minExponent ≤ 2 ^ e := zpow_le_zpow_right₀ (by norm_num) least
            _ ≤ m * 2 ^ e := le_mul_of_one_le_left (two_pow_pos e).le one
        have triangle := abs_sub_abs_le_abs_sub (value (.finite negative' m e)) ((if sign then -1 else 1) * x)
        rw [size] at triangle
        linarith

/-- A quotient is rounded to a double nearest to it, if to a finite one. -/
theorem ofRatio_nearest {negative : Bool} {num den : Nat} (positive : 0 < den)
    (finite : (ofRatio negative num den).isFinite = true) :
    Nearest ((if negative then -1 else 1) * (num / den)) (ofRatio negative num den) := by
  unfold ofRatio at finite ⊢
  split at finite
  · next none =>
      rw [if_pos none, none, Nat.cast_zero, zero_div]
      exact nearest_zero _ _ le_rfl (by rw [mul_zero]; exact (two_pow_pos _).le)
  · next some =>
      rw [if_neg some]
      have grid := grid_of_ratio (Nat.pos_of_ne_zero some) positive
      revert finite
      simp only
      generalize max (floorLog2 num den - 52) minExponent = e at grid
      obtain ⟨scaled, ratio⟩ := scaleDown_spec num positive e
      have close := roundQuotient_close (scaleDown num den e).1 scaled
      rw [ratio] at close
      generalize roundQuotient (scaleDown num den e).1 (scaleDown num den e).2 = m at close
      intro finite
      split at finite
      · next bits =>
          split at finite
          · next high =>
              rw [if_pos bits, if_pos high]
              exact nearest_of_grid negative grid close rfl
                ⟨by simpa [Nat.shiftLeft_eq] using bits, grid.least, high⟩ (by rw [value, mul_assoc])
          · cases finite
      · next bits =>
          split at finite
          · next high =>
              rw [if_neg bits, if_pos high]
              refine nearest_of_grid negative grid close rfl
                ⟨by decide, grid.least.trans (by omega), high⟩ ?_
              -- rounding up took a bit more, so the mantissa is exactly `2 ^ 53`
              have carry : m = 2 ^ 53 := by
                have := grid.bits close
                have : 1 <<< 53 = 2 ^ 53 := by decide
                omega
              have doubled : ((1 <<< 52 : Nat) : ℚ) * 2 = (2 ^ 53 : Nat) := by norm_num [Nat.shiftLeft_eq]
              rw [value, carry, zpow_add_one₀ (by norm_num), ← doubled]
              ring
          · cases finite

theorem least_double_bound : (4 : ℚ) * 2 ^ 1074 ≤ 10 ^ 401 :=
  calc (4 : ℚ) * 2 ^ 1074 = 2 ^ (2 + 1074) := by rw [pow_add]; norm_num
    _ ≤ 2 ^ (3 * 359) := pow_le_pow_right₀ (by norm_num) (by norm_num)
    _ = (2 ^ 3) ^ 359 := pow_mul _ _ _
    _ ≤ 10 ^ 359 := pow_le_pow_left₀ (by norm_num) (by norm_num) _
    _ ≤ 10 ^ 401 := pow_le_pow_right₀ (by norm_num) (by norm_num)

/-- Decimal numbers far below the least positive double are nearest to zero. -/
theorem decimal_tiny {digits : Nat} {exponent : Int} (tiny : (digits.log2 : Int) + exponent < -400) :
    2 * ((digits : ℚ) * 10 ^ exponent) ≤ 2 ^ minExponent := by
  have ten : (10 : ℚ) ≠ 0 := by norm_num
  have bits : (digits : ℚ) ≤ 2 * 10 ^ (digits.log2 : Int) := by
    have high := Nat.lt_log2_self (n := digits)
    have wider : 2 ^ digits.log2 ≤ 10 ^ digits.log2 := Nat.pow_le_pow_left (by norm_num) _
    rw [zpow_natCast]
    exact_mod_cast (by rw [pow_succ] at high; omega : digits ≤ 2 * 10 ^ digits.log2)
  calc 2 * ((digits : ℚ) * 10 ^ exponent) ≤ 2 * (2 * 10 ^ (digits.log2 : Int) * 10 ^ exponent) := by
        have := mul_le_mul_of_nonneg_right bits (zpow_pos (by norm_num : (0 : ℚ) < 10) exponent).le
        linarith
    _ = 4 * 10 ^ ((digits.log2 : Int) + exponent) := by rw [zpow_add₀ ten]; ring
    _ ≤ 4 * 10 ^ (-401 : Int) := by
        have := zpow_le_zpow_right₀ (by norm_num : (1 : ℚ) ≤ 10) (by omega : (digits.log2 : Int) + exponent ≤ -401)
        linarith
    _ ≤ 2 ^ minExponent := by
        rw [show (-401 : Int) = -(401 : Nat) by rfl, show minExponent = -(1074 : Nat) by rfl, zpow_neg, zpow_neg,
          zpow_natCast, zpow_natCast, ← div_eq_mul_inv, ← one_div, div_le_div_iff₀ (by positivity) (by positivity),
          one_mul]
        exact least_double_bound

/-- A decimal number is rounded to a double nearest to it, if to a finite one. -/
theorem ofDecimal_nearest {negative : Bool} {digits : Nat} {exponent : Int}
    (finite : (ofDecimal negative digits exponent).isFinite = true) :
    Nearest (signed negative digits * 10 ^ exponent) (ofDecimal negative digits exponent) := by
  rw [cast_signed, mul_assoc]
  unfold ofDecimal at finite ⊢
  split at finite
  · next none =>
      rw [if_pos none, none, Nat.cast_zero, zero_mul]
      exact nearest_zero _ _ le_rfl (by rw [mul_zero]; exact (two_pow_pos _).le)
  · next some =>
      rw [if_neg some]
      revert finite
      simp only
      intro finite
      split at finite
      · cases finite
      · next low =>
          rw [if_neg low]
          split at finite
          · next tiny =>
              rw [if_pos tiny]
              exact nearest_zero _ _ (by positivity) (decimal_tiny tiny)
          · next high =>
              rw [if_neg high]
              cases exponent with
              | ofNat n =>
                  have nearest := ofRatio_nearest Nat.one_pos finite
                  simpa [powerOfTen] using nearest
              | negSucc n =>
                  have nearest := ofRatio_nearest (by simp [powerOfTen]) finite
                  simpa [powerOfTen, zpow_negSucc, div_eq_mul_inv] using nearest

end SchemaAlgebra.Double
