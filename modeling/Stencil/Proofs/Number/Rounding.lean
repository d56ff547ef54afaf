import Mathlib.Algebra.Order.Field.Power
import Mathlib.Data.Rat.Cast.Order
import Mathlib.Tactic.FieldSimp
import Mathlib.Tactic.Linarith
import Mathlib.Tactic.NormNum
import Mathlib.Tactic.Positivity
import Mathlib.Tactic.Ring
import Stencil.Number.Binary64

/-!
# Rounding to floating-point numbers

`Binary64.ofFraction` depends on the value of its fraction only (`Binary64.ofFraction_mul`), and it gives every
number back whose value is close to that of the fraction (`Binary64.ofFraction_of_near`): a relative
distance below `2 ^ -54` is less than half the distance to the next number, also just above a power of two,
where the numbers below lie twice as close.
-/

namespace Stencil

/-- The exact value of a magnitude. -/
def Magnitude.value (m : Magnitude) : ℚ :=
  m.mantissa * 2 ^ m.exponent

namespace Magnitude

theorem parts_bounds (m : Magnitude) : m.mantissa < 2 ^ 53 ∧ -1074 ≤ m.exponent ∧ m.exponent ≤ 971 := by
  rcases m.canonical with ⟨small, least⟩ | ⟨-, small, least, greatest⟩
  · exact ⟨small.trans (by decide), least.ge, least.trans_le (by decide)⟩
  · exact ⟨small, least, greatest⟩

theorem value_nonneg (m : Magnitude) : 0 ≤ m.value :=
  mul_nonneg (Nat.cast_nonneg _) (zpow_nonneg (by norm_num) _)

theorem value_lt (m : Magnitude) : m.value < 2 ^ (1024 : Int) := by
  have power : (0 : ℚ) < 2 ^ m.exponent := zpow_pos (by norm_num) _
  obtain ⟨small, -, greatest⟩ := m.parts_bounds
  have small : (m.mantissa : ℚ) < 2 ^ (53 : Int) := by exact_mod_cast small
  calc (m.mantissa : ℚ) * 2 ^ m.exponent < 2 ^ (53 : Int) * 2 ^ m.exponent := by gcongr
    _ = 2 ^ (53 + m.exponent) := (zpow_add₀ (by norm_num) _ _).symm
    _ ≤ 2 ^ (1024 : Int) := zpow_le_zpow_right₀ (by norm_num) (by omega)

end Magnitude

/-! ## Scaling by powers of two -/

theorem den_scaleFraction_pos {num den : Nat} (positive : 0 < den) (shift : Int) :
    0 < (scaleFraction num den shift).2 := by
  unfold scaleFraction
  split
  · exact positive
  · exact Nat.mul_pos positive (Nat.pow_pos (by decide))

theorem scaleFraction_value (num : Nat) {den : Nat} (positive : 0 < den) (shift : Int) :
    ((scaleFraction num den shift).1 : ℚ) / (scaleFraction num den shift).2 = num / den * 2 ^ shift := by
  have nonzero : (den : ℚ) ≠ 0 := by exact_mod_cast positive.ne'
  unfold scaleFraction
  split
  · next up =>
    obtain ⟨n, rfl⟩ := Int.eq_ofNat_of_zero_le up
    rw [Int.toNat_natCast, Nat.pow_eq, zpow_natCast]
    push_cast
    field_simp
  · next down =>
    obtain ⟨n, negated⟩ := Int.eq_ofNat_of_zero_le (show 0 ≤ -shift by omega)
    rw [negated, show shift = -(n : Int) by omega, zpow_neg, zpow_natCast, Int.toNat_natCast, Nat.pow_eq]
    push_cast
    field_simp

theorem scaleFraction_mul (c num den : Nat) (shift : Int) :
    scaleFraction (c * num) (c * den) shift
      = (c * (scaleFraction num den shift).1, c * (scaleFraction num den shift).2) := by
  unfold scaleFraction
  split
  · rw [Nat.mul_assoc]
  · rw [Nat.mul_assoc]

theorem fraction_value (m : Magnitude) :
    ((Binary64.fraction m).1 : ℚ) / (Binary64.fraction m).2 = m.value := by
  rw [Binary64.fraction, scaleFraction_value _ (by decide), Magnitude.value]
  simp

theorem den_fraction_pos (m : Magnitude) : 0 < (Binary64.fraction m).2 :=
  den_scaleFraction_pos (by decide) _

/-! ## The nearest natural number -/

theorem divRoundEven_mul {c : Nat} (positive : 0 < c) (num den : Nat) :
    divRoundEven (c * num) (c * den) = divRoundEven num den := by
  unfold divRoundEven
  dsimp only
  rw [Nat.mul_div_mul_left _ _ positive, Nat.mul_mod_mul_left]
  have below : 2 * (c * (num % den)) < c * den ↔ 2 * (num % den) < den := by
    rw [show 2 * (c * (num % den)) = c * (2 * (num % den)) by ring]
    exact Nat.mul_lt_mul_left positive
  have above : c * den < 2 * (c * (num % den)) ↔ den < 2 * (num % den) := by
    rw [show 2 * (c * (num % den)) = c * (2 * (num % den)) by ring]
    exact Nat.mul_lt_mul_left positive
  simp only [below, above]

/-- A fraction that is closer than one half to a natural number is rounded to it. -/
theorem divRoundEven_of_near {num den n : Nat} (positive : 0 < den) (above : 2 * (n * den) < 2 * num + den)
    (below : 2 * num < 2 * (n * den) + den) : divRoundEven num den = n := by
  unfold divRoundEven
  dsimp only
  by_cases enough : n * den ≤ num
  · have quotient : num / den = n := by
      refine Nat.div_eq_of_lt_le enough ?_
      rw [Nat.succ_mul]
      omega
    have rest : num % den = num - n * den := by
      rw [Nat.mod_eq_sub_mul_div, quotient, Nat.mul_comm]
    rw [quotient, rest, if_pos (by omega)]
  · obtain ⟨k, rfl⟩ : ∃ k, n = k + 1 := by
      refine ⟨n - 1, ?_⟩
      have : n ≠ 0 := by
        rintro rfl
        omega
      omega
    rw [Nat.add_mul, Nat.one_mul] at above below enough
    have quotient : num / den = k := by
      refine Nat.div_eq_of_lt_le (by omega) ?_
      rw [Nat.succ_mul]
      omega
    have rest : num % den = num - k * den := by
      rw [Nat.mod_eq_sub_mul_div, quotient, Nat.mul_comm]
    rw [quotient, rest, if_neg (by omega), if_pos (by omega)]

theorem divRoundEven_of_near_value {num den n : Nat} (positive : 0 < den)
    (near : |(num : ℚ) / den - n| < 1 / 2) : divRoundEven num den = n := by
  have den_pos : (0 : ℚ) < den := by exact_mod_cast positive
  obtain ⟨above, below⟩ := abs_lt.1 near
  have above : ((n : ℚ) - 1 / 2) * den < num := by
    rw [← lt_div_iff₀ den_pos]
    linarith
  have below : (num : ℚ) < (n + 1 / 2) * den := by
    rw [← div_lt_iff₀ den_pos]
    linarith
  refine divRoundEven_of_near positive ?_ ?_
  · have : 2 * ((n : ℚ) * den) < 2 * num + den := by linarith
    exact_mod_cast this
  · have : 2 * (num : ℚ) < 2 * (n * den) + den := by linarith
    exact_mod_cast this

/-! ## The exponent -/

namespace Binary64

theorem log2_bounds {n : Nat} (nonzero : n ≠ 0) : (2 : ℚ) ^ n.log2 ≤ n ∧ (n : ℚ) < 2 * 2 ^ n.log2 := by
  constructor
  · exact_mod_cast Nat.log2_self_le nonzero
  · have := Nat.lt_log2_self (n := n)
    rw [Nat.pow_succ, Nat.mul_comm] at this
    exact_mod_cast this

/-- The logarithms of its two parts tell the size of a fraction up to a factor of two. -/
theorem log2_sub_bounds {num den : Nat} (nonzero : num ≠ 0) (positive : 0 < den) :
    (2 : ℚ) ^ ((num.log2 : Int) - den.log2 - 1) ≤ num / den ∧
      (num : ℚ) / den < 2 ^ ((num.log2 : Int) - den.log2 + 1) := by
  obtain ⟨num_lower, num_upper⟩ := log2_bounds nonzero
  obtain ⟨den_lower, den_upper⟩ := log2_bounds positive.ne'
  have den_pos : (0 : ℚ) < den := by exact_mod_cast positive
  have two : (2 : ℚ) ≠ 0 := by norm_num
  constructor
  · rw [le_div_iff₀ den_pos, zpow_sub₀ two, zpow_sub₀ two, zpow_natCast, zpow_natCast, zpow_one]
    calc (2 : ℚ) ^ num.log2 / 2 ^ den.log2 / 2 * den
        ≤ 2 ^ num.log2 / 2 ^ den.log2 / 2 * (2 * 2 ^ den.log2) := by gcongr
      _ = 2 ^ num.log2 := by field_simp
      _ ≤ num := num_lower
  · rw [div_lt_iff₀ den_pos, zpow_add₀ two, zpow_sub₀ two, zpow_natCast, zpow_natCast, zpow_one]
    calc (num : ℚ) < 2 * 2 ^ num.log2 := num_upper
      _ = 2 ^ num.log2 / 2 ^ den.log2 * 2 * 2 ^ den.log2 := by field_simp
      _ ≤ 2 ^ num.log2 / 2 ^ den.log2 * 2 * den := by gcongr

/-- The exponent of the highest power of two not above a fraction. -/
theorem floorLog_bounds {num den : Nat} (nonzero : num ≠ 0) (positive : 0 < den) :
    (2 : ℚ) ^ floorLog num den ≤ num / den ∧ (num : ℚ) / den < 2 ^ (floorLog num den + 1) := by
  obtain ⟨lower, upper⟩ := log2_sub_bounds nonzero positive
  have scaled := scaleFraction_value num positive (-((num.log2 : Int) - den.log2))
  have unit_pos : (0 : ℚ) < (scaleFraction num den (-((num.log2 : Int) - den.log2))).2 := by
    exact_mod_cast den_scaleFraction_pos positive _
  have power : (0 : ℚ) < 2 ^ ((num.log2 : Int) - den.log2) := zpow_pos (by norm_num) _
  rw [zpow_neg, ← div_eq_mul_inv] at scaled
  unfold floorLog
  dsimp only
  split
  · next enough =>
    refine ⟨?_, upper⟩
    have : (1 : ℚ) ≤ num / den / 2 ^ ((num.log2 : Int) - den.log2) := by
      rw [← scaled, le_div_iff₀ unit_pos, one_mul]
      exact_mod_cast enough
    rwa [le_div_iff₀ power, one_mul] at this
  · next less =>
    refine ⟨lower, ?_⟩
    have : (num : ℚ) / den / 2 ^ ((num.log2 : Int) - den.log2) < 1 := by
      rw [← scaled, div_lt_iff₀ unit_pos, one_mul]
      exact_mod_cast not_le.1 less
    rw [div_lt_iff₀ power, one_mul] at this
    rwa [sub_add_cancel]

theorem floorLog_eq {num den : Nat} {e : Int} (nonzero : num ≠ 0) (positive : 0 < den)
    (lower : (2 : ℚ) ^ e ≤ num / den) (upper : (num : ℚ) / den < 2 ^ (e + 1)) : floorLog num den = e := by
  obtain ⟨lower', upper'⟩ := floorLog_bounds nonzero positive
  have one : (1 : ℚ) < 2 := by norm_num
  have := (zpow_lt_zpow_iff_right₀ one).1 (lower.trans_lt upper')
  have := (zpow_lt_zpow_iff_right₀ one).1 (lower'.trans_lt upper)
  omega

theorem floorLog_mul {c num den : Nat} (c_pos : 0 < c) (nonzero : num ≠ 0) (positive : 0 < den) :
    floorLog (c * num) (c * den) = floorLog num den := by
  obtain ⟨lower, upper⟩ := floorLog_bounds nonzero positive
  have same : ((c * num : Nat) : ℚ) / (c * den : Nat) = num / den := by
    push_cast
    exact mul_div_mul_left _ _ (by exact_mod_cast c_pos.ne')
  exact floorLog_eq (Nat.mul_ne_zero c_pos.ne' nonzero) (Nat.mul_pos c_pos positive) (same ▸ lower) (same ▸ upper)

/-! ## The nearest number -/

/-- The nearest number depends on the value of the fraction only. -/
theorem ofFraction_mul {c den : Nat} (c_pos : 0 < c) (positive : 0 < den) (negative : Bool) (num : Nat) :
    ofFraction negative (c * num) (c * den) = ofFraction negative num den := by
  by_cases zero : num = 0
  · rw [zero, Nat.mul_zero, ofFraction, if_pos rfl, ofFraction, if_pos rfl]
  · unfold ofFraction
    rw [if_neg (Nat.mul_ne_zero c_pos.ne' zero), if_neg zero, floorLog_mul c_pos zero positive]
    dsimp only
    rw [scaleFraction_mul]
    simp only [divRoundEven_mul c_pos]

/-- Two fractions of the same value have the same nearest number. -/
theorem ofFraction_congr {num den num' den' : Nat} (positive : 0 < den) (positive' : 0 < den')
    (same : (num : ℚ) / den = num' / den') (negative : Bool) :
    ofFraction negative num den = ofFraction negative num' den' := by
  have crossed : den' * num = den * num' := by
    rw [div_eq_div_iff (by exact_mod_cast positive.ne') (by exact_mod_cast positive'.ne'), mul_comm,
      mul_comm (num' : ℚ)] at same
    exact_mod_cast same
  calc ofFraction negative num den = ofFraction negative (den' * num) (den' * den) :=
        (ofFraction_mul positive' positive negative num).symm
    _ = ofFraction negative (den * num') (den * den') := by rw [crossed, Nat.mul_comm den']
    _ = ofFraction negative num' den' := ofFraction_mul positive positive' negative num'

/-- How the nearest number is found: the fraction is rounded to a multiple of a power of two that leaves it 53
digits, and a carry moves the power up. -/
theorem ofFraction_eq {num den n : Nat} {e : Int} (negative : Bool) (nonzero : num ≠ 0) (positive : 0 < den)
    (exponent : max (floorLog num den - 52) (-1074) = e) (near : |(num : ℚ) / den * 2 ^ (-e) - n| < 1 / 2)
    (m : Magnitude) (is : if n = Nat.pow 2 53 then m.mantissa = Nat.pow 2 52 ∧ m.exponent = e + 1
      else m.mantissa = n ∧ m.exponent = e) :
    ofFraction negative num den = .finite negative m := by
  have rounded : divRoundEven (scaleFraction num den (-e)).1 (scaleFraction num den (-e)).2 = n := by
    refine divRoundEven_of_near_value (den_scaleFraction_pos positive _) ?_
    rwa [scaleFraction_value _ positive]
  obtain ⟨mantissa, exponent', canonical⟩ := m
  unfold ofFraction
  rw [if_neg nonzero, exponent]
  dsimp only
  rw [rounded]
  split
  · next carry =>
    rw [if_pos carry] at is
    obtain ⟨rfl, rfl⟩ := is
    rw [dif_pos canonical]
  · next kept =>
    rw [if_neg kept] at is
    obtain ⟨rfl, rfl⟩ := is
    rw [dif_pos canonical]

theorem floorLog_scaled {num den : Nat} {e : Int} {k : Nat} (nonzero : num ≠ 0) (positive : 0 < den)
    (lower : (2 : ℚ) ^ k ≤ num / den * 2 ^ (-e)) (upper : (num : ℚ) / den * 2 ^ (-e) < 2 ^ (k + 1)) :
    floorLog num den = k + e := by
  have power : (0 : ℚ) < 2 ^ e := zpow_pos (by norm_num) _
  have two : (2 : ℚ) ≠ 0 := by norm_num
  rw [zpow_neg, ← div_eq_mul_inv, le_div_iff₀ power, ← zpow_natCast, ← zpow_add₀ two] at lower
  rw [zpow_neg, ← div_eq_mul_inv, div_lt_iff₀ power, ← zpow_natCast, ← zpow_add₀ two] at upper
  refine floorLog_eq nonzero positive lower ?_
  rwa [show (k : Int) + e + 1 = (k + 1 : Nat) + e by push_cast; ring]

/-- Nearness to a number, in units of the last digit of its mantissa. -/
theorem near_mantissa {q : ℚ} {m : Magnitude} (near : |q - m.value| < m.value / 2 ^ 54) :
    |q * 2 ^ (-m.exponent) - m.mantissa| < m.mantissa / 2 ^ 54 := by
  have power : (0 : ℚ) < 2 ^ (-m.exponent) := zpow_pos (by norm_num) _
  have unit : m.value * 2 ^ (-m.exponent) = m.mantissa := by
    rw [Magnitude.value, mul_assoc, ← zpow_add₀ (by norm_num), Int.add_right_neg, zpow_zero, mul_one]
  calc |q * 2 ^ (-m.exponent) - m.mantissa| = |q - m.value| * 2 ^ (-m.exponent) := by
        rw [← unit, ← sub_mul, abs_mul, abs_of_pos power]
    _ < m.value / 2 ^ 54 * 2 ^ (-m.exponent) := by gcongr
    _ = m.mantissa / 2 ^ 54 := by rw [← unit]; ring

section Near

variable {num den : Nat} {m : Magnitude} (negative : Bool) (nonzero : num ≠ 0) (positive : 0 < den)
  (near : |(num : ℚ) / den * 2 ^ (-m.exponent) - m.mantissa| < m.mantissa / 2 ^ 54)

include nonzero positive near

/-- Where the fraction has the exponent of the number, its mantissa is rounded to that of the number. -/
theorem ofFraction_of_exponent (exponent : max (floorLog num den - 52) (-1074) = m.exponent) :
    ofFraction negative num den = .finite negative m := by
  have small : m.mantissa < Nat.pow 2 53 := m.parts_bounds.1
  refine ofFraction_eq negative nonzero positive exponent (n := m.mantissa) (near.trans ?_) m ?_
  · have : (m.mantissa : ℚ) < 2 ^ 53 := by exact_mod_cast small
    linarith
  · rw [if_neg small.ne]
    exact ⟨rfl, rfl⟩

/-- Just below a power of two the exponent is less by one, and the fraction is rounded up to the power. -/
theorem ofFraction_of_lt_power (many : Nat.pow 2 52 ≤ m.mantissa) (enough : -1074 < m.exponent)
    (below : (num : ℚ) / den * 2 ^ (-m.exponent) < 2 ^ 52) : ofFraction negative num den = .finite negative m := by
  obtain ⟨x, scaled⟩ : ∃ x, (num : ℚ) / den * 2 ^ (-m.exponent) = x := ⟨_, rfl⟩
  rw [scaled] at near below
  obtain ⟨lower, -⟩ := abs_lt.1 near
  have power_of_two : m.mantissa = 2 ^ 52 := by
    have : (m.mantissa : ℚ) < 2 ^ 52 + 1 := by linarith
    have : m.mantissa < 2 ^ 52 + 1 := by exact_mod_cast this
    have : 2 ^ 52 ≤ m.mantissa := many
    omega
  have power_of_two' : (m.mantissa : ℚ) = 2 ^ 52 := by exact_mod_cast power_of_two
  have exponent : floorLog num den = (51 : Nat) + m.exponent := by
    refine floorLog_scaled nonzero positive ?_ ?_
    · rw [scaled]
      linarith
    · rw [scaled]
      exact below
  refine ofFraction_eq negative nonzero positive (e := m.exponent - 1) (n := Nat.pow 2 53) (by omega) ?_ m ?_
  · have twice : (num : ℚ) / den * 2 ^ (-(m.exponent - 1)) = 2 * x := by
      rw [neg_sub, sub_eq_neg_add, zpow_add₀ (by norm_num), ← mul_assoc, scaled, zpow_one, mul_comm]
    rw [twice, Nat.pow_eq, abs_lt]
    push_cast
    constructor <;> linarith
  · rw [if_pos rfl]
    exact ⟨power_of_two, by omega⟩

end Near

/-- A fraction that is closer to a number than a part of `2 ^ 54` of it is rounded to that number. -/
theorem ofFraction_of_near {num den : Nat} (negative : Bool) (positive : 0 < den) (m : Magnitude)
    (nonzero : m.mantissa ≠ 0) (near : |(num : ℚ) / den - m.value| < m.value / 2 ^ 54) :
    ofFraction negative num den = .finite negative m := by
  replace near := near_mantissa near
  have mantissa_pos : (1 : ℚ) ≤ m.mantissa := by exact_mod_cast Nat.pos_of_ne_zero nonzero
  have mantissa_le : (m.mantissa : ℚ) ≤ 2 ^ 53 - 1 := by
    have : m.mantissa + 1 ≤ 2 ^ 53 := m.parts_bounds.1
    rw [le_sub_iff_add_le]
    exact_mod_cast this
  obtain ⟨above, below⟩ := abs_lt.1 near
  have num_nonzero : num ≠ 0 := by
    rintro rfl
    rw [Nat.cast_zero, zero_div, zero_mul] at above
    linarith
  have upper : floorLog num den ≤ 52 + m.exponent := by
    by_contra more
    have : (2 : ℚ) ^ (53 + m.exponent) ≤ num / den :=
      (zpow_le_zpow_right₀ (by norm_num) (by omega)).trans (floorLog_bounds num_nonzero positive).1
    rw [zpow_add₀ (by norm_num), ← le_div_iff₀ (zpow_pos (by norm_num) _), div_eq_mul_inv, ← zpow_neg] at this
    linarith
  have same := ofFraction_of_exponent negative num_nonzero positive near
  rcases m.canonical with ⟨-, least⟩ | ⟨many, -, enough, -⟩
  · exact same (by omega)
  · by_cases least : m.exponent = -1074
    · exact same (by omega)
    by_cases binade : (2 : ℚ) ^ 52 ≤ (num : ℚ) / den * 2 ^ (-m.exponent)
    · have : floorLog num den = (52 : Nat) + m.exponent := by
        refine floorLog_scaled num_nonzero positive binade ?_
        rw [pow_succ]
        linarith
      exact same (by omega)
    · exact ofFraction_of_lt_power negative num_nonzero positive near many (by omega) (not_le.1 binade)

end Binary64

end Stencil
