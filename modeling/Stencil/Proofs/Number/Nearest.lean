import Mathlib.Algebra.Order.Floor.Semifield
import Mathlib.Data.Rat.Floor
import Stencil.Number.Numeral
import Stencil.Proofs.Number.Shortest

/-!
# The nearest integer

Every rational number has one nearest integer, where of two equally near ones the one farther from zero counts
(`existsUnique_isNearest`). Going there commutes with a change of sign and keeps the order. `Numeral.round?` finds it,
if it has no more digits than rounding works with (`Numeral.round?_eq_some_iff`).
-/

namespace Stencil

/-- Is `r` the integer nearest to `q`, or of the two equally near ones the one farther from zero? -/
def IsNearest (q : ℚ) (r : ℤ) : Prop :=
  |r - q| < 1 / 2 ∨ |r - q| = 1 / 2 ∧ |q| < |(r : ℚ)|

theorem isNearest_neg {q : ℚ} {r : ℤ} : IsNearest (-q) (-r) ↔ IsNearest q r := by
  have distance : |((-r : ℤ) : ℚ) - -q| = |r - q| := by
    rw [← abs_neg]
    congr 1
    push_cast
    ring
  unfold IsNearest
  rw [distance, Int.cast_neg, abs_neg, abs_neg]

/-- The integer nearest to a number that is not negative is found by dropping the fraction of the number half a unit
above it. -/
theorem isNearest_iff_of_nonneg {q : ℚ} (nonneg : 0 ≤ q) {r : ℤ} : IsNearest q r ↔ r = ⌊q + 1 / 2⌋ := by
  rw [eq_comm, Int.floor_eq_iff]
  constructor
  · rintro (near | ⟨tie, beyond⟩)
    · obtain ⟨lower, upper⟩ := abs_lt.1 near
      constructor <;> linarith
    · rcases abs_eq (by norm_num : (0 : ℚ) ≤ 1 / 2) |>.1 tie with above | below
      · constructor <;> linarith
      · -- half a unit below `q`, `r` is farther from zero only if it lies strictly between `-1` and `0`
        exfalso
        have negative : r < 0 := by
          by_contra nonneg'
          have : (0 : ℚ) ≤ r := by exact_mod_cast not_lt.1 nonneg'
          rw [abs_of_nonneg nonneg, abs_of_nonneg this] at beyond
          linarith
        have : (r : ℚ) ≤ -1 := by exact_mod_cast Int.le_sub_one_of_lt negative
        linarith
  · rintro ⟨lower, upper⟩
    rcases lower.lt_or_eq with less | same
    · exact .inl (abs_lt.2 ⟨by linarith, by linarith⟩)
    · have distance : (r : ℚ) - q = 1 / 2 := by linarith
      have above : (0 : ℚ) ≤ r := by linarith
      refine .inr ⟨by rw [distance]; norm_num, ?_⟩
      rw [abs_of_nonneg nonneg, abs_of_nonneg above]
      linarith

theorem isNearest_iff_of_neg {q : ℚ} (negative : q < 0) {r : ℤ} : IsNearest q r ↔ r = -⌊-q + 1 / 2⌋ := by
  rw [← isNearest_neg, isNearest_iff_of_nonneg (by linarith)]
  omega

/-- Every number has one nearest integer. -/
theorem existsUnique_isNearest (q : ℚ) : ∃! r, IsNearest q r := by
  rcases lt_or_ge q 0 with negative | nonneg
  · exact ⟨_, (isNearest_iff_of_neg negative).2 rfl, fun r => (isNearest_iff_of_neg negative).1⟩
  · exact ⟨_, (isNearest_iff_of_nonneg nonneg).2 rfl, fun r => (isNearest_iff_of_nonneg nonneg).1⟩

/-- An integer is nearest to itself. -/
theorem isNearest_intCast_iff {i r : ℤ} : IsNearest i r ↔ r = i := by
  have itself : IsNearest i i := .inl (by norm_num)
  constructor
  · exact fun nearest => (existsUnique_isNearest i).unique nearest itself
  · rintro rfl
    exact itself

/-- The nearest integers of two numbers are in the order of the numbers. -/
theorem IsNearest.mono {p q : ℚ} {m n : ℤ} (hp : IsNearest p m) (hq : IsNearest q n) (le : p ≤ q) : m ≤ n := by
  rcases lt_or_ge p 0 with below | above
  · rw [isNearest_iff_of_neg below] at hp
    rcases lt_or_ge q 0 with below' | above'
    · rw [isNearest_iff_of_neg below'] at hq
      rw [hp, hq]
      exact neg_le_neg (Int.floor_mono (by linarith))
    · rw [isNearest_iff_of_nonneg above'] at hq
      have left : 0 ≤ ⌊-p + 1 / 2⌋ := Int.floor_nonneg.2 (by linarith)
      have right : 0 ≤ ⌊q + 1 / 2⌋ := Int.floor_nonneg.2 (by linarith)
      omega
  · rw [isNearest_iff_of_nonneg above] at hp
    rw [isNearest_iff_of_nonneg (above.trans le)] at hq
    rw [hp, hq]
    exact Int.floor_mono (by linarith)

namespace Numeral

/-- The number that a numeral denotes. -/
def amount (negative : Bool) (digits : Nat) (exponent : Int) : ℚ :=
  if negative then -(⟨digits, exponent⟩ : Scientific).value else (⟨digits, exponent⟩ : Scientific).value

theorem divRoundUp_eq_floor (num : Nat) {den : Nat} (positive : 0 < den) :
    divRoundUp num den = ⌊(num : ℚ) / den + 1 / 2⌋₊ := by
  have half : (num : ℚ) / den + 1 / 2 = ((2 * num + den : Nat) : ℚ) / (2 * den : Nat) := by
    have : (den : ℚ) ≠ 0 := by exact_mod_cast positive.ne'
    push_cast
    field_simp
  rw [half, Nat.floor_div_eq_div]
  rfl

/-- Digits at their place, rounded half upwards. -/
theorem placed_eq_floor (digits : Nat) (exponent : Int) :
    (if 0 ≤ exponent then digits * Nat.pow 10 exponent.toNat else divRoundUp digits (Nat.pow 10 (-exponent).toNat))
      = ⌊(⟨digits, exponent⟩ : Scientific).value + 1 / 2⌋₊ := by
  split
  · next whole =>
    obtain ⟨n, rfl⟩ := Int.eq_ofNat_of_zero_le whole
    have value : (⟨digits, (n : Int)⟩ : Scientific).value = ((digits * 10 ^ n : Nat) : ℚ) := by
      rw [Scientific.value, zpow_natCast]
      push_cast
      rfl
    rw [value, Int.toNat_natCast, eq_comm, Nat.floor_eq_iff (by positivity)]
    have power : Nat.pow 10 n = 10 ^ n := rfl
    constructor <;> rw [power] <;> linarith
  · next fractional =>
    obtain ⟨n, same⟩ := Int.eq_ofNat_of_zero_le (show 0 ≤ -exponent by omega)
    have value : (⟨digits, exponent⟩ : Scientific).value = (digits : ℚ) / (10 ^ n : Nat) := by
      rw [Scientific.value, show exponent = -(n : Int) by omega, zpow_neg, zpow_natCast, div_eq_mul_inv]
      push_cast
      rfl
    rw [same, Int.toNat_natCast, value]
    exact divRoundUp_eq_floor digits (Nat.pow_pos (by decide))

/-- A magnitude is rounded half upwards, unless the result has too many digits. -/
theorem roundMagnitude?_eq (digits : Nat) (exponent : Int) :
    roundMagnitude? digits exponent =
      if ⌊(⟨digits, exponent⟩ : Scientific).value + 1 / 2⌋₊ < 10 ^ precision
      then some ⌊(⟨digits, exponent⟩ : Scientific).value + 1 / 2⌋₊ else none := by
  unfold roundMagnitude?
  by_cases zero : digits = 0
  · have nothing : (⟨digits, exponent⟩ : Scientific).value = 0 := Scientific.value_eq_zero.2 zero
    have floor : ⌊(0 : ℚ) + 1 / 2⌋₊ = 0 := Nat.floor_eq_zero.2 (by norm_num)
    rw [if_pos zero, nothing, floor]
    rfl
  rw [if_neg zero]
  obtain ⟨lower, upper⟩ := Scientific.size_bounds (s := ⟨digits, exponent⟩) zero
  have size : (digitCount digits + exponent : Int) = (⟨digits, exponent⟩ : Scientific).size := rfl
  dsimp only
  rw [size]
  generalize sized : (⟨digits, exponent⟩ : Scientific).size = size at lower upper
  by_cases long : (precision : Int) < size
  · have large : (10 ^ precision : Nat) ≤ ⌊(⟨digits, exponent⟩ : Scientific).value + 1 / 2⌋₊ := by
      apply Nat.le_floor
      calc ((10 ^ precision : Nat) : ℚ) = 10 ^ (precision : Int) := by push_cast; rw [zpow_natCast]
        _ ≤ 10 ^ (size - 1) := zpow_le_zpow_right₀ (by norm_num) (by omega)
        _ ≤ (⟨digits, exponent⟩ : Scientific).value := lower
        _ ≤ (⟨digits, exponent⟩ : Scientific).value + 1 / 2 := by linarith
    rw [if_pos long, if_neg (not_lt.2 large)]
  rw [if_neg long]
  by_cases small : size < 0
  · have below : (⟨digits, exponent⟩ : Scientific).value + 1 / 2 < 1 := by
      have tenth : (10 : ℚ) ^ size ≤ 10 ^ (-1 : Int) := zpow_le_zpow_right₀ (by norm_num) (by omega)
      norm_num at tenth
      linarith
    rw [if_pos small, Nat.floor_eq_zero.2 below]
    rfl
  rw [if_neg small]
  rw [placed_eq_floor]
  rfl

/-- Rounding gives the nearest integer exactly if this has no more digits than rounding works with. -/
theorem round?_eq_some_iff {negative : Bool} {digits : Nat} {exponent : Int} {r : ℤ} :
    round? negative digits exponent = some r
      ↔ IsNearest (amount negative digits exponent) r ∧ |r| < 10 ^ precision := by
  have nonneg : 0 ≤ (⟨digits, exponent⟩ : Scientific).value := by
    rw [Scientific.value]
    positivity
  have floor : ⌊(⟨digits, exponent⟩ : Scientific).value + 1 / 2⌋
      = (⌊(⟨digits, exponent⟩ : Scientific).value + 1 / 2⌋₊ : ℤ) :=
    (Int.natCast_floor_eq_floor (by linarith)).symm
  have nearest : IsNearest (amount negative digits exponent) r
      ↔ r = if negative then -(⌊(⟨digits, exponent⟩ : Scientific).value + 1 / 2⌋₊ : ℤ)
        else ⌊(⟨digits, exponent⟩ : Scientific).value + 1 / 2⌋₊ := by
    cases negative with
    | false => exact floor ▸ isNearest_iff_of_nonneg nonneg
    | true =>
      have flipped := isNearest_iff_of_nonneg nonneg (r := -r)
      rw [← isNearest_neg, neg_neg, floor] at flipped
      rw [amount, if_pos rfl, if_pos rfl, flipped]
      omega
  rw [round?, roundMagnitude?_eq, nearest]
  generalize ⌊(⟨digits, exponent⟩ : Scientific).value + 1 / 2⌋₊ = n
  have magnitude : |if negative then -(n : ℤ) else n| = n := by
    split
    · rw [abs_neg, Nat.abs_cast]
    · exact Nat.abs_cast n
  by_cases few : n < 10 ^ precision
  · rw [if_pos few]
    change some (if negative then -(n : ℤ) else n) = some r ↔ _
    rw [Option.some_inj]
    constructor
    · rintro rfl
      exact ⟨rfl, by rw [magnitude]; exact_mod_cast few⟩
    · rintro ⟨rfl, -⟩
      rfl
  · rw [if_neg few]
    constructor
    · rintro ⟨⟩
    · rintro ⟨rfl, small⟩
      rw [magnitude] at small
      exact absurd (by exact_mod_cast small) few

end Numeral

end Stencil
