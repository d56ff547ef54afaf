import Stencil.Number.Shortest
import Stencil.Proofs.Number.Rounding

/-!
# The shortest decimal of a number

Seventeen digits always suffice: the nearest decimal of seventeen digits is so close to a number that the
number is the one nearest to it. Hence the search for the shortest decimal that reads back never fails
(`Scientific.shortest_reads_back`).
-/

namespace Stencil

theorem Magnitude.le_value {m : Magnitude} (nonzero : m.mantissa ≠ 0) : (2 : ℚ) ^ (-1074 : Int) ≤ m.value := by
  have power : (0 : ℚ) < 2 ^ m.exponent := zpow_pos (by norm_num) _
  have one : (1 : ℚ) ≤ m.mantissa := by exact_mod_cast Nat.pos_of_ne_zero nonzero
  calc (2 : ℚ) ^ (-1074 : Int) ≤ 2 ^ m.exponent := zpow_le_zpow_right₀ (by norm_num) m.parts_bounds.2.1
    _ ≤ m.mantissa * 2 ^ m.exponent := le_mul_of_one_le_left power.le one

/-- `10 ^ 28` is just above `2 ^ 93`. -/
theorem two_pow_le_ten_pow {j n : Nat} (enough : 28 * j ≤ 93 * n) : (2 : ℚ) ^ j ≤ 10 ^ n := by
  refine (pow_le_pow_iff_left₀ (by positivity) (by positivity) (show 28 ≠ 0 by decide)).1 ?_
  calc ((2 : ℚ) ^ j) ^ 28 = 2 ^ (28 * j) := by rw [← pow_mul, mul_comm]
    _ ≤ 2 ^ (93 * n) := pow_le_pow_right₀ (by norm_num) enough
    _ = (2 ^ 93) ^ n := pow_mul _ _ _
    _ ≤ (10 ^ 28) ^ n := pow_le_pow_left₀ (by norm_num) (by norm_num) n
    _ = (10 ^ n) ^ 28 := by rw [← pow_mul, ← pow_mul, mul_comm]

/-- `10 ^ 59` is just below `2 ^ 196`. -/
theorem ten_pow_le_two_pow {n j : Nat} (enough : 196 * n ≤ 59 * j) : (10 : ℚ) ^ n ≤ 2 ^ j := by
  refine (pow_le_pow_iff_left₀ (by positivity) (by positivity) (show 59 ≠ 0 by decide)).1 ?_
  calc ((10 : ℚ) ^ n) ^ 59 = (10 ^ 59) ^ n := by rw [← pow_mul, ← pow_mul, mul_comm]
    _ ≤ (2 ^ 196) ^ n := pow_le_pow_left₀ (by norm_num) (by norm_num) n
    _ = 2 ^ (196 * n) := (pow_mul _ _ _).symm
    _ ≤ 2 ^ (59 * j) := pow_le_pow_right₀ (by norm_num) enough
    _ = (2 ^ j) ^ 59 := by rw [← pow_mul, mul_comm]

namespace Scientific

/-- The exact value of a decimal. -/
def value (s : Scientific) : ℚ :=
  s.digits * 10 ^ s.exponent

/-- How many digits a decimal has in front of the point. -/
def size (s : Scientific) : Int :=
  (Nat.toDigits 10 s.digits).length + s.exponent

theorem toDigits_bounds {n : Nat} (nonzero : n ≠ 0) :
    10 ^ ((Nat.toDigits 10 n).length - 1) ≤ n ∧ n < 10 ^ (Nat.toDigits 10 n).length := by
  have some : 0 < (Nat.toDigits 10 n).length := Nat.length_toDigits_pos
  refine ⟨?_, (Nat.length_toDigits_le_iff (by decide) some).1 le_rfl⟩
  by_cases one : (Nat.toDigits 10 n).length = 1
  · rw [one]
    exact Nat.pos_of_ne_zero nonzero
  · refine not_lt.1 fun less => ?_
    have := (Nat.length_toDigits_le_iff (by decide) (by omega)).2 less
    omega

/-- The size tells the value up to a factor of ten. -/
theorem size_bounds {s : Scientific} (nonzero : s.digits ≠ 0) :
    (10 : ℚ) ^ (s.size - 1) ≤ s.value ∧ s.value < 10 ^ s.size := by
  have power : (0 : ℚ) < 10 ^ s.exponent := zpow_pos (by norm_num) _
  have ten : (10 : ℚ) ≠ 0 := by norm_num
  obtain ⟨lower, upper⟩ := toDigits_bounds nonzero
  have some : 0 < (Nat.toDigits 10 s.digits).length := Nat.length_toDigits_pos
  constructor
  · rw [size, value, show ((Nat.toDigits 10 s.digits).length : Int) + s.exponent - 1
      = ((Nat.toDigits 10 s.digits).length - 1 : Nat) + s.exponent by omega, zpow_add₀ ten, zpow_natCast]
    gcongr
    exact_mod_cast lower
  · rw [size, value, zpow_add₀ ten, zpow_natCast]
    gcongr
    exact_mod_cast upper

theorem value_eq_zero {s : Scientific} : s.value = 0 ↔ s.digits = 0 := by
  rw [value, mul_eq_zero_iff_right (zpow_ne_zero _ (by norm_num)), Nat.cast_eq_zero]

/-- Decimals of the same value have the same size. -/
theorem size_eq_of_value {s t : Scientific} (same : s.value = t.value) (nonzero : s.digits ≠ 0) :
    s.size = t.size := by
  have nonzero' : t.digits ≠ 0 := fun zero => nonzero (value_eq_zero.1 (same.trans (value_eq_zero.2 zero)))
  obtain ⟨lower, upper⟩ := size_bounds nonzero
  obtain ⟨lower', upper'⟩ := size_bounds nonzero'
  have ten : (1 : ℚ) < 10 := by norm_num
  have := (zpow_lt_zpow_iff_right₀ ten).1 (lower.trans_lt (same ▸ upper'))
  have := (zpow_lt_zpow_iff_right₀ ten).1 (lower'.trans_lt (same ▸ upper))
  omega

theorem ofDecimal_of_size_lt {s : Scientific} {negative : Bool} (small : s.size < -330) :
    Binary64.ofDecimal negative s.digits s.exponent = Binary64.zero negative := by
  unfold size at small
  rw [Binary64.ofDecimal, if_pos (.inr small)]

theorem ofDecimal_of_lt_size {s : Scientific} {negative : Bool} (nonzero : s.digits ≠ 0) (large : 310 < s.size) :
    Binary64.ofDecimal negative s.digits s.exponent = .infinite negative := by
  unfold size at large
  rw [Binary64.ofDecimal, if_neg (not_or.2 ⟨nonzero, by omega⟩), if_pos large]

/-- Between the bounds of its range a decimal is read as the fraction of its value. -/
theorem exists_fraction (s : Scientific) (least : -330 ≤ s.size) (greatest : s.size ≤ 310) :
    ∃ num den : Nat, 0 < den ∧ (num : ℚ) / den = s.value ∧
      ∀ negative, Binary64.ofDecimal negative s.digits s.exponent = Binary64.ofFraction negative num den := by
  by_cases zero : s.digits = 0
  · refine ⟨0, 1, by decide, ?_, fun negative => ?_⟩
    · rw [value_eq_zero.2 zero, Nat.cast_zero, zero_div]
    · rw [Binary64.ofDecimal, if_pos (.inl zero), Binary64.ofFraction, if_pos rfl]
  have inside : ∀ negative, Binary64.ofDecimal negative s.digits s.exponent =
      if 0 ≤ s.exponent then Binary64.ofFraction negative (s.digits * Nat.pow 10 s.exponent.toNat) 1
      else Binary64.ofFraction negative s.digits (Nat.pow 10 (-s.exponent).toNat) := by
    intro negative
    unfold size at least greatest
    rw [Binary64.ofDecimal, if_neg (not_or.2 ⟨zero, by omega⟩), if_neg (by omega)]
  by_cases whole : 0 ≤ s.exponent
  · refine ⟨s.digits * Nat.pow 10 s.exponent.toNat, 1, by decide, ?_, fun negative => by rw [inside, if_pos whole]⟩
    obtain ⟨n, power⟩ := Int.eq_ofNat_of_zero_le whole
    rw [value, power, Int.toNat_natCast, Nat.pow_eq, Nat.cast_one, div_one, zpow_natCast]
    push_cast
    rfl
  · refine ⟨s.digits, Nat.pow 10 (-s.exponent).toNat, Nat.pow_pos (by decide), ?_,
      fun negative => by rw [inside, if_neg whole]⟩
    obtain ⟨n, power⟩ := Int.eq_ofNat_of_zero_le (show 0 ≤ -s.exponent by omega)
    rw [value, power, Int.toNat_natCast, show s.exponent = -(n : Int) by omega, Nat.pow_eq, zpow_neg, zpow_natCast,
      div_eq_mul_inv]
    push_cast
    rfl

/-- The number that a decimal is read as depends on the value of the decimal only. -/
theorem ofDecimal_congr {s t : Scientific} (same : s.value = t.value) (negative : Bool) :
    Binary64.ofDecimal negative s.digits s.exponent = Binary64.ofDecimal negative t.digits t.exponent := by
  by_cases zero : s.digits = 0
  · have zero' : t.digits = 0 := value_eq_zero.1 (same ▸ value_eq_zero.2 zero)
    rw [Binary64.ofDecimal, if_pos (.inl zero), Binary64.ofDecimal, if_pos (.inl zero')]
  have zero' : t.digits ≠ 0 := fun zero' => zero (value_eq_zero.1 (same ▸ value_eq_zero.2 zero'))
  have size := size_eq_of_value same zero
  by_cases least : s.size < -330
  · rw [ofDecimal_of_size_lt least, ofDecimal_of_size_lt (size ▸ least)]
  by_cases greatest : 310 < s.size
  · rw [ofDecimal_of_lt_size zero greatest, ofDecimal_of_lt_size zero' (size ▸ greatest)]
  obtain ⟨num, den, positive, value, read⟩ := exists_fraction s (not_lt.1 least) (not_lt.1 greatest)
  obtain ⟨num', den', positive', value', read'⟩ :=
    exists_fraction t (size ▸ not_lt.1 least) (size ▸ not_lt.1 greatest)
  rw [read, read', Binary64.ofFraction_congr positive positive' (by rw [value, value', same])]

/-- A decimal that is closer to a number than a part of `2 ^ 54` of it is read as that number. -/
theorem ofDecimal_of_near {s : Scientific} {m : Magnitude} (nonzero : m.mantissa ≠ 0)
    (near : |s.value - m.value| < m.value / 2 ^ 54) :
    Binary64.ofDecimal false s.digits s.exponent = .finite false m := by
  have lower := Magnitude.le_value nonzero
  have upper := m.value_lt
  obtain ⟨above, below⟩ := abs_lt.1 near
  have value_pos : 0 < m.value := lt_of_lt_of_le (zpow_pos (by norm_num) _) lower
  have nonzero' : s.digits ≠ 0 := fun zero => by
    rw [value_eq_zero.2 zero] at above
    linarith
  obtain ⟨least, greatest⟩ := size_bounds nonzero'
  have ten : (1 : ℚ) ≤ 10 := by norm_num
  have at_most : s.size ≤ 310 := by
    refine not_lt.1 fun more => absurd least (not_le.2 ?_)
    calc s.value < 2 * m.value := by linarith
      _ ≤ 2 * 2 ^ (1024 : Nat) := by
        gcongr
        exact upper.le
      _ = 2 ^ (1025 : Nat) := (pow_succ' _ _).symm
      _ ≤ 10 ^ (310 : Nat) := two_pow_le_ten_pow (by decide)
      _ ≤ 10 ^ (s.size - 1) := by
        rw [← zpow_natCast]
        exact zpow_le_zpow_right₀ ten (by omega)
  have at_least : -330 ≤ s.size := by
    refine not_lt.1 fun less => absurd greatest (not_lt.2 ?_)
    calc (10 : ℚ) ^ s.size ≤ 10 ^ (-(330 : Nat) : Int) := zpow_le_zpow_right₀ ten (by omega)
      _ ≤ 2 ^ (-(1075 : Nat) : Int) := by
        rw [zpow_neg, zpow_neg, zpow_natCast, zpow_natCast]
        exact inv_anti₀ (by positivity) (two_pow_le_ten_pow (by decide))
      _ = 2 ^ (-1074 : Int) / 2 := zpow_sub_one₀ (by norm_num) (-1074)
      _ ≤ m.value / 2 := by gcongr
      _ ≤ s.value := by linarith
  obtain ⟨num, den, positive, value, read⟩ := exists_fraction s at_least at_most
  rw [read]
  exact Binary64.ofFraction_of_near false positive m nonzero (value ▸ near)

/-! ## The power of ten below a fraction -/

/-- The exponent guessed for a power of ten is at most one too high. -/
theorem zpow_guess_le {k : Int} (least : -1102 ≤ k) (greatest : k ≤ 1101) :
    (10 : ℚ) ^ (k * 30103 / 100000 - 1) ≤ 2 ^ (k - 1) := by
  by_cases up : 0 ≤ k * 30103 / 100000 - 1
  · obtain ⟨n, guess⟩ := Int.eq_ofNat_of_zero_le up
    obtain ⟨j, power⟩ := Int.eq_ofNat_of_zero_le (show 0 ≤ k - 1 by omega)
    rw [guess, power, zpow_natCast, zpow_natCast]
    exact ten_pow_le_two_pow (by omega)
  by_cases whole : 1 ≤ k
  · calc (10 : ℚ) ^ (k * 30103 / 100000 - 1) ≤ 10 ^ (0 : Int) := zpow_le_zpow_right₀ (by norm_num) (by omega)
      _ = 2 ^ (0 : Int) := by norm_num
      _ ≤ 2 ^ (k - 1) := zpow_le_zpow_right₀ (by norm_num) (by omega)
  · obtain ⟨n, guess⟩ := Int.eq_ofNat_of_zero_le (show 0 ≤ -(k * 30103 / 100000 - 1) by omega)
    obtain ⟨j, power⟩ := Int.eq_ofNat_of_zero_le (show 0 ≤ -(k - 1) by omega)
    rw [show k * 30103 / 100000 - 1 = -(n : Int) by omega, show k - 1 = -(j : Int) by omega, zpow_neg, zpow_neg,
      zpow_natCast, zpow_natCast]
    exact inv_anti₀ (by positivity) (two_pow_le_ten_pow (by omega))

/-- The comparison of a power of ten with a fraction. -/
theorem zpow_le_of_compare {num den : Nat} {e : Int} (positive : 0 < den)
    (enough : (if 0 ≤ e then decide (den * Nat.pow 10 e.toNat ≤ num)
      else decide (den ≤ num * Nat.pow 10 (-e).toNat)) = true) : (10 : ℚ) ^ e ≤ num / den := by
  have den_pos : (0 : ℚ) < den := by exact_mod_cast positive
  rw [le_div_iff₀ den_pos]
  split at enough
  · next up =>
    obtain ⟨n, rfl⟩ := Int.eq_ofNat_of_zero_le up
    rw [decide_eq_true_eq, Int.toNat_natCast, Nat.pow_eq, mul_comm] at enough
    rw [zpow_natCast]
    exact_mod_cast enough
  · next down =>
    obtain ⟨n, negated⟩ := Int.eq_ofNat_of_zero_le (show 0 ≤ -e by omega)
    rw [decide_eq_true_eq, negated, Int.toNat_natCast, Nat.pow_eq, mul_comm] at enough
    rw [show e = -(n : Int) by omega, zpow_neg, zpow_natCast, inv_mul_le_iff₀ (by positivity)]
    exact_mod_cast enough

theorem floorLog10_le {num den : Nat} (nonzero : num ≠ 0) (positive : 0 < den)
    (least : (2 : ℚ) ^ (-1100 : Int) ≤ num / den) (greatest : (num : ℚ) / den < 2 ^ (1100 : Int)) :
    (10 : ℚ) ^ floorLog10 num den ≤ num / den ∧ -400 ≤ floorLog10 num den := by
  obtain ⟨lower, upper⟩ := Binary64.log2_sub_bounds nonzero positive
  have two : (1 : ℚ) < 2 := by norm_num
  have := (zpow_lt_zpow_iff_right₀ two).1 (least.trans_lt upper)
  have := (zpow_lt_zpow_iff_right₀ two).1 (lower.trans_lt greatest)
  unfold floorLog10
  extract_lets isAtLeast guess
  have compare : ∀ e, isAtLeast e = true → (10 : ℚ) ^ e ≤ num / den := fun e => zpow_le_of_compare positive
  have near : -399 ≤ guess := by omega
  split
  · next enough => exact ⟨compare _ enough, by omega⟩
  · split
    · next enough => exact ⟨compare _ enough, by omega⟩
    · exact ⟨(zpow_guess_le (by omega) (by omega)).trans lower, by omega⟩

/-! ## Neighbours on a grid -/

/-- A fraction measured in units of `10 ^ place`. -/
theorem value_in_units {num den a b : Nat} {place : Int} (positive : 0 < den)
    (pair : (if 0 ≤ place then (num, den * Nat.pow 10 place.toNat) else (num * Nat.pow 10 (-place).toNat, den)) = (a, b)) :
    0 < b ∧ (a : ℚ) / b * 10 ^ place = num / den := by
  have nonzero : (den : ℚ) ≠ 0 := by exact_mod_cast positive.ne'
  split at pair
  · next up =>
    obtain ⟨n, rfl⟩ := Int.eq_ofNat_of_zero_le up
    obtain ⟨rfl, rfl⟩ := pair
    refine ⟨Nat.mul_pos positive (Nat.pow_pos (by decide)), ?_⟩
    rw [Int.toNat_natCast, Nat.pow_eq, zpow_natCast]
    push_cast
    field_simp
  · next down =>
    obtain ⟨n, negated⟩ := Int.eq_ofNat_of_zero_le (show 0 ≤ -place by omega)
    obtain ⟨rfl, rfl⟩ := pair
    refine ⟨positive, ?_⟩
    rw [negated, show place = -(n : Int) by omega, Int.toNat_natCast, Nat.pow_eq, zpow_neg, zpow_natCast]
    push_cast
    field_simp

/-- A fraction is its whole part and a rest below one. -/
theorem div_eq_whole_add_rest (a : Nat) {b : Nat} (positive : 0 < b) :
    (a : ℚ) / b = (a / b : Nat) + ((a % b : Nat) : ℚ) / b ∧ 0 ≤ ((a % b : Nat) : ℚ) / b
      ∧ ((a % b : Nat) : ℚ) / b < 1 := by
  have b_pos : (0 : ℚ) < b := by exact_mod_cast positive
  refine ⟨?_, by positivity, ?_⟩
  · rw [div_eq_iff b_pos.ne', add_mul, div_mul_cancel₀ _ b_pos.ne', mul_comm]
    exact_mod_cast (Nat.div_add_mod a b).symm
  · rw [div_lt_one b_pos]
    exact_mod_cast Nat.mod_lt a positive

/-- One of the neighbours is no farther than half the width of the grid. -/
theorem exists_near_neighbour (num : Nat) {den : Nat} (positive : 0 < den) (place : Int) :
    ∃ s ∈ neighbours num den place, |s.value - num / den| ≤ 10 ^ place / 2 := by
  have power : (0 : ℚ) < 10 ^ place := zpow_pos (by norm_num) _
  obtain ⟨⟨a, b⟩, pair⟩ : ∃ pair : Nat × Nat, (if 0 ≤ place then (num, den * Nat.pow 10 place.toNat)
    else (num * Nat.pow 10 (-place).toNat, den)) = pair := ⟨_, rfl⟩
  obtain ⟨positive_b, scaled⟩ := value_in_units positive pair
  have b_pos : (0 : ℚ) < b := by exact_mod_cast positive_b
  have near : ∀ n : Nat, |(n : ℚ) - a / b| ≤ 1 / 2 → |(⟨n, place⟩ : Scientific).value - num / den| ≤ 10 ^ place / 2 := by
    intro n near
    calc |(⟨n, place⟩ : Scientific).value - num / den| = |(n : ℚ) - a / b| * 10 ^ place := by
          rw [value, ← scaled, ← sub_mul, abs_mul, abs_of_pos power]
      _ ≤ 1 / 2 * 10 ^ place := by gcongr
      _ = 10 ^ place / 2 := by ring
  obtain ⟨parts, rest_nonneg, rest_lt⟩ := div_eq_whole_add_rest a positive_b
  unfold neighbours
  rw [pair]
  dsimp only
  split
  · next exact =>
    refine ⟨_, List.mem_cons_self, near _ ?_⟩
    rw [parts, exact]
    norm_num
  · split
    · next low =>
      refine ⟨_, List.mem_cons_self, near _ ?_⟩
      have : ((a % b : Nat) : ℚ) / b ≤ 1 / 2 := by
        rw [div_le_iff₀ b_pos]
        have : ((2 * (a % b) : Nat) : ℚ) ≤ b := by exact_mod_cast low.elim le_of_lt fun tie => tie.1.le
        push_cast at this
        linarith
      rw [parts, abs_le]
      constructor <;> linarith
    · next high =>
      refine ⟨_, List.mem_cons_self, near _ ?_⟩
      have : 1 / 2 ≤ ((a % b : Nat) : ℚ) / b := by
        rw [le_div_iff₀ b_pos]
        have : (b : ℚ) ≤ (2 * (a % b) : Nat) := by exact_mod_cast not_lt.1 fun less => high (.inl less)
        push_cast at this
        linarith
      rw [parts, Nat.cast_add, Nat.cast_one, abs_le]
      constructor <;> linarith

theorem exponent_of_mem_neighbours {num den : Nat} {place : Int} {s : Scientific}
    (mem : s ∈ neighbours num den place) : s.exponent = place := by
  unfold neighbours at mem
  dsimp only at mem
  grind

theorem floorLog10_fraction {m : Magnitude} (nonzero : m.mantissa ≠ 0) :
    (10 : ℚ) ^ floorLog10 (Binary64.fraction m).1 (Binary64.fraction m).2 ≤ m.value ∧
      -400 ≤ floorLog10 (Binary64.fraction m).1 (Binary64.fraction m).2 := by
  have lower := Magnitude.le_value nonzero
  have upper := m.value_lt
  have value_pos : 0 < m.value := lt_of_lt_of_le (zpow_pos (by norm_num) _) lower
  have num_nonzero : (Binary64.fraction m).1 ≠ 0 := by
    intro zero
    rw [← fraction_value m, zero, Nat.cast_zero, zero_div] at value_pos
    exact value_pos.false
  rw [← fraction_value m] at lower upper ⊢
  exact floorLog10_le num_nonzero (den_fraction_pos m) ((zpow_le_zpow_right₀ (by norm_num) (by decide)).trans lower)
    (upper.trans_le (zpow_le_zpow_right₀ (by norm_num) (by decide)))

/-- Seventeen digits suffice. -/
theorem withDigits?_seventeen {m : Magnitude} (nonzero : m.mantissa ≠ 0) : (withDigits? m 17).isSome := by
  obtain ⟨power, -⟩ := floorLog10_fraction nonzero
  rw [withDigits?, List.find?_isSome]
  obtain ⟨s, mem, near⟩ := exists_near_neighbour (Binary64.fraction m).1 (den_fraction_pos m)
    (floorLog10 (Binary64.fraction m).1 (Binary64.fraction m).2 - (17 - 1 : Nat))
  refine ⟨s, mem, decide_eq_true (ofDecimal_of_near nonzero ?_)⟩
  rw [fraction_value] at near
  have value_pos : 0 < m.value := lt_of_lt_of_le (zpow_pos (by norm_num) _) power
  rw [zpow_sub₀ (by norm_num), zpow_natCast] at near
  calc |s.value - m.value| ≤ 10 ^ floorLog10 (Binary64.fraction m).1 (Binary64.fraction m).2 / 10 ^ (17 - 1) / 2 := near
    _ ≤ m.value / 10 ^ (17 - 1) / 2 := by gcongr
    _ < m.value / 2 ^ 54 := by
      norm_num
      linarith

/-- The shortest decimal is found with one of the counts of digits. -/
theorem exists_withDigits?_shortest {m : Magnitude} (nonzero : m.mantissa ≠ 0) :
    ∃ count ≤ 16, withDigits? m (count + 1) = some (shortest m) := by
  obtain ⟨s, seventeen⟩ := Option.isSome_iff_exists.1 (withDigits?_seventeen nonzero)
  obtain ⟨shortest', found⟩ : ∃ t, (List.range 17).findSome? (fun i => withDigits? m (i + 1)) = some t := by
    rw [← Option.isSome_iff_exists, List.findSome?_isSome_iff]
    exact ⟨16, List.mem_range.2 (by decide), by rw [seventeen]; rfl⟩
  obtain ⟨count, mem, is⟩ := List.exists_of_findSome?_eq_some found
  refine ⟨count, Nat.le_of_lt_succ (List.mem_range.1 mem), ?_⟩
  rw [shortest, found, is, Option.getD_some]

theorem shortest_reads_back {m : Magnitude} (nonzero : m.mantissa ≠ 0) :
    Binary64.ofDecimal false (shortest m).digits (shortest m).exponent = .finite false m := by
  obtain ⟨count, -, found⟩ := exists_withDigits?_shortest nonzero
  exact reads_back_of_withDigits? found

theorem digits_shortest_ne_zero {m : Magnitude} (nonzero : m.mantissa ≠ 0) : (shortest m).digits ≠ 0 := by
  intro none
  have reads := shortest_reads_back nonzero
  rw [Binary64.ofDecimal, if_pos (.inl none), Binary64.zero] at reads
  exact nonzero (congrArg Magnitude.mantissa (Binary64.finite.inj reads).2).symm

theorem size_shortest_le {m : Magnitude} (nonzero : m.mantissa ≠ 0) : (shortest m).size ≤ 310 := by
  by_contra large
  have reads := shortest_reads_back nonzero
  rw [ofDecimal_of_lt_size (digits_shortest_ne_zero nonzero) (not_le.1 large)] at reads
  cases reads

theorem exponent_shortest {m : Magnitude} (nonzero : m.mantissa ≠ 0) : -416 ≤ (shortest m).exponent := by
  obtain ⟨count, few, found⟩ := exists_withDigits?_shortest nonzero
  obtain ⟨-, least⟩ := floorLog10_fraction nonzero
  have place : (shortest m).exponent =
      floorLog10 (Binary64.fraction m).1 (Binary64.fraction m).2 - (count + 1 - 1 : Nat) :=
    exponent_of_mem_neighbours (List.mem_of_find?_eq_some found)
  omega

end Scientific

end Stencil
