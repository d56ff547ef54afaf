import Mathlib.Algebra.Order.Ring.Abs
import Stencil.Proofs.Number.Rounding

/-!
# The order of floating-point numbers

Rounding keeps the order (`Binary64.ofDyadic_mono`), and so does subtracting a number from two others
(`Binary64.sub_mono_left`), although some of the differences are rounded up and others down. A difference that has
reached an integer bound therefore does not fall below it again when the first number grows.

A fraction is first rounded as if there were no largest number (`Binary64.rounded`); infinity takes the place
of everything from `2 ^ 1024` on.
-/

namespace Stencil

/-! ## The nearest natural number -/

theorem divRoundEven_mono_num {num num' den : Nat} (le : num ≤ num') :
    divRoundEven num den ≤ divRoundEven num' den := by
  have quotients : num / den ≤ num' / den := Nat.div_le_div_right le
  have split := Nat.div_add_mod num den
  have split' := Nat.div_add_mod num' den
  unfold divRoundEven
  dsimp only
  by_cases same : num / den = num' / den
  · -- the remainders then are in order
    rw [same] at split ⊢
    have rests : num % den ≤ num' % den := by omega
    split_ifs <;> omega
  · split_ifs <;> omega

theorem divRoundEven_mono {num den num' den' : Nat} (positive : 0 < den) (positive' : 0 < den')
    (le : (num : ℚ) / den ≤ num' / den') : divRoundEven num den ≤ divRoundEven num' den' := by
  have crossed : den' * num ≤ den * num' := by
    rw [div_le_div_iff₀ (by exact_mod_cast positive) (by exact_mod_cast positive'), mul_comm,
      mul_comm (num' : ℚ)] at le
    exact_mod_cast le
  calc divRoundEven num den = divRoundEven (den' * num) (den' * den) := (divRoundEven_mul positive' num den).symm
    _ ≤ divRoundEven (den * num') (den' * den) := divRoundEven_mono_num crossed
    _ = divRoundEven (den * num') (den * den') := by rw [Nat.mul_comm den']
    _ = divRoundEven num' den' := divRoundEven_mul positive num' den'

theorem divRoundEven_one (n : Nat) : divRoundEven n 1 = n := by
  unfold divRoundEven
  dsimp only
  rw [Nat.div_one, Nat.mod_one, Nat.mul_zero, if_pos Nat.one_pos]

theorem divRoundEven_le {num den n : Nat} (positive : 0 < den) (le : (num : ℚ) / den ≤ n) :
    divRoundEven num den ≤ n := by
  have bound : divRoundEven num den ≤ divRoundEven n 1 := divRoundEven_mono positive Nat.one_pos (by simpa using le)
  rwa [divRoundEven_one] at bound

theorem le_divRoundEven {num den n : Nat} (positive : 0 < den) (le : (n : ℚ) ≤ num / den) :
    n ≤ divRoundEven num den := by
  have bound : divRoundEven n 1 ≤ divRoundEven num den := divRoundEven_mono Nat.one_pos positive (by simpa using le)
  rwa [divRoundEven_one] at bound

namespace Binary64

/-! ## Rounding without a largest number -/

/-- The exponent of the last digit that is kept of a fraction. -/
def lastExponent (num den : Nat) : Int :=
  max (floorLog num den - 52) (-1074)

/-- The digits that are kept of a fraction, as a number. -/
def keptDigits (num den : Nat) : Nat :=
  let scaled := scaleFraction num den (-lastExponent num den)
  divRoundEven scaled.1 scaled.2

/-- The value that a fraction is rounded to, as if there were no largest number. -/
def rounded (num den : Nat) : ℚ :=
  keptDigits num den * 2 ^ lastExponent num den

section Fractions

variable {num den num' den' : Nat}

theorem two_zpow_pos (e : Int) : (0 : ℚ) < 2 ^ e :=
  zpow_pos (by norm_num) _

theorem two_zpow_le {e f : Int} (le : e ≤ f) : (2 : ℚ) ^ e ≤ 2 ^ f :=
  zpow_le_zpow_right₀ (by norm_num) le

theorem natCast_two_pow (n : Nat) : ((2 ^ n : Nat) : ℚ) = 2 ^ (n : Int) := by
  rw [zpow_natCast]
  push_cast
  rfl

theorem rounded_nonneg : 0 ≤ rounded num den :=
  mul_nonneg (Nat.cast_nonneg _) (two_zpow_pos _).le

theorem floorLog_mono (nonzero : num ≠ 0) (positive : 0 < den) (nonzero' : num' ≠ 0) (positive' : 0 < den')
    (le : (num : ℚ) / den ≤ num' / den') : floorLog num den ≤ floorLog num' den' := by
  have lower := (floorLog_bounds nonzero positive).1
  have upper := (floorLog_bounds nonzero' positive').2
  have := (zpow_lt_zpow_iff_right₀ (by norm_num : (1 : ℚ) < 2)).1 ((lower.trans le).trans_lt upper)
  omega

theorem keptDigits_le_of_scaled {n : Nat} (positive : 0 < den)
    (le : (num : ℚ) / den * 2 ^ (-lastExponent num den) ≤ n) : keptDigits num den ≤ n :=
  divRoundEven_le (den_scaleFraction_pos positive _) (by rwa [scaleFraction_value num positive])

theorem le_keptDigits_of_scaled {n : Nat} (positive : 0 < den)
    (le : (n : ℚ) ≤ num / den * 2 ^ (-lastExponent num den)) : n ≤ keptDigits num den :=
  le_divRoundEven (den_scaleFraction_pos positive _) (by rwa [scaleFraction_value num positive])

theorem rounded_zero (positive : 0 < den) : rounded 0 den = 0 := by
  have none : keptDigits 0 den = 0 := Nat.le_zero.1 (keptDigits_le_of_scaled positive (by simp))
  rw [rounded, none, Nat.cast_zero, zero_mul]

/-- At most 53 digits are kept, or as many and a carry. -/
theorem keptDigits_le (nonzero : num ≠ 0) (positive : 0 < den) : keptDigits num den ≤ 2 ^ 53 := by
  refine keptDigits_le_of_scaled positive ?_
  have upper := (floorLog_bounds nonzero positive).2
  have high : (2 : ℚ) ^ (floorLog num den + 1) ≤ 2 ^ (53 + lastExponent num den) :=
    two_zpow_le (by unfold lastExponent; omega)
  rw [zpow_neg, ← div_eq_mul_inv, div_le_iff₀ (two_zpow_pos _), natCast_two_pow, ← zpow_add₀ (by norm_num)]
  exact (upper.le.trans high)

/-- All 53 digits are kept, unless the exponent is the least one. -/
theorem le_keptDigits (nonzero : num ≠ 0) (positive : 0 < den) (normal : -1074 < lastExponent num den) :
    2 ^ 52 ≤ keptDigits num den := by
  refine le_keptDigits_of_scaled positive ?_
  have lower := (floorLog_bounds nonzero positive).1
  have low : (2 : ℚ) ^ (52 + lastExponent num den) ≤ 2 ^ floorLog num den :=
    two_zpow_le (by unfold lastExponent at normal ⊢; omega)
  rw [zpow_neg, ← div_eq_mul_inv, le_div_iff₀ (two_zpow_pos _), natCast_two_pow, ← zpow_add₀ (by norm_num)]
  exact low.trans lower

/-- Rounding keeps the order. Where the larger fraction keeps fewer digits, the power of two between the two
fractions also lies between what they are rounded to. -/
theorem rounded_mono (positive : 0 < den) (positive' : 0 < den') (le : (num : ℚ) / den ≤ num' / den') :
    rounded num den ≤ rounded num' den' := by
  by_cases zero : num = 0
  · rw [zero, rounded_zero positive]
    exact rounded_nonneg
  have nonzero' : num' ≠ 0 := by
    rintro rfl
    rw [Nat.cast_zero, zero_div] at le
    have : (0 : ℚ) < num / den :=
      div_pos (by exact_mod_cast Nat.pos_of_ne_zero zero) (by exact_mod_cast positive)
    exact absurd le (not_le.2 this)
  have logs := floorLog_mono zero positive nonzero' positive' le
  unfold rounded
  by_cases same : lastExponent num den = lastExponent num' den'
  · have digits : keptDigits num den ≤ keptDigits num' den' := by
      refine divRoundEven_mono (den_scaleFraction_pos positive _) (den_scaleFraction_pos positive' _) ?_
      rw [scaleFraction_value num positive, scaleFraction_value num' positive', same]
      exact mul_le_mul_of_nonneg_right le (two_zpow_pos _).le
    rw [same]
    exact mul_le_mul_of_nonneg_right (by exact_mod_cast digits) (two_zpow_pos _).le
  · have later : lastExponent num den + 1 ≤ lastExponent num' den' := by
      unfold lastExponent at same ⊢
      omega
    have normal : -1074 < lastExponent num' den' := by
      unfold lastExponent at later ⊢
      omega
    have upper : (keptDigits num den : ℚ) ≤ 2 ^ (53 : Int) := by
      exact_mod_cast keptDigits_le zero positive
    have lower : (2 : ℚ) ^ (52 : Int) ≤ keptDigits num' den' := by
      exact_mod_cast le_keptDigits nonzero' positive' normal
    calc (keptDigits num den : ℚ) * 2 ^ lastExponent num den
        ≤ 2 ^ (53 : Int) * 2 ^ lastExponent num den := mul_le_mul_of_nonneg_right upper (two_zpow_pos _).le
      _ = 2 ^ (53 + lastExponent num den) := (zpow_add₀ (by norm_num) _ _).symm
      _ ≤ 2 ^ (52 + lastExponent num' den') := two_zpow_le (by omega)
      _ = 2 ^ (52 : Int) * 2 ^ lastExponent num' den' := zpow_add₀ (by norm_num) _ _
      _ ≤ keptDigits num' den' * 2 ^ lastExponent num' den' :=
        mul_le_mul_of_nonneg_right lower (two_zpow_pos _).le

/-! ## Infinity -/

/-- A mantissa and an exponent are canonical unless the number is too large. -/
theorem isCanonical_iff {n : Nat} {e : Int} (small : n < 2 ^ 53) (least : -1074 ≤ e)
    (full : -1074 < e → 2 ^ 52 ≤ n) : IsCanonical n e ↔ (n : ℚ) * 2 ^ e < 2 ^ (1024 : Int) := by
  constructor
  · exact fun canonical => Magnitude.value_lt ⟨n, e, canonical⟩
  · intro below
    have bound : e ≤ 971 := by
      by_contra beyond
      have large : (2 : ℚ) ^ (52 : Int) ≤ n := by exact_mod_cast full (by omega)
      refine absurd below (not_lt.2 ?_)
      calc (2 : ℚ) ^ (1024 : Int) ≤ 2 ^ (52 + e) := two_zpow_le (by omega)
        _ = 2 ^ (52 : Int) * 2 ^ e := zpow_add₀ (by norm_num) _ _
        _ ≤ n * 2 ^ e := mul_le_mul_of_nonneg_right large (two_zpow_pos _).le
    by_cases many : 2 ^ 52 ≤ n
    · exact .inr ⟨many, small, least, bound⟩
    · exact .inl ⟨not_le.1 many, by omega⟩

/-- What a fraction is rounded to: `rounded`, or infinity if that is too large. -/
theorem ofFraction_cases (negative : Bool) (num : Nat) (positive : 0 < den) :
    (∃ m, ofFraction negative num den = .finite negative m ∧ m.value = rounded num den
        ∧ rounded num den < 2 ^ (1024 : Int))
      ∨ (ofFraction negative num den = .infinite negative ∧ 2 ^ (1024 : Int) ≤ rounded num den) := by
  by_cases zero : num = 0
  · have none : rounded num den = 0 := zero ▸ rounded_zero positive
    refine .inl ⟨⟨0, -1074, by decide⟩, ?_, ?_, none ▸ two_zpow_pos _⟩
    · rw [ofFraction, if_pos zero, Binary64.zero]
    · rw [none, Magnitude.value, Nat.cast_zero, zero_mul]
  have least : -1074 ≤ lastExponent num den := le_max_right _ _
  have most := keptDigits_le zero positive
  -- a carry moves the exponent up and leaves the value as it is
  obtain ⟨n, e, found, same, small, least, full⟩ : ∃ n e, ofFraction negative num den
        = (if canonical : IsCanonical n e then .finite negative ⟨n, e, canonical⟩ else .infinite negative)
      ∧ (n : ℚ) * 2 ^ e = rounded num den ∧ n < 2 ^ 53 ∧ -1074 ≤ e ∧ (-1074 < e → 2 ^ 52 ≤ n) := by
    unfold ofFraction
    rw [if_neg zero, ← lastExponent]
    dsimp only
    rw [← keptDigits]
    by_cases carry : keptDigits num den = Nat.pow 2 53
    · refine ⟨Nat.pow 2 52, lastExponent num den + 1, by rw [if_pos carry], ?_, by decide, by omega,
        fun _ => le_rfl⟩
      rw [rounded, carry, zpow_add₀ (by norm_num), Nat.pow_eq, Nat.pow_eq]
      push_cast
      ring
    · exact ⟨keptDigits num den, lastExponent num den, by rw [if_neg carry], rfl, lt_of_le_of_ne most carry, least,
        le_keptDigits zero positive⟩
  have canonical_iff := isCanonical_iff small least full
  rw [same] at canonical_iff
  by_cases canonical : IsCanonical n e
  · rw [dif_pos canonical] at found
    exact .inl ⟨_, found, same, canonical_iff.1 canonical⟩
  · rw [dif_neg canonical] at found
    exact .inr ⟨found, not_lt.1 fun below => canonical (canonical_iff.2 below)⟩

end Fractions

/-! ## The order -/

/-- The exact value of a finite number. -/
def signedValue (negative : Bool) (m : Magnitude) : ℚ :=
  if negative then -m.value else m.value

/-- Where a number stands in the order: at its value. The infinities stand where no number does. -/
def rank : Binary64 → ℚ
  | .finite negative m => signedValue negative m
  | .infinite negative => if negative then -2 ^ (1024 : Int) else 2 ^ (1024 : Int)

/-- Numbers are ordered by their values; the two zeros stand at the same place. -/
instance : Preorder Binary64 :=
  Preorder.lift rank

instance (x y : Binary64) : Decidable (x ≤ y) :=
  inferInstanceAs (Decidable (x.rank ≤ y.rank))

theorem le_iff {x y : Binary64} : x ≤ y ↔ x.rank ≤ y.rank := Iff.rfl

theorem abs_rank_finite_lt (negative : Bool) (m : Magnitude) : |(finite negative m).rank| < 2 ^ (1024 : Int) := by
  have below := m.value_lt
  rw [← abs_of_nonneg m.value_nonneg] at below
  cases negative
  · exact below
  · rwa [← abs_neg] at below

theorem abs_rank_le (x : Binary64) : |x.rank| ≤ 2 ^ (1024 : Int) := by
  cases x with
  | finite negative m => exact (abs_rank_finite_lt negative m).le
  | infinite negative =>
    cases negative
    · exact (abs_of_pos (two_zpow_pos _)).le
    · exact ((abs_neg _).trans (abs_of_pos (two_zpow_pos _))).le

theorem infinite_le (x : Binary64) : infinite true ≤ x :=
  (abs_le.1 (abs_rank_le x)).1

theorem le_infinite (x : Binary64) : x ≤ infinite false :=
  (abs_le.1 (abs_rank_le x)).2

theorem eq_of_infinite_le {x : Binary64} (h : infinite false ≤ x) : x = infinite false := by
  cases x with
  | finite negative m => exact absurd h (not_le.2 (abs_lt.1 (abs_rank_finite_lt negative m)).2)
  | infinite negative =>
    cases negative
    · rfl
    · exact absurd h (not_le.2 (neg_lt_self (two_zpow_pos 1024)))

theorem eq_of_le_infinite {x : Binary64} (h : x ≤ infinite true) : x = infinite true := by
  cases x with
  | finite negative m => exact absurd h (not_le.2 (abs_lt.1 (abs_rank_finite_lt negative m)).1)
  | infinite negative =>
    cases negative
    · exact absurd h (not_le.2 (neg_lt_self (two_zpow_pos 1024)))
    · rfl

theorem exists_toDyadic?_finite (negative : Bool) (m : Magnitude) :
    ∃ d, (finite negative m).toDyadic? = some d ∧ d.toRat = signedValue negative m := by
  refine ⟨_, rfl, ?_⟩
  rw [Dyadic.toRat_ofIntWithPrec_eq_mul_two_pow, neg_neg, signedValue, Magnitude.value]
  split
  · push_cast
    ring
  · push_cast
    rfl

theorem isBelow_finite_iff {negative : Bool} {m : Magnitude} {i : Int} :
    (finite negative m).isBelow i = true ↔ signedValue negative m < i := by
  obtain ⟨d, value, same⟩ := exists_toDyadic?_finite negative m
  unfold isBelow
  rw [value, ← same, ← Dyadic.toRat_intCast, Dyadic.toRat_lt_toRat_iff]
  exact decide_eq_true_iff

/-- What is below a bound is still below it when it shrinks. -/
theorem isBelow_of_le {x y : Binary64} {i : Int} (le : x ≤ y) (below : y.isBelow i = true) :
    x.isBelow i = true := by
  cases y with
  | infinite negative =>
    cases negative
    · cases below
    · rw [eq_of_le_infinite le]
      rfl
  | finite negative m =>
    cases x with
    | finite negative' m' => exact isBelow_finite_iff.2 (lt_of_le_of_lt le (isBelow_finite_iff.1 below))
    | infinite negative' =>
      cases negative'
      · cases eq_of_infinite_le le
      · rfl

/-! ## Rounding keeps the order -/

theorem rank_ofFraction {den : Nat} (negative : Bool) (num : Nat) (positive : 0 < den) :
    (ofFraction negative num den).rank
      = if negative then -min (rounded num den) (2 ^ (1024 : Int)) else min (rounded num den) (2 ^ (1024 : Int)) := by
  obtain ⟨m, found, value, below⟩ | ⟨found, large⟩ := ofFraction_cases negative num positive
  · rw [found, min_eq_left below.le, ← value]
    rfl
  · rw [found, min_eq_right large]
    rfl

theorem ofDyadic_eq (d : Dyadic) :
    ∃ num den : Nat, 0 < den ∧ (num : ℚ) / den = |d.toRat|
      ∧ ofDyadic d = ofFraction (decide (d.toRat < 0)) num den := by
  cases d with
  | zero => exact ⟨0, 1, Nat.one_pos, by simp [Dyadic.toRat], rfl⟩
  | ofOdd n places odd =>
    refine ⟨(scaleFraction n.natAbs 1 (-places)).1, (scaleFraction n.natAbs 1 (-places)).2,
      den_scaleFraction_pos Nat.one_pos (-places), ?_, ?_⟩
    · rw [scaleFraction_value n.natAbs Nat.one_pos, Dyadic.toRat_ofOdd_eq_mul_two_pow, abs_mul,
        abs_of_pos (two_zpow_pos _), Nat.cast_one, div_one, Nat.cast_natAbs, Int.cast_abs]
    · have sign : (Dyadic.ofOdd n places odd).toRat < 0 ↔ n < 0 := by
        rw [Dyadic.toRat_ofOdd_eq_mul_two_pow, Rat.mul_neg_iff_of_pos_right (two_zpow_pos _),
          Int.cast_lt_zero]
      rw [decide_eq_decide.2 sign]
      rfl

theorem ofDyadic_mono {a b : Dyadic} (le : a.toRat ≤ b.toRat) : ofDyadic a ≤ ofDyadic b := by
  obtain ⟨num, den, positive, value, found⟩ := ofDyadic_eq a
  obtain ⟨num', den', positive', value', found'⟩ := ofDyadic_eq b
  rw [le_iff, found, found', rank_ofFraction _ _ positive, rank_ofFraction _ _ positive']
  by_cases below : a.toRat < 0
  · by_cases below' : b.toRat < 0
    · have shrinks : (num' : ℚ) / den' ≤ num / den := by
        rw [value, value', abs_of_neg below, abs_of_neg below']
        exact neg_le_neg le
      simp only [below, below', decide_true, if_true]
      exact neg_le_neg (min_le_min_right _ (rounded_mono positive' positive shrinks))
    · have top := two_zpow_pos 1024
      have nonneg : 0 ≤ min (rounded num den) (2 ^ (1024 : Int)) := le_min rounded_nonneg top.le
      have nonneg' : 0 ≤ min (rounded num' den') (2 ^ (1024 : Int)) := le_min rounded_nonneg top.le
      simp only [below, below', decide_true, decide_false, if_true, Bool.false_eq_true, if_false]
      exact (neg_nonpos.2 nonneg).trans nonneg'
  · have below' : ¬b.toRat < 0 := fun less => below (le.trans_lt less)
    have grows : (num : ℚ) / den ≤ num' / den' := by
      rw [value, value', abs_of_nonneg (not_lt.1 below), abs_of_nonneg (not_lt.1 below')]
      exact le
    simp only [below, below', decide_false, Bool.false_eq_true, if_false]
    exact min_le_min_right _ (rounded_mono positive positive' grows)

theorem add_mono_left {x x' : Binary64} (le : x ≤ x') (y : Binary64) : x.add y ≤ x'.add y := by
  cases x with
  | infinite negative =>
    cases negative
    · rw [eq_of_infinite_le le]
    · exact infinite_le _
  | finite negative m =>
    cases x' with
    | infinite negative' =>
      cases negative'
      · exact le_infinite _
      · cases eq_of_le_infinite le
    | finite negative' m' =>
      cases y with
      | infinite sign => exact le_rfl
      | finite sign n =>
        obtain ⟨a, value, same⟩ := exists_toDyadic?_finite negative m
        obtain ⟨a', value', same'⟩ := exists_toDyadic?_finite negative' m'
        obtain ⟨b, value'', -⟩ := exists_toDyadic?_finite sign n
        unfold add
        rw [value, value', value'']
        refine ofDyadic_mono ?_
        rw [Dyadic.toRat_add, Dyadic.toRat_add, same, same']
        gcongr
        exact le

/-- The difference to a fixed number keeps the order. -/
theorem sub_mono_left {x x' : Binary64} (le : x ≤ x') (y : Binary64) : x.sub y ≤ x'.sub y :=
  add_mono_left le y.neg

end Binary64

end Stencil
