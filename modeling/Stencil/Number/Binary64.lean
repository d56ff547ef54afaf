/-!
# Binary floating-point numbers of 64 bits

A finite number is a sign and a magnitude `mantissa * 2 ^ exponent` in its one canonical form, so
two finite numbers are the same bits exactly when they are equal here. Everything else is exact
arithmetic on naturals followed by one rounding: to the nearest number, a tie to the even mantissa,
and to infinity beyond the largest one. There is no value for "not a number"; it is no number.
-/

namespace Stencil

/-- Canonical magnitudes: subnormal with the least exponent, or normal with a mantissa of 53 bits. -/
def IsCanonical (mantissa : Nat) (exponent : Int) : Prop :=
  (mantissa < Nat.pow 2 52 ∧ exponent = -1074) ∨
    (Nat.pow 2 52 ≤ mantissa ∧ mantissa < Nat.pow 2 53 ∧ -1074 ≤ exponent ∧ exponent ≤ 971)

instance (mantissa : Nat) (exponent : Int) : Decidable (IsCanonical mantissa exponent) :=
  inferInstanceAs (Decidable (_ ∨ _))

/-- A finite magnitude `mantissa * 2 ^ exponent`. -/
structure Magnitude where
  mantissa : Nat
  exponent : Int
  canonical : IsCanonical mantissa exponent
  deriving DecidableEq

/-- A finite or infinite floating-point number. -/
inductive Binary64 where
  | finite (negative : Bool) (magnitude : Magnitude)
  | infinite (negative : Bool)
  deriving DecidableEq

/-- The quotient rounded to the nearest natural, a tie to the even one. -/
def divRoundEven (num den : Nat) : Nat :=
  let quotient := num / den
  let rest := num % den
  if 2 * rest < den then quotient
  else if den < 2 * rest then quotient + 1
  else quotient + quotient % 2

/-- The fraction `num / den * 2 ^ shift` as a numerator and a denominator. -/
def scaleFraction (num den : Nat) (shift : Int) : Nat × Nat :=
  if 0 ≤ shift then (num * Nat.pow 2 shift.toNat, den) else (num, den * Nat.pow 2 (-shift).toNat)

namespace Binary64

/-- Zero with a sign. -/
def zero (negative : Bool) : Binary64 :=
  .finite negative ⟨0, -1074, by decide⟩

/-- The exponent of the highest power of two not above `num / den`. -/
def floorLog (num den : Nat) : Int :=
  let guess : Int := num.log2 - den.log2
  let (scaled, unit) := scaleFraction num den (-guess)
  if unit ≤ scaled then guess else guess - 1

/-- The number nearest to `num / den`. -/
def ofFraction (negative : Bool) (num den : Nat) : Binary64 :=
  if num = 0 then zero negative
  else
    let exponent := max (floorLog num den - 52) (-1074)
    let (num, den) := scaleFraction num den (-exponent)
    let mantissa := divRoundEven num den
    let (mantissa, exponent) :=
      if mantissa = Nat.pow 2 53 then (Nat.pow 2 52, exponent + 1) else (mantissa, exponent)
    if canonical : IsCanonical mantissa exponent then .finite negative ⟨mantissa, exponent, canonical⟩
    else .infinite negative

/-- The number nearest to `digits * 10 ^ exponent`. Far outside the range of the type the power is
not computed: `10 ^ 310` is above the largest number, and `10 ^ (-330)` below half the least. -/
def ofDecimal (negative : Bool) (digits : Nat) (exponent : Int) : Binary64 :=
  let size : Int := (Nat.toDigits 10 digits).length + exponent
  if digits = 0 ∨ size < -330 then zero negative
  else if 310 < size then .infinite negative
  else if 0 ≤ exponent then ofFraction negative (digits * Nat.pow 10 exponent.toNat) 1
  else ofFraction negative digits (Nat.pow 10 (-exponent).toNat)

/-- The number nearest to an integer. -/
def ofInt (i : Int) : Binary64 :=
  ofFraction (i < 0) i.natAbs 1

/-- The number nearest to a dyadic fraction. -/
def ofDyadic : Dyadic → Binary64
  | .zero => zero false
  | .ofOdd n places _ =>
    let (num, den) := scaleFraction n.natAbs 1 (-places)
    ofFraction (n < 0) num den

/-- Is the number negative, minus zero included? -/
def isNegative : Binary64 → Bool
  | .finite negative _ => negative
  | .infinite negative => negative

/-- The exact value of a finite number. -/
def toDyadic? : Binary64 → Option Dyadic
  | .finite negative m =>
    some (Dyadic.ofIntWithPrec (if negative then -(m.mantissa : Int) else m.mantissa) (-m.exponent))
  | .infinite _ => none

/-- The magnitude of a finite number as an exact fraction. -/
def fraction (m : Magnitude) : Nat × Nat :=
  scaleFraction m.mantissa 1 m.exponent

/-- Is this one of the two zeros? -/
def isZero : Binary64 → Bool
  | .finite _ m => m.mantissa = 0
  | .infinite _ => false

/-- The integer part: the fraction is dropped. -/
def truncate? : Binary64 → Option Int
  | .finite negative m =>
    let (num, den) := fraction m
    let whole : Int := (num / den : Nat)
    some (if negative then -whole else whole)
  | .infinite _ => none

/-- Sum and difference of finite numbers, rounded once; with an infinity on either side the first
infinite operand decides. -/
def add (x y : Binary64) : Binary64 :=
  match x.toDyadic?, y.toDyadic? with
  | some a, some b => ofDyadic (a + b)
  | none, _ => x
  | _, none => y

/-- The number with the other sign. -/
def neg : Binary64 → Binary64
  | .finite negative m => .finite (!negative) m
  | .infinite negative => .infinite (!negative)

/-- The difference, rounded once. -/
def sub (x y : Binary64) : Binary64 :=
  x.add y.neg

/-- Is the number below the integer `i`? -/
def isBelow (x : Binary64) (i : Int) : Bool :=
  match x.toDyadic? with
  | some d => d < (i : Dyadic)
  | none => x.isNegative

end Binary64

end Stencil
