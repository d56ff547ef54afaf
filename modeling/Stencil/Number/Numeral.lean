import Stencil.Text.Blank
import Stencil.Text.Digit

/-!
# Decimal numerals and their rounding

A decimal numeral is a sign, digits of any script with an optional point, and an optional exponent,
with blanks around it; underscores anywhere in it are skipped. The words for infinity and for what
is no number are numerals too. Exponents are bounded by `Numeral.greatestExponent` and
`Numeral.leastPlace`: a numeral that would need more is none.

`Numeral.round?` gives the nearest integer, a half away from zero, unless it would need more than
28 digits.
-/

namespace Stencil

/-- What a decimal numeral denotes: `± digits * 10 ^ exponent`, an infinity, or no number. -/
inductive Numeral where
  | finite (negative : Bool) (digits : Nat) (exponent : Int)
  | infinite (negative : Bool)
  | notANumber
  deriving DecidableEq

namespace Numeral

/-- The greatest decimal exponent of a numeral's first digit. -/
def greatestExponent : Int := 999999999999999999

/-- The least decimal exponent of a numeral's last digit. -/
def leastPlace : Int := -1999999999999999997

/-- The most digits that a rounded number may have. -/
def precision : Nat := 28

/-- The characters of a numeral with underscores skipped and every digit in its ASCII form; `none`
if a character can stand in no numeral. -/
def plain? : List Char → Option (List Char)
  | [] => some []
  | c :: rest =>
    if c = '_' then plain? rest
    else if 0 < c.toNat ∧ c.toNat < 128 then (plain? rest).map (c :: ·)
    else (digitValue? c).bind fun d => (plain? rest).map (Nat.digitChar d :: ·)

/-- The number that ASCII digits write. -/
def ofDigits (digits : List Char) : Nat :=
  digits.foldl (fun n c => 10 * n + (c.toNat - '0'.toNat)) 0

/-- The number of digits of `n`, one for zero. -/
def digitCount (n : Nat) : Nat :=
  (Nat.toDigits 10 n).length

/-- The exponent part of a numeral: nothing, or `e`, a sign if wanted, and digits. -/
def readExponent? : List Char → Option Int
  | [] => some 0
  | e :: rest =>
    if e ≠ 'e' ∧ e ≠ 'E' then none
    else
      let (negative, digits) := match rest with
        | '-' :: digits => (true, digits)
        | '+' :: digits => (false, digits)
        | digits => (false, digits)
      if digits.isEmpty || !digits.all Char.isDigit then none
      else some (if negative then -(ofDigits digits : Int) else ofDigits digits)

/-- The digits, point and exponent of a numeral without its sign. -/
def readFinite? (negative : Bool) (cs : List Char) : Option Numeral :=
  let whole := cs.takeWhile Char.isDigit
  let (fraction, rest) := match cs.dropWhile Char.isDigit with
    | '.' :: rest => (rest.takeWhile Char.isDigit, rest.dropWhile Char.isDigit)
    | rest => ([], rest)
  if whole.isEmpty && fraction.isEmpty then none
  else
    (readExponent? rest).bind fun exponent =>
      let digits := ofDigits (whole ++ fraction)
      let place := exponent - fraction.length
      if place + (digitCount digits - 1 : Nat) ≤ greatestExponent ∧ leastPlace ≤ place then
        some (.finite negative digits place)
      else none

/-- A numeral without its sign, in any mix of cases for its words. -/
def readUnsigned? (negative : Bool) (cs : List Char) : Option Numeral :=
  let lower := cs.map Char.toLower
  let word := lower.takeWhile Char.isAlpha
  let after := lower.dropWhile Char.isAlpha
  if word = ['i', 'n', 'f'] ∨ word = ['i', 'n', 'f', 'i', 'n', 'i', 't', 'y'] then
    if after.isEmpty then some (.infinite negative) else none
  else if word = ['n', 'a', 'n'] ∨ word = ['s', 'n', 'a', 'n'] then
    if after.all Char.isDigit then some .notANumber else none
  else readFinite? negative cs

/-- The numeral that a text writes, if it is one. -/
def read? (cs : List Char) : Option Numeral :=
  (plain? (strip cs)).bind fun
    | '-' :: rest => readUnsigned? true rest
    | '+' :: rest => readUnsigned? false rest
    | rest => readUnsigned? false rest

/-- The natural number nearest to `num / den`, a half upwards. -/
def divRoundUp (num den : Nat) : Nat :=
  (2 * num + den) / (2 * den)

/-- The magnitude `digits * 10 ^ exponent` rounded to a natural number, a half upwards, if it has no
more than `precision` digits. -/
def roundMagnitude? (digits : Nat) (exponent : Int) : Option Nat :=
  if digits = 0 then some 0
  else
    let size : Int := digitCount digits + exponent
    if precision < size then none
    else if size < 0 then some 0
    else
      let rounded :=
        if 0 ≤ exponent then digits * Nat.pow 10 exponent.toNat
        else divRoundUp digits (Nat.pow 10 (-exponent).toNat)
      if rounded < Nat.pow 10 precision then some rounded else none

/-- `± digits * 10 ^ exponent` rounded to the nearest integer, a half away from zero, if it has no
more than `precision` digits. -/
def round? (negative : Bool) (digits : Nat) (exponent : Int) : Option Int :=
  (roundMagnitude? digits exponent).map fun n => if negative then -(n : Int) else n

end Numeral

end Stencil
