import Stencil.Number.Binary64

/-!
# The shortest text of a floating-point number

A finite number is written with the fewest decimal digits that read back as the same number, and
among those with the nearest. For each count of digits only the two neighbours of the number on the
grid of that many digits can be the answer. The digits are then laid out positionally or with an
exponent, as a `Layout` says.
-/

namespace Stencil

/-- A decimal `digits * 10 ^ exponent`. -/
structure Scientific where
  digits : Nat
  exponent : Int
  deriving DecidableEq

namespace Scientific

/-- The exponent of the highest power of ten not above the fraction, found from a nearby guess. -/
def floorLog10 (num den : Nat) : Int :=
  let isAtLeast (e : Int) : Bool :=
    if 0 ≤ e then den * Nat.pow 10 e.toNat ≤ num else den ≤ num * Nat.pow 10 (-e).toNat
  let guess : Int := ((num.log2 : Int) - den.log2) * 30103 / 100000
  if isAtLeast (guess + 1) then guess + 1
  else if isAtLeast guess then guess
  else guess - 1

/-- The neighbours of a fraction on the grid of multiples of `10 ^ place`, the nearer one first (the
even one of two equally near), and the fraction itself if it lies on the grid. -/
def neighbours (num den : Nat) (place : Int) : List Scientific :=
  let (num, den) :=
    if 0 ≤ place then (num, den * Nat.pow 10 place.toNat) else (num * Nat.pow 10 (-place).toNat, den)
  let below := num / den
  let rest := num % den
  if rest = 0 then [⟨below, place⟩]
  else if 2 * rest < den ∨ (2 * rest = den ∧ below % 2 = 0) then [⟨below, place⟩, ⟨below + 1, place⟩]
  else [⟨below + 1, place⟩, ⟨below, place⟩]

/-- The decimal of at most `count` significant digits that reads back as `m`, if there is one. -/
def withDigits? (m : Magnitude) (count : Nat) : Option Scientific :=
  let (num, den) := Binary64.fraction m
  let place := floorLog10 num den - (count - 1 : Nat)
  (neighbours num den place).find? fun s => Binary64.ofDecimal false s.digits s.exponent = .finite false m

/-- The shortest decimal that reads back as `m`; seventeen digits always suffice. -/
def shortest (m : Magnitude) : Scientific :=
  ((List.range 17).findSome? fun i => withDigits? m (i + 1)).getD ⟨0, 0⟩

theorem reads_back_of_withDigits? {m : Magnitude} {count : Nat} {s : Scientific}
    (h : withDigits? m count = some s) :
    Binary64.ofDecimal false s.digits s.exponent = .finite false m := by
  simpa using List.find?_some h

end Scientific

/-- How digits are laid out as text. -/
structure Layout where
  /-- The least decimal exponent of the first digit that is written positionally. -/
  least : Int
  /-- The greatest decimal exponent of the first digit that is written positionally. -/
  greatest : Int
  /-- Is a whole number given the fraction `.0`? -/
  wholeFraction : Bool
  /-- The least number of digits in an exponent. -/
  exponentWidth : Nat
  /-- The text of infinity. -/
  infinity : String
  /-- The text of what is no number. -/
  notANumber : String

/-- The layout of floating-point numbers in output and messages. -/
def Layout.output : Layout := ⟨-4, 15, true, 2, "inf", "nan"⟩

/-- The layout of floating-point numbers in canonical data: as in output, save for the names of
infinity and of what is no number. -/
def Layout.canonical : Layout := ⟨-4, 15, true, 2, "Infinity", "NaN"⟩

namespace Layout

/-- Digits in front of the point, digits after it. -/
def positional (layout : Layout) (digits : List Char) (first : Int) : List Char :=
  if first < 0 then '0' :: '.' :: List.replicate (-first - 1).toNat '0' ++ digits
  else
    let whole := first.toNat + 1
    let front := digits.take whole ++ List.replicate (whole - digits.length) '0'
    match digits.drop whole with
    | [] => if layout.wholeFraction then front ++ ['.', '0'] else front
    | rest => front ++ '.' :: rest

/-- One digit in front of the point, the others after it, and the exponent with its sign. -/
def scientific (layout : Layout) (digits : List Char) (first : Int) : List Char :=
  let mantissa := match digits with
    | [] => []
    | [d] => [d]
    | d :: rest => d :: '.' :: rest
  let power := Nat.toDigits 10 first.natAbs
  mantissa ++ 'e' :: (if first < 0 then '-' else '+') ::
    List.replicate (layout.exponentWidth - power.length) '0' ++ power

/-- The text of a magnitude. -/
def magnitude (layout : Layout) (m : Magnitude) : List Char :=
  if m.mantissa = 0 then layout.positional ['0'] 0
  else
    let s := Scientific.shortest m
    let written := Nat.toDigits 10 s.digits
    let digits := (written.reverse.dropWhile (· == '0')).reverse
    let first := s.exponent + (written.length - 1 : Nat)
    if layout.least ≤ first ∧ first ≤ layout.greatest then layout.positional digits first
    else layout.scientific digits first

/-- The text of a number. -/
def text (layout : Layout) (x : Binary64) : String :=
  let sign := if x.isNegative then "-" else ""
  match x with
  | .finite _ m => sign ++ String.ofList (layout.magnitude m)
  | .infinite _ => sign ++ layout.infinity

end Layout

end Stencil
