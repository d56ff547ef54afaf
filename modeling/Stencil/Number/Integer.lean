import Stencil.Text.Blank
import Stencil.Text.Digit

/-!
# Reading integers

An integer is written with decimal digits of any script, an optional sign in front, blanks around
it (information separators excepted), and single underscores between digits. `read?` is the number that
such a text writes; `read` refuses in addition a text with more than `greatestLength` digits, however
small their number is. The decimal text of an integer is limited in the same way.
-/

namespace Stencil.Integer

/-- The number whose decimal digits follow those of `high`; an underscore may stand between two
digits. `none` if a character is no digit or an underscore is misplaced. -/
def readDigits (high : Nat) : List Char → Option Nat
  | [] => none
  | [c] => (digitValue? c).map (10 * high + ·)
  | c :: '_' :: rest => (digitValue? c).bind fun d => readDigits (10 * high + d) rest
  | c :: rest => (digitValue? c).bind fun d => readDigits (10 * high + d) rest

/-- May `c` stand around an integer? -/
def isMargin (c : Char) : Bool :=
  isBlank c && !(28 ≤ c.toNat && c.toNat ≤ 31)

/-- The text without margins. -/
def trimmed (cs : List Char) : List Char :=
  ((cs.dropWhile isMargin).reverse.dropWhile isMargin).reverse

/-- The integer written by a text, if it is one. -/
def read? (cs : List Char) : Option Int :=
  match trimmed cs with
  | '-' :: digits => (readDigits 0 digits).map fun n => -(n : Int)
  | '+' :: digits => (readDigits 0 digits).map Int.ofNat
  | digits => (readDigits 0 digits).map Int.ofNat

/-- The greatest number of digits that are converted, from a text or into one. -/
def greatestLength : Nat := 4300

/-- Why a text is not converted. -/
inductive Refusal where
  | notInteger
  /-- The digits at its start are too many, whatever follows them. -/
  | tooLong (digits : Nat)
  deriving DecidableEq

/-- The characters of a text that may be digits of an integer: those behind margins and a sign, as far as they are
digits and underscores. -/
def digitRun (cs : List Char) : List Char :=
  (match trimmed cs with
    | '-' :: rest | '+' :: rest => rest
    | cs => cs).takeWhile fun c => isDecimalDigit c || c = '_'

/-- The number of the digits at the start of a text, if they are too many. -/
def excess? (cs : List Char) : Option Nat :=
  let digits := (digitRun cs).countP isDecimalDigit
  if greatestLength < digits ∧ (readDigits 0 (digitRun cs)).isSome then some digits else none

/-- The integer written by a text that is one and has not too many digits. -/
def read (cs : List Char) : Except Refusal Int :=
  match excess? cs, read? cs with
  | some digits, _ => .error (.tooLong digits)
  | none, some i => .ok i
  | none, none => .error .notInteger

/-- Are the digits of the number few enough for its decimal text? -/
def isWritable (i : Int) : Bool :=
  i.natAbs < Nat.pow 10 greatestLength

/-- How many characters of a text that is no integer are shown. -/
def shownWidth : Nat := 200

/-- The message about a text that is no integer, given in quotes. -/
def invalidMessage (shown : String) : String :=
  "invalid literal for int() with base 10: " ++ String.ofList (shown.toList.take shownWidth)

/-- The message about too many digits: their number, where it is a text that is to be converted. -/
def excessMessage (digits : Option Nat) : String :=
  "Exceeds the limit (" ++ toString greatestLength ++ " digits) for integer string conversion"
    ++ ((digits.map fun n => ": value has " ++ toString n ++ " digits").getD "")
    ++ "; use sys.set_int_max_str_digits() to increase the limit"

/-- The message about a text that is not converted, given in quotes. -/
def Refusal.message (shown : String) : Refusal → String
  | notInteger => invalidMessage shown
  | tooLong digits => excessMessage (some digits)

end Stencil.Integer
