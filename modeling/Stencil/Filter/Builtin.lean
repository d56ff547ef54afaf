import Stencil.Filter.Basic
import Stencil.Number.Numeral
import Stencil.Text.Casing

/-!
# Built-in filters

The thirteen filters that every engine starts with: sizes, cases, trimming, rounding to a whole number
and to stars, and the two names under which a value is declared to be trusted markup.
-/

namespace Stencil.Filter

/-- A change of the characters that a value prints as; the result is plain text. -/
def onOutput (f : List Char → List Char) : Filter :=
  fun v => v.print.map fun s => .text (String.ofList (f s.toList))

/-- The number of items, entries, bytes or characters; of anything else the length of its output. -/
def length : Filter :=
  fun v =>
    match v.size? with
    | some size => .ok (.int size)
    | none => v.print.map fun s => .int s.length

/-- The nearest whole number, halves away from zero, of a truth value or of anything that prints as a
decimal numeral. -/
def roundHalfAway (name : String) (v : Value) : Except Fault Int :=
  match v with
  | .bool b => .ok (if b then 1 else 0)
  | _ =>
    match v.write with
    | .error fault => .error fault
    | .ok s =>
      match Numeral.read? s.toList with
      | none => .error (v.refusedBy name "a number")
      | some (.infinite _) | some .notANumber => .error (v.refusedBy name "a finite number")
      | some (.finite negative digits exponent) =>
        match Numeral.round? negative digits exponent with
        | some n => .ok n
        | none => .error .tooManyDigits

/-- The nearest whole number. -/
def round : Filter :=
  fun v => (roundHalfAway "round" v).map .int

/-- The number of stars of a full rating. -/
def maxStars : Nat := 5

/-- `filled` full stars, and empty ones up to `maxStars`. -/
def starText (filled : Nat) : String :=
  String.ofList (List.replicate filled '★' ++ List.replicate (maxStars - filled) '☆')

/-- A rating as stars, from none to five. -/
def stars : Filter :=
  fun v => (roundHalfAway "stars" v).map fun n => .text (starText (min (max n 0) (maxStars : Int)).toNat)

/-- The output of the value as trusted markup. -/
def raw : Filter :=
  fun v => v.print.map .markup

/-- The built-in filters, in order. -/
def builtins : List (String × Filter) :=
  [("length", length), ("count", length), ("upper", onOutput Stencil.upper),
    ("uppercase", onOutput Stencil.upper), ("lower", onOutput Stencil.lower),
    ("lowercase", onOutput Stencil.lower), ("capitalize", onOutput Stencil.capitalize),
    ("trim", onOutput strip), ("title", onOutput Stencil.title), ("round", round), ("stars", stars),
    ("raw", raw), ("safe", raw)]

end Stencil.Filter

namespace Stencil

/-- The table that an engine starts with. -/
def FilterTable.standard : FilterTable :=
  ⟨Filter.builtins, 0⟩

end Stencil
