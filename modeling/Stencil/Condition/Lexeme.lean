import Stencil.Number.Binary64
import Stencil.Number.Integer
import Stencil.Text.Blank
import Stencil.Text.Digit
import Stencil.Text.Word
import Stencil.Token.Piece
import Stencil.Value.Basic

/-!
# Lexemes of conditions

A condition is a row of quoted texts, numbers, operators and dotted names, each as long as possible,
with blanks between them. A number may not run into a word or a point.
-/

namespace Stencil

/-- An operator of a condition. -/
inductive Operator where
  | equals
  | differs
  | bar
  deriving DecidableEq

/-- The operator as it is written. -/
def Operator.text : Operator → String
  | equals => "=="
  | differs => "!="
  | bar => "|"

/-- A part of a condition, with the characters it is written with. -/
inductive Lexeme where
  | quoted (literal : List Char)
  | number (literal : List Char)
  | operator (op : Operator)
  | name (chars : List Char)
  deriving DecidableEq

namespace Lexeme

/-- The lexeme as it is written. -/
def text : Lexeme → String
  | quoted literal => String.ofList literal
  | number literal => String.ofList literal
  | operator op => op.text
  | name chars => String.ofList chars

/-- The rest of a quoted text, with its closing quote, and what follows it. A backslash takes the
next character with it. -/
def readQuoted? (quote : Char) : List Char → Option (List Char × List Char)
  | [] => none
  | '\\' :: c :: rest => (readQuoted? quote rest).map fun (body, rest) => ('\\' :: c :: body, rest)
  | c :: rest =>
    if c = quote then some ([c], rest)
    else if c = '\\' then none
    else (readQuoted? quote rest).map fun (body, rest) => (c :: body, rest)

/-- Must a number not be followed by `c`? -/
def isNumberTail (c : Char) : Bool :=
  isWordChar c || c = '.'

/-- The fraction of a number, if there is a point with digits behind it, and what follows it. -/
def readFraction (cs : List Char) : List Char × List Char :=
  match cs with
  | '.' :: tail =>
    match tail.takeWhile isDecimalDigit with
    | [] => ([], cs)
    | places => ('.' :: places, tail.dropWhile isDecimalDigit)
  | _ => ([], cs)

/-- The number without a sign at the start of a text and what follows it. -/
def readUnsigned? (cs : List Char) : Option (List Char × List Char) :=
  let whole := cs.takeWhile isDecimalDigit
  let (fraction, rest) := readFraction (cs.dropWhile isDecimalDigit)
  if whole.isEmpty || rest.head?.any isNumberTail then none else some (whole ++ fraction, rest)

/-- The number at the start of a text and what follows it. -/
def readNumber? : List Char → Option (List Char × List Char)
  | '-' :: rest => (readUnsigned? rest).map fun (literal, rest) => ('-' :: literal, rest)
  | cs => readUnsigned? cs

/-- The lexeme at the start of a text and what follows it. -/
def read? (cs : List Char) : Option (Lexeme × List Char) :=
  match cs with
  | '\'' :: rest => (readQuoted? '\'' rest).map fun (body, rest) => (quoted ('\'' :: body), rest)
  | '"' :: rest => (readQuoted? '"' rest).map fun (body, rest) => (quoted ('"' :: body), rest)
  | '=' :: '=' :: rest => some (operator .equals, rest)
  | '!' :: '=' :: rest => some (operator .differs, rest)
  | '|' :: rest => some (operator .bar, rest)
  | _ =>
    match readNumber? cs with
    | some (literal, rest) => some (number literal, rest)
    | none => (readPath? cs).map fun (chars, rest) => (name chars, rest)

theorem length_lt_of_readQuoted? {quote : Char} {cs body rest : List Char}
    (h : readQuoted? quote cs = some (body, rest)) : rest.length < cs.length := by
  fun_induction readQuoted? quote cs generalizing body with
  | case1 => simp at h
  | case2 c tail ih =>
    obtain ⟨⟨body', rest'⟩, found, same⟩ := Option.map_eq_some_iff.1 h
    simp only [Prod.mk.injEq] at same
    have := ih (same.2 ▸ found)
    simp only [List.length_cons]; omega
  | case3 tail _ => simp only [Option.some.injEq, Prod.mk.injEq] at h; simp [← h.2]
  | case4 => simp at h
  | case5 c tail _ _ _ ih =>
    obtain ⟨⟨body', rest'⟩, found, same⟩ := Option.map_eq_some_iff.1 h
    simp only [Prod.mk.injEq] at same
    have := ih (same.2 ▸ found)
    simp only [List.length_cons]; omega

theorem length_readFraction_le (cs : List Char) : (readFraction cs).2.length ≤ cs.length := by
  unfold readFraction
  split
  · next tail =>
    have := length_dropWhile_le isDecimalDigit tail
    split
    · simp
    · simp only [List.length_cons]; omega
  · simp

theorem length_lt_of_readUnsigned? {cs literal rest : List Char}
    (h : readUnsigned? cs = some (literal, rest)) : rest.length < cs.length := by
  unfold readUnsigned? at h
  dsimp only at h
  split at h
  · simp at h
  · next ok =>
    simp only [Bool.or_eq_true, not_or, List.isEmpty_iff] at ok
    have whole := congrArg List.length (List.takeWhile_append_dropWhile (p := isDecimalDigit) (l := cs))
    have digits := List.length_pos_iff.2 ok.1
    have behind := length_readFraction_le (cs.dropWhile isDecimalDigit)
    simp only [Option.some.injEq, Prod.mk.injEq] at h
    simp only [List.length_append] at whole
    rw [h.2] at behind
    omega

theorem length_lt_of_readNumber? {cs literal rest : List Char}
    (h : readNumber? cs = some (literal, rest)) : rest.length < cs.length := by
  unfold readNumber? at h
  split at h
  · next tail =>
    obtain ⟨⟨literal', rest'⟩, found, same⟩ := Option.map_eq_some_iff.1 h
    simp only [Prod.mk.injEq] at same
    have := length_lt_of_readUnsigned? (same.2 ▸ found)
    simp only [List.length_cons]; omega
  · exact length_lt_of_readUnsigned? h

theorem length_lt_of_readPath? {cs path rest : List Char} (h : readPath? cs = some (path, rest)) :
    rest.length < cs.length := by
  obtain ⟨⟨name, afterName⟩, named, same⟩ := Option.map_eq_some_iff.1 h
  have h1 := length_lt_of_readName? named
  have h2 := Piece.length_readSegments_le afterName
  simp only [Prod.mk.injEq] at same
  rw [same.2] at h2
  omega

theorem length_lt_of_read? {cs rest : List Char} {l : Lexeme} (h : read? cs = some (l, rest)) :
    rest.length < cs.length := by
  unfold read? at h
  split at h
  case h_1 tail =>
    obtain ⟨⟨body, rest'⟩, found, same⟩ := Option.map_eq_some_iff.1 h
    simp only [Prod.mk.injEq] at same
    have := length_lt_of_readQuoted? found
    simp only [List.length_cons, ← same.2]; omega
  case h_2 tail =>
    obtain ⟨⟨body, rest'⟩, found, same⟩ := Option.map_eq_some_iff.1 h
    simp only [Prod.mk.injEq] at same
    have := length_lt_of_readQuoted? found
    simp only [List.length_cons, ← same.2]; omega
  case h_3 | h_4 | h_5 =>
    obtain ⟨-, rfl⟩ := Prod.mk.inj (Option.some.inj h)
    simp only [List.length_cons]; omega
  case h_6 =>
    split at h
    · next literal rest' found =>
      simp only [Option.some.injEq, Prod.mk.injEq] at h
      exact h.2 ▸ length_lt_of_readNumber? found
    · obtain ⟨⟨path, rest'⟩, found, same⟩ := Option.map_eq_some_iff.1 h
      simp only [Prod.mk.injEq] at same
      exact same.2 ▸ length_lt_of_readPath? found

/-- The lexemes of a text that does not end in a blank, or else the text from the first character on
that belongs to none. -/
def readAll (cs : List Char) : Except (List Char) (List Lexeme) :=
  if cs.isEmpty then .ok []
  else
    match _found : read? (cs.dropWhile isBlank) with
    | some (lexeme, rest) => (readAll rest).map (lexeme :: ·)
    | none => .error cs
termination_by cs.length
decreasing_by
  have h1 := length_lt_of_read? _found
  have h2 := length_dropWhile_le isBlank cs
  omega

/-- Every occurrence of `old` replaced by `new`, from left to right. -/
def replaceAll (old : Char × Char) (new : Char) : List Char → List Char
  | a :: b :: rest =>
    if (a, b) = old then new :: replaceAll old new rest else a :: replaceAll old new (b :: rest)
  | cs => cs

/-- The text between the quotes of a literal: an escaped quote is the quote, a doubled backslash is
one backslash, and any other backslash is itself. -/
def unquote (literal : List Char) : List Char :=
  match literal with
  | [] => []
  | quote :: rest => replaceAll ('\\', '\\') '\\' (replaceAll ('\\', quote) quote rest.dropLast)

/-- The digits of a text as a number, whatever their script. -/
def digitsValue (digits : List Char) : Nat :=
  digits.foldl (fun n c => 10 * n + (digitValue? c).getD 0) 0

/-- The value of a number: a floating-point number if there is a point, else an integer. -/
def numberValue (literal : List Char) : Value :=
  let (negative, unsigned) := match literal with
    | '-' :: rest => (true, rest)
    | _ => (false, literal)
  match unsigned.dropWhile isDecimalDigit with
  | '.' :: places =>
    .float (Binary64.ofDecimal negative (digitsValue (unsigned.takeWhile isDecimalDigit ++ places))
      (-(places.length : Int)))
  | _ =>
    let n : Int := digitsValue unsigned
    .int (if negative then -n else n)

/-- The number of the digits of an integer, if they are too many to be converted. -/
def excess? (literal : List Char) : Option Nat :=
  let digits := literal.countP isDecimalDigit
  if '.' ∉ literal ∧ Integer.greatestLength < digits then some digits else none

end Lexeme

end Stencil
