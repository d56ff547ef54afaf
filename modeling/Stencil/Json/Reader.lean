import Stencil.Number.Binary64
import Stencil.Number.Integer
import Stencil.Number.Numeral
import Stencil.Value.Equality

/-!
# Reading JSON

Data files are JSON. Objects become maps that keep the order of their members, a repeated member taking
the last value; numbers with a point or an exponent become floating-point numbers, all others integers
of any size. The words `NaN`, `Infinity` and `-Infinity` are numbers too. A text that is no JSON is
answered with the place where reading had to stop; an integer with too many digits to be converted is
answered without one.
-/

namespace Stencil.Json

/-- Why a text is not read: a message, and the text from the place in question on if there is one. -/
structure Fault where
  message : String
  rest : Option (List Char)

/-- Is `c` a blank of JSON? -/
def isBlank (c : Char) : Bool :=
  c = ' ' || c = '\t' || c = '\n' || c = '\r'

/-- The text without the blanks at its start. -/
def skipBlanks (cs : List Char) : List Char :=
  cs.dropWhile isBlank

/-- The value of a hexadecimal digit. -/
def hexValue? (c : Char) : Option Nat :=
  if c.isDigit then some (c.toNat - '0'.toNat)
  else if 'a' ≤ c ∧ c ≤ 'f' then some (c.toNat - 'a'.toNat + 10)
  else if 'A' ≤ c ∧ c ≤ 'F' then some (c.toNat - 'A'.toNat + 10)
  else none

/-- The value of four hexadecimal digits. -/
def hex4? (a b c d : Char) : Option Nat := do
  some (4096 * (← hexValue? a) + 256 * (← hexValue? b) + 16 * (← hexValue? c) + (← hexValue? d))

/-- Is `n` the first half of a pair that denotes one character? -/
def isHighHalf (n : Nat) : Bool := 0xd800 ≤ n && n < 0xdc00

/-- Is `n` the second half of a pair that denotes one character? -/
def isLowHalf (n : Nat) : Bool := 0xdc00 ≤ n && n < 0xe000

/-- The character with the given code; half of a pair has none of its own. -/
def charOfCode (n : Nat) : Char :=
  if isHighHalf n || isLowHalf n then '\ufffd' else Char.ofNat n

/-- The character that a backslash and `c` stand for. -/
def simpleEscape? (c : Char) : Option Char :=
  match c with
  | '"' | '\\' | '/' => some c
  | 'b' => some '\x08'
  | 'f' => some '\x0c'
  | 'n' => some '\n'
  | 'r' => some '\r'
  | 't' => some '\t'
  | _ => none

/-- The fault of an escape by code that starts with the letter `u` of `rest`. -/
def badCode (rest : List Char) : Except Fault (List Char × List Char) :=
  .error ⟨"Invalid \\uXXXX escape", some rest⟩

/-- The rest of a text in quotes, and what follows the closing one. `opening` is the text from the
opening quote on. -/
def readChars (opening : List Char) : List Char → Except Fault (List Char × List Char)
  | [] => .error ⟨"Unterminated string starting at", some (opening)⟩
  | '"' :: rest => .ok ([], rest)
  | ['\\'] => .error ⟨"Unterminated string starting at", some (opening)⟩
  | '\\' :: 'u' :: a :: b :: c :: d :: '\\' :: 'u' :: e :: f :: g :: h :: next :: rest =>
    match hex4? a b c d with
    | none => badCode ('u' :: a :: b :: c :: d :: '\\' :: 'u' :: e :: f :: g :: h :: next :: rest)
    | some high =>
      if isHighHalf high then
        match hex4? e f g h with
        | none => badCode ('u' :: e :: f :: g :: h :: next :: rest)
        | some low =>
          if isLowHalf low then
            (readChars opening (next :: rest)).map fun (cs, rest) =>
              (Char.ofNat (0x10000 + 0x400 * (high - 0xd800) + (low - 0xdc00)) :: cs, rest)
          else
            (readChars opening ('\\' :: 'u' :: e :: f :: g :: h :: next :: rest)).map fun (cs, rest) =>
              (charOfCode high :: cs, rest)
      else
        (readChars opening ('\\' :: 'u' :: e :: f :: g :: h :: next :: rest)).map fun (cs, rest) =>
          (charOfCode high :: cs, rest)
  | '\\' :: 'u' :: a :: b :: c :: d :: next :: rest =>
    match hex4? a b c d with
    | none => badCode ('u' :: a :: b :: c :: d :: next :: rest)
    | some code => (readChars opening (next :: rest)).map fun (cs, rest) => (charOfCode code :: cs, rest)
  | '\\' :: 'u' :: rest => badCode ('u' :: rest)
  | '\\' :: c :: rest =>
    match simpleEscape? c with
    | some meant => (readChars opening rest).map fun (cs, rest) => (meant :: cs, rest)
    | none => .error ⟨"Invalid \\escape", '\\' :: c :: rest⟩
  | c :: rest =>
    if c.toNat < 0x20 then .error ⟨"Invalid control character at", some (c :: rest)⟩
    else (readChars opening rest).map fun (cs, rest) => (c :: cs, rest)

/-- The digits of the whole part of a number and what follows: one zero, or digits of which the first is
none. -/
def readWhole? (cs : List Char) : Option (List Char × List Char) :=
  match cs with
  | '0' :: rest => some (['0'], rest)
  | c :: _ => if c.isDigit then some (cs.takeWhile Char.isDigit, cs.dropWhile Char.isDigit) else none
  | [] => none

/-- The digits behind a point, if there are any, and what follows. -/
def readPlaces? (cs : List Char) : Option (List Char × List Char) :=
  match cs with
  | '.' :: rest =>
    match rest.takeWhile Char.isDigit with
    | [] => none
    | places => some (places, rest.dropWhile Char.isDigit)
  | _ => none

/-- The exponent, if there is one, and what follows. -/
def readExponent? (cs : List Char) : Option (Int × List Char) :=
  match cs with
  | e :: rest =>
    if e ≠ 'e' ∧ e ≠ 'E' then none
    else
      let (negative, digits) := match rest with
        | '-' :: digits => (true, digits)
        | '+' :: digits => (false, digits)
        | digits => (false, digits)
      match digits.takeWhile Char.isDigit with
      | [] => none
      | power =>
        let n : Int := Numeral.ofDigits power
        some (if negative then -n else n, digits.dropWhile Char.isDigit)
  | [] => none

/-- The number at the start of a text, unless it is an integer with too many digits, and what follows. -/
def readNumber? (cs : List Char) : Option (Except Fault Value × List Char) :=
  let (negative, unsigned) := match cs with
    | '-' :: rest => (true, rest)
    | _ => (false, cs)
  (readWhole? unsigned).map fun (whole, rest) =>
    let places := readPlaces? rest
    let rest := (places.map (·.2)).getD rest
    let exponent := readExponent? rest
    let rest := (exponent.map (·.2)).getD rest
    if places.isNone && exponent.isNone then
      let n : Int := Numeral.ofDigits whole
      (if Integer.greatestLength < whole.length then .error ⟨Integer.excessMessage (some whole.length), none⟩
        else .ok (.int (if negative then -n else n)), rest)
    else
      let fraction := (places.map (·.1)).getD []
      let power := (exponent.map (·.1)).getD 0
      (.ok (.float (Binary64.ofDecimal negative (Numeral.ofDigits (whole ++ fraction))
        (power - fraction.length))), rest)

/-- The words of JSON and what they stand for. -/
def words : List (String × Value) :=
  [("null", .null), ("true", .bool true), ("false", .bool false), ("NaN", .notANumber 0),
    ("Infinity", .float (.infinite false)), ("-Infinity", .float (.infinite true))]

/-- The word at the start of a text and what follows. -/
def readWord? (cs : List Char) : Option (Value × List Char) :=
  words.findSome? fun (word, value) =>
    if word.toList.isPrefixOf cs then some (value, cs.drop word.length) else none

mutual

/-- The value at the start of a text and what follows. `depth` bounds the number of steps; the length of
the text suffices. -/
def readValue : (depth : Nat) → List Char → Except Fault (Value × List Char)
  | 0, cs => .error ⟨"Expecting value", some cs⟩
  | depth + 1, cs =>
    match cs with
    | '"' :: rest => (readChars cs rest).map fun (chars, rest) => (.text (String.ofList chars), rest)
    | '{' :: rest =>
      match skipBlanks rest with
      | '}' :: rest => .ok (.map [], rest)
      | rest => (readMembers depth rest).map fun (members, rest) => (Value.mapOf members, rest)
    | '[' :: rest =>
      match skipBlanks rest with
      | ']' :: rest => .ok (.list [], rest)
      | rest => (readItems depth rest).map fun (items, rest) => (.list items, rest)
    | _ =>
      match ((readWord? cs).map fun (value, rest) => (.ok value, rest)).or (readNumber? cs) with
      | some (.ok value, rest) => .ok (value, rest)
      | some (.error fault, _) => .error fault
      | none => .error ⟨"Expecting value", some cs⟩

/-- The items of an array up to its end, and what follows. -/
def readItems : (depth : Nat) → List Char → Except Fault (List Value × List Char)
  | 0, cs => .error ⟨"Expecting value", some cs⟩
  | depth + 1, cs => do
    let (item, rest) ← readValue depth cs
    match skipBlanks rest with
    | ']' :: rest => .ok ([item], rest)
    | ',' :: rest => (readItems depth (skipBlanks rest)).map fun (items, rest) => (item :: items, rest)
    | rest => .error ⟨"Expecting ',' delimiter", some rest⟩

/-- The members of an object up to its end, and what follows. -/
def readMembers : (depth : Nat) → List Char → Except Fault (List (Value × Value) × List Char)
  | 0, cs => .error ⟨"Expecting value", some cs⟩
  | depth + 1, cs =>
    match cs with
    | '"' :: rest => do
      let (name, rest) ← readChars cs rest
      match skipBlanks rest with
      | ':' :: rest =>
        let (value, rest) ← readValue depth (skipBlanks rest)
        let member := (.text (String.ofList name), value)
        match skipBlanks rest with
        | '}' :: rest => .ok ([member], rest)
        | ',' :: rest =>
          (readMembers depth (skipBlanks rest)).map fun (members, rest) => (member :: members, rest)
        | rest => .error ⟨"Expecting ',' delimiter", some rest⟩
      | rest => .error ⟨"Expecting ':' delimiter", some rest⟩
    | _ => .error ⟨"Expecting property name enclosed in double quotes", some cs⟩

end

/-- The value that a whole text writes. -/
def readText (cs : List Char) : Except Fault Value :=
  if cs.head? = some '\ufeff' then .error ⟨"Unexpected UTF-8 BOM (decode using utf-8-sig)", some cs⟩
  else do
    let (value, rest) ← readValue (2 * cs.length + 2) (skipBlanks cs)
    match skipBlanks rest with
    | [] => .ok value
    | rest => .error ⟨"Extra data", some rest⟩

/-- A fault with the place, if any, at which it came up in the text `cs`. -/
def Fault.text (f : Fault) (cs : List Char) : String :=
  match f.rest with
  | none => f.message
  | some rest =>
    let offset := cs.length - rest.length
    let before := cs.take offset
    let line := before.count '\n' + 1
    let column := (before.reverse.takeWhile (· ≠ '\n')).length + 1
    f.message ++ ": line " ++ toString line ++ " column " ++ toString column ++ " (char " ++ toString offset ++ ")"

/-- The value that a JSON text writes, or the text of the fault. -/
def read (s : String) : Except String Value :=
  match readText s.toList with
  | .ok value => .ok value
  | .error fault => .error (fault.text s.toList)

end Stencil.Json
