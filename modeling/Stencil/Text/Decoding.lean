import Stencil.Text.Casing
import Stencil.Text.Quoted

/-!
# Texts as bytes

Texts are written to files in UTF-8 and read back in one of three encodings. Bytes that encode no text
are answered with the place and the length of the first run that makes no sense: a byte that can begin
no character, a character that is broken off by a wrong byte, or one that is broken off by the end.
-/

namespace Stencil

/-- Why bytes encode no text. -/
inductive DecodingReason where
  | invalidStart
  | invalidContinuation
  | unexpectedEnd
  | outOfRange
  deriving DecidableEq

/-- The reason in words. -/
def DecodingReason.words : DecodingReason → String
  | invalidStart => "invalid start byte"
  | invalidContinuation => "invalid continuation byte"
  | unexpectedEnd => "unexpected end of data"
  | outOfRange => "ordinal not in range(128)"

/-- The first run of bytes that makes no sense: its first byte, its place and its length. -/
structure DecodingFault where
  first : UInt8
  position : Nat
  length : Nat
  reason : DecodingReason
  deriving DecidableEq

/-- The text of the fault, for the encoding of the given name. -/
def DecodingFault.message (f : DecodingFault) (encoding : String) : String :=
  let what :=
    if f.length = 1 then
      "byte 0x" ++ String.ofList (hexDigits 2 f.first.toNat) ++ " in position " ++ toString f.position
    else "bytes in position " ++ toString f.position ++ "-" ++ toString (f.position + f.length - 1)
  "'" ++ encoding ++ "' codec can't decode " ++ what ++ ": " ++ f.reason.words

namespace Utf8

/-- The byte after the first one of a character that carries the six bits `n`. -/
def continuation (n : Nat) : UInt8 :=
  UInt8.ofNat (0x80 + n % 64)

/-- The bytes of a character. -/
def encodeChar (c : Char) : List UInt8 :=
  let n := c.toNat
  if n < 0x80 then [UInt8.ofNat n]
  else if n < 0x800 then [UInt8.ofNat (0xc0 + n / 64), continuation n]
  else if n < 0x10000 then [UInt8.ofNat (0xe0 + n / 4096), continuation (n / 64), continuation n]
  else
    [UInt8.ofNat (0xf0 + n / 262144), continuation (n / 4096), continuation (n / 64), continuation n]

/-- The bytes of a text. -/
def encode (cs : List Char) : List UInt8 :=
  cs.flatMap encodeChar

/-- A character of which some bytes have been read: the first of them, the bits so far, how many bytes
they are, the bounds of the next byte, and how many follow that one. -/
structure Pending where
  first : UInt8
  high : Nat
  read : Nat
  least : Nat
  greatest : Nat
  later : Nat

/-- What the first byte of a character of several bytes says. -/
def pending? (b : UInt8) : Option Pending :=
  let n := b.toNat
  if n < 0xc2 then none
  else if n < 0xe0 then some ⟨b, n - 0xc0, 1, 0x80, 0xbf, 0⟩
  else if n < 0xf0 then
    some ⟨b, n - 0xe0, 1, if n = 0xe0 then 0xa0 else 0x80, if n = 0xed then 0x9f else 0xbf, 1⟩
  else if n < 0xf5 then
    some ⟨b, n - 0xf0, 1, if n = 0xf0 then 0x90 else 0x80, if n = 0xf4 then 0x8f else 0xbf, 2⟩
  else none

/-- The characters of bytes from `position` on, with part of a character perhaps read already. -/
def decodeFrom (pending : Option Pending) (position : Nat) :
    List UInt8 → Except DecodingFault (List Char)
  | [] =>
    match pending with
    | none => .ok []
    | some p => .error ⟨p.first, position - p.read, p.read, .unexpectedEnd⟩
  | b :: rest =>
    match pending with
    | none =>
      if b.toNat < 0x80 then (decodeFrom none (position + 1) rest).map (Char.ofNat b.toNat :: ·)
      else
        match pending? b with
        | none => .error ⟨b, position, 1, .invalidStart⟩
        | some p => decodeFrom (some p) (position + 1) rest
    | some p =>
      if p.least ≤ b.toNat ∧ b.toNat ≤ p.greatest then
        let high := 64 * p.high + (b.toNat - 0x80)
        match p.later with
        | 0 => (decodeFrom none (position + 1) rest).map (Char.ofNat high :: ·)
        | later + 1 => decodeFrom (some ⟨p.first, high, p.read + 1, 0x80, 0xbf, later⟩) (position + 1) rest
      else .error ⟨p.first, position - p.read, p.read, .invalidContinuation⟩

/-- The text that bytes encode. -/
def decode (bytes : List UInt8) : Except DecodingFault (List Char) :=
  decodeFrom none 0 bytes

end Utf8

/-- How a file encodes a text. -/
inductive Encoding where
  | utf8
  | latin1
  | ascii
  deriving DecidableEq

namespace Encoding

/-- The name of an encoding in messages. -/
def name : Encoding → String
  | utf8 => "utf-8"
  | latin1 => "latin-1"
  | ascii => "ascii"

/-- The encoding of the given name, in any case, with hyphens, underscores or blanks. -/
def ofName? (name : String) : Option Encoding :=
  let plain := (lowered name).map fun c => if c = '-' ∨ c = ' ' then '_' else c
  if plain ∈ ["utf_8", "utf8", "u8", "utf", "cp65001"] then some utf8
  else if plain ∈ ["latin_1", "latin1", "latin", "iso_8859_1", "iso8859_1", "iso8859", "8859", "cp819",
    "l1"] then some latin1
  else if plain ∈ ["ascii", "us_ascii", "646"] then some ascii
  else none

/-- The characters of bytes of seven bits from `position` on. -/
def decodeAscii (position : Nat) : List UInt8 → Except DecodingFault (List Char)
  | [] => .ok []
  | b :: rest =>
    if b.toNat < 0x80 then (decodeAscii (position + 1) rest).map (Char.ofNat b.toNat :: ·)
    else .error ⟨b, position, 1, .outOfRange⟩

/-- The text that bytes encode. -/
def decode (e : Encoding) (bytes : List UInt8) : Except DecodingFault (List Char) :=
  match e with
  | utf8 => Utf8.decode bytes
  | latin1 => .ok (bytes.map fun b => Char.ofNat b.toNat)
  | ascii => decodeAscii 0 bytes

end Encoding

end Stencil
