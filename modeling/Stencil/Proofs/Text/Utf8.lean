import Stencil.Text.Decoding
import Mathlib.Data.List.Basic

/-!
# Reading back what was encoded

Every text is read back from its UTF-8 bytes. A character of several bytes is read byte by byte: the first
byte says how many follow and what the next one may be, and `pendingAfter` is what the reader then knows.
-/

namespace Stencil.Utf8

theorem toNat_continuation (n : Nat) : (continuation n).toNat = 0x80 + n % 64 := by
  have small : 0x80 + n % 64 < 256 := by omega
  simp only [continuation, UInt8.toNat_ofNat', Nat.reducePow]
  omega

theorem toNat_ofNat {n : Nat} (small : n < 256) : (UInt8.ofNat n).toNat = n := by
  simp only [UInt8.toNat_ofNat', Nat.reducePow]
  omega

/-- No character is in the range that is set apart for surrogates, and none is beyond the last one. -/
theorem toNat_valid (c : Char) : c.toNat < 0xd800 ∨ (0xdfff < c.toNat ∧ c.toNat < 0x110000) :=
  c.valid

variable {position : Nat} {rest : List UInt8}

/-- The last byte of a character completes it. -/
theorem decodeFrom_last {p : Pending} {n : Nat} (last : p.later = 0)
    (low : p.least ≤ 0x80 + n % 64) (high : 0x80 + n % 64 ≤ p.greatest) :
    decodeFrom (some p) position (continuation n :: rest)
      = (decodeFrom none (position + 1) rest).map (Char.ofNat (64 * p.high + n % 64) :: ·) := by
  rw [decodeFrom, toNat_continuation, if_pos ⟨low, high⟩]
  simp only [last, Nat.add_sub_cancel_left]

/-- A byte in the middle of a character adds its six bits. -/
theorem decodeFrom_middle {p : Pending} {n later : Nat} (more : p.later = later + 1)
    (low : p.least ≤ 0x80 + n % 64) (high : 0x80 + n % 64 ≤ p.greatest) :
    decodeFrom (some p) position (continuation n :: rest)
      = decodeFrom (some ⟨p.first, 64 * p.high + n % 64, p.read + 1, 0x80, 0xbf, later⟩) (position + 1) rest := by
  rw [decodeFrom, toNat_continuation, if_pos ⟨low, high⟩]
  simp only [more, Nat.add_sub_cancel_left]

/-- The first byte of a character of several bytes is followed by what it announces. -/
theorem decodeFrom_first {n : Nat} {p : Pending} (small : n < 256) (large : 0x80 ≤ n)
    (announced : pending? (UInt8.ofNat n) = some p) :
    decodeFrom none position (UInt8.ofNat n :: rest) = decodeFrom (some p) (position + 1) rest := by
  rw [decodeFrom, toNat_ofNat small, if_neg (by omega), announced]

theorem decodeFrom_encodeChar (position : Nat) (c : Char) (rest : List UInt8) :
    ∃ after, decodeFrom none position (encodeChar c ++ rest) = (decodeFrom none after rest).map (c :: ·) := by
  have valid := toNat_valid c
  have same := Char.ofNat_toNat c
  unfold encodeChar
  generalize c.toNat = n at valid same
  dsimp only
  split
  · next one =>
    refine ⟨position + 1, ?_⟩
    rw [List.singleton_append, decodeFrom, toNat_ofNat (by omega), if_pos one, same]
  · split
    · next many two =>
      have first : pending? (UInt8.ofNat (0xc0 + n / 64))
          = some ⟨UInt8.ofNat (0xc0 + n / 64), n / 64, 1, 0x80, 0xbf, 0⟩ := by
        simp only [pending?, toNat_ofNat (show 0xc0 + n / 64 < 256 by omega)]
        rw [if_neg (by omega), if_pos (by omega), Nat.add_sub_cancel_left]
      refine ⟨position + 2, ?_⟩
      rw [List.cons_append, List.singleton_append, decodeFrom_first (by omega) (by omega) first,
        decodeFrom_last rfl (by simp) (by simp; omega)]
      rw [show 64 * (n / 64) + n % 64 = n by omega, same]
    · split
      · next many more three =>
        have first : pending? (UInt8.ofNat (0xe0 + n / 4096))
            = some ⟨UInt8.ofNat (0xe0 + n / 4096), n / 4096, 1, if 0xe0 + n / 4096 = 0xe0 then 0xa0 else 0x80,
              if 0xe0 + n / 4096 = 0xed then 0x9f else 0xbf, 1⟩ := by
          simp only [pending?, toNat_ofNat (show 0xe0 + n / 4096 < 256 by omega)]
          rw [if_neg (by omega), if_neg (by omega), if_pos (by omega), Nat.add_sub_cancel_left]
        refine ⟨position + 3, ?_⟩
        rw [List.cons_append, List.cons_append, List.singleton_append, decodeFrom_first (by omega) (by omega) first,
          decodeFrom_middle rfl (by dsimp only; split <;> omega) (by dsimp only; split <;> omega),
          decodeFrom_last rfl (by simp) (by simp; omega)]
        dsimp only
        rw [show 64 * (64 * (n / 4096) + n / 64 % 64) + n % 64 = n by omega, same]
      · next many more four =>
        have first : pending? (UInt8.ofNat (0xf0 + n / 262144))
            = some ⟨UInt8.ofNat (0xf0 + n / 262144), n / 262144, 1, if 0xf0 + n / 262144 = 0xf0 then 0x90 else 0x80,
              if 0xf0 + n / 262144 = 0xf4 then 0x8f else 0xbf, 2⟩ := by
          simp only [pending?, toNat_ofNat (show 0xf0 + n / 262144 < 256 by omega)]
          rw [if_neg (by omega), if_neg (by omega), if_neg (by omega), if_pos (by omega), Nat.add_sub_cancel_left]
        refine ⟨position + 4, ?_⟩
        rw [List.cons_append, List.cons_append, List.cons_append, List.singleton_append,
          decodeFrom_first (by omega) (by omega) first,
          decodeFrom_middle rfl (by dsimp only; split <;> omega) (by dsimp only; split <;> omega),
          decodeFrom_middle rfl (by simp) (by simp; omega), decodeFrom_last rfl (by simp) (by simp; omega)]
        dsimp only
        rw [show 64 * (64 * (64 * (n / 262144) + n / 4096 % 64) + n / 64 % 64) + n % 64 = n by omega, same]

/-- A text is read back from its bytes. -/
theorem decode_encode (cs : List Char) : decode (encode cs) = .ok cs := by
  have each (position : Nat) : decodeFrom none position (encode cs) = .ok cs := by
    induction cs generalizing position with
    | nil => rfl
    | cons c rest ih =>
      obtain ⟨after, first⟩ := decodeFrom_encodeChar position c (encode rest)
      rw [encode, List.flatMap_cons]
      rw [show rest.flatMap encodeChar = encode rest from rfl, first, ih after]
      rfl
  exact each 0

end Stencil.Utf8
