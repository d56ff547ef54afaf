import Stencil.Proofs.Text.Pairs
import Stencil.Text.Digit
import Stencil.Token.Piece

/-!
# Classes of characters apart from each other

Blanks, the characters of names, decimal digits and the signs of the language do not overlap where a reader
must tell them apart by one character.
-/

namespace Stencil

theorem isNameChar_of_isBlank {c : Char} (h : isBlank c) : isNameChar c = false :=
  not_of_isBlank (by decide) h

theorem isDecimalDigit_of_isBlank {c : Char} (h : isBlank c) : isDecimalDigit c = false :=
  not_of_isBlank (by decide +kernel) h

theorem not_dot_of_isBlank {c : Char} (h : isBlank c) : c ≠ '.' := by
  rintro rfl
  exact absurd h (by decide)

theorem isDecimalDigit_minus : isDecimalDigit '-' = false := by decide +kernel

theorem isDecimalDigit_dot : isDecimalDigit '.' = false := by decide +kernel

theorem toNat_lt_of_isNameStart {c : Char} (h : isNameStart c) : c.toNat < 128 := by
  have ranges : ((decide (c.val ≥ 65 ∧ c.val ≤ 90) || (decide (c.val ≥ 97) && decide (c.val ≤ 122)))
      || decide (c = '_')) = true := h
  simp only [Bool.or_eq_true, Bool.and_eq_true, decide_eq_true_eq, ge_iff_le, UInt32.le_iff_toNat_le] at ranges
  rcases ranges with (h | h) | rfl
  · exact Nat.lt_of_le_of_lt h.2 (by decide)
  · exact Nat.lt_of_le_of_lt h.2 (by decide)
  · decide

/-- What holds of the first 128 characters holds of every ASCII character. -/
theorem of_ascii {p : Char → Prop} (each : ∀ n, n < 128 → p (Char.ofNat n)) {c : Char} (small : c.toNat < 128) : p c := by
  have here := each c.toNat small
  rwa [Char.ofNat_toNat] at here

theorem isDecimalDigit_of_isNameStart {c : Char} (h : isNameStart c) : isDecimalDigit c = false :=
  of_ascii (p := fun c => isNameStart c → isDecimalDigit c = false) (by decide +kernel) (toNat_lt_of_isNameStart h) h

/-- A class that no blank and no delimiter belongs to has solid characters only. -/
theorem isSolid_of_class {p : Char → Bool} (blank : ∀ c, isBlank c → p c = false)
    (delimiter : p '{' = false ∧ p '%' = false ∧ p '}' = false) {c : Char} (h : p c) : isSolid c := by
  rw [isSolid, Bool.and_eq_true, Bool.not_eq_true', Bool.not_eq_true', ← Bool.not_eq_true, ← Bool.not_eq_true]
  constructor
  · intro isBlank
    rw [blank c isBlank] at h
    cases h
  · intro delimits
    simp only [isDelimiter, Bool.or_eq_true, decide_eq_true_eq] at delimits
    obtain ⟨opens, percent, closes⟩ := delimiter
    rcases delimits with (rfl | rfl) | rfl
    · rw [opens] at h
      cases h
    · rw [percent] at h
      cases h
    · rw [closes] at h
      cases h

theorem isSolid_of_isNameChar {c : Char} (h : isNameChar c) : isSolid c :=
  isSolid_of_class (fun _ => isNameChar_of_isBlank) (by decide) h

theorem isSolid_of_isDecimalDigit {c : Char} (h : isDecimalDigit c) : isSolid c :=
  isSolid_of_class (fun _ => isDecimalDigit_of_isBlank) (by decide +kernel) h

end Stencil
