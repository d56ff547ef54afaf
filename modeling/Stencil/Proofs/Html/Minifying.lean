import Stencil.Html.Minify
import Stencil.Proofs.Number.Integers
import Stencil.Proofs.Success
import Stencil.Proofs.Text.Runs

/-!
# When minification fails

Minification puts a placeholder where a protected element stands, and the element back in the end. It can fail
in one way only: a placeholder is found that was not put in, and then it stood in the text before. Either its number
was not given out, or it has too many digits (`Html.exists_placeholder_of_minify`). None of the steps in between can
make one, because of its spelling: behind its first character there is no `<`, with which all that is put in begins,
and in front of its last one no `>`, behind which blanks are removed.
-/

namespace Stencil.Html

/-- A text that is spelled like a placeholder with the digits, of any script. -/
structure IsPlaceholder (digits p : List Char) : Prop where
  nonempty : digits ≠ []
  inside : ∀ c ∈ digits, isDecimalDigit c
  spelled : p = '<' :: '\x00' :: (digits ++ ['\x00', '>'])

theorem isPlaceholder_placeholder (number : Nat) : IsPlaceholder (Nat.toDigits 10 number) (placeholder number) := by
  obtain ⟨nonempty, inside, -⟩ := Integer.toDigits_spec number
  exact ⟨nonempty, inside, rfl⟩

theorem not_mem_digits {c : Char} (other : isDecimalDigit c = false) {digits : List Char}
    (inside : ∀ d ∈ digits, isDecimalDigit d) : c ∉ digits := by
  intro mem
  rw [inside c mem] at other
  cases other

theorem IsPlaceholder.eq_cons {digits p : List Char} (h : IsPlaceholder digits p) :
    ∃ q, p = '<' :: q ∧ '<' ∉ q := by
  obtain ⟨-, inside, rfl⟩ := h
  refine ⟨_, rfl, ?_⟩
  have := not_mem_digits (c := '<') (by decide +kernel) inside
  simpa using this

/-- A placeholder is recognized by its own text, whatever follows. -/
theorem readPlaceholder?_eq_some_iff {cs rest digits : List Char} :
    readPlaceholder? cs = some (digits, rest) ↔ ∃ p, IsPlaceholder digits p ∧ cs = p ++ rest := by
  constructor
  · intro h
    unfold readPlaceholder? at h
    split at h
    · next behind =>
      split at h
      · next first more after found stop =>
        obtain ⟨rfl, rfl⟩ := Prod.mk.inj (Option.some.inj h)
        obtain ⟨split, inside, -⟩ := takeWhile_dropWhile_spec isDecimalDigit behind
        rw [found] at inside split
        refine ⟨_, ⟨List.cons_ne_nil _ _, inside, rfl⟩, ?_⟩
        rw [stop] at split
        simpa using split
      · cases h
    · cases h
  · rintro ⟨p, ⟨nonempty, inside, rfl⟩, rfl⟩
    have stop : beginsWith isDecimalDigit ('\x00' :: '>' :: rest) = false := by
      rw [beginsWith_cons]
      decide +kernel
    have whole : digits ++ ['\x00', '>'] ++ rest = digits ++ '\x00' :: '>' :: rest := by simp
    rw [List.cons_append, List.cons_append, whole, readPlaceholder?, dropWhile_append_of_stop inside stop,
      takeWhile_append_of_stop inside stop]
    obtain ⟨first, more, rfl⟩ := List.exists_cons_of_ne_nil nonempty
    rfl

/-! ## Putting elements back -/

/-- The digits that were given out for an element lead back to it. -/
theorem stashed_toDigits {elements : List (List Char)} {number : Nat} {element : List Char}
    (given : elements[number]? = some element) : stashed elements (Nat.toDigits 10 number) = .ok element := by
  obtain ⟨nonempty, inside, value⟩ := Integer.toDigits_spec number
  have own : given? elements (Nat.toDigits 10 number) = some element := by
    rw [given?, Integer.read?_digits nonempty inside, value]
    exact (if_pos rfl).trans given
  rw [stashed, own]

end Stencil.Html
