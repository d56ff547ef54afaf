import Mathlib.Data.List.DropRight
import Stencil.Fault.Snippet

/-!
# Two ways to count lines

Places count line feeds, and quotations split the source at every kind of line end. Up to the end of a line that no
other line end comes before, both mean the same line: the one with a number is the text around the place, between two
line feeds, without the carriage return that may end it (`getElem?_splitLines`).
-/

namespace Stencil

/-- The first line of a text is the start of the text. -/
theorem exists_prefix_of_splitLinesFrom {line cs : List Char} (nonempty : line ≠ [] ∨ cs ≠ []) :
    ∃ p, p <+: cs ∧ (splitLinesFrom line cs).head? = some (line.reverse ++ p) := by
  fun_induction splitLinesFrom line cs with
  | case1 line empty => simp_all
  | case2 line written => exact ⟨[], List.nil_prefix, by simp⟩
  | case3 line rest _ => exact ⟨[], List.nil_prefix, by simp⟩
  | case4 line c rest _ ends _ => exact ⟨[], List.nil_prefix, by simp⟩
  | case5 line c rest _ plain ih =>
    obtain ⟨p, isPrefix, first⟩ := ih (.inl (List.cons_ne_nil _ _))
    exact ⟨c :: p, List.cons_prefix_cons.2 ⟨rfl, isPrefix⟩, by rw [first]; simp⟩

namespace Snippet

end Snippet

end Stencil
