/-!
# Classes of characters as ranges

A class of characters is given by the ranges of its code points, in ascending order and without
overlap, so that a search may stop at the first range that begins too late.
-/

namespace Stencil

/-- Ranges of code points, both ends included. -/
abbrev Ranges := List (Nat × Nat)

/-- Does `n` lie in one of the ranges? -/
def Ranges.has : Ranges → Nat → Bool
  | [], _ => false
  | (low, high) :: rest, n => if n < low then false else n ≤ high || Ranges.has rest n

theorem Ranges.exists_of_has {ranges : Ranges} {n : Nat} (h : ranges.has n) :
    ∃ r ∈ ranges, r.1 ≤ n ∧ n ≤ r.2 := by
  induction ranges with
  | nil => simp [Ranges.has] at h
  | cons r rest ih =>
    simp only [Ranges.has] at h
    split at h
    · simp at h
    · simp only [Bool.or_eq_true, decide_eq_true_eq] at h
      rcases h with h | h
      · exact ⟨r, by simp, by omega, h⟩
      · obtain ⟨q, mem, bounds⟩ := ih h
        exact ⟨q, by simp [mem], bounds⟩

end Stencil
