/-!
# Positions

A place in a source: the line, counted from one, and the column in it, counted from zero. Only a line
feed begins a new line.
-/

namespace Stencil

/-- A place in a source. -/
structure Position where
  line : Nat
  column : Nat
  deriving DecidableEq

namespace Position

/-- The place of the first character. -/
def start : Position := ⟨1, 0⟩

/-- The place behind the character `c` that stands at `p`. -/
def next (p : Position) (c : Char) : Position :=
  if c = '\n' then ⟨p.line + 1, 0⟩ else ⟨p.line, p.column + 1⟩

/-- The place behind a text that begins at `p`. -/
def after (p : Position) (cs : List Char) : Position :=
  cs.foldl next p

theorem after_append (p : Position) (cs ds : List Char) :
    p.after (cs ++ ds) = (p.after cs).after ds :=
  List.foldl_append

/-- The line behind a text is that of its start and one more for each line feed in it. -/
theorem line_after (p : Position) (cs : List Char) :
    (p.after cs).line = p.line + cs.count '\n' := by
  induction cs generalizing p with
  | nil => rfl
  | cons c rest ih =>
    have step : (p.next c).line = p.line + if c = '\n' then 1 else 0 := by
      unfold next; split <;> rfl
    rw [show p.after (c :: rest) = (p.next c).after rest from rfl, ih, step, List.count_cons]
    by_cases h : c = '\n' <;> simp [h]
    omega

end Position

end Stencil
