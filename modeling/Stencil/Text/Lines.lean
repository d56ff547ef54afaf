/-!
# Lines of a text

Two ways to cut a text into lines. Quotations in messages break at every kind of line end: line
feed, carriage return, both together, vertical tab, form feed, the three upper separators, next
line, and the line and paragraph separators. Files read as text know only the first three kinds.
-/

namespace Stencil

/-- Does a line of a quotation end with `c`? -/
def isLineEnd (c : Char) : Bool :=
  c ∈ ['\n', '\r', '\x0b', '\x0c', '\x1c', '\x1d', '\x1e', '\x85', '\u2028', '\u2029']

/-- The lines of a text, the characters in `line` (last first) already read of the first one. A line
end at the end of the text opens no further line. -/
def splitLinesFrom (line : List Char) : List Char → List (List Char)
  | [] => if line.isEmpty then [] else [line.reverse]
  | '\r' :: '\n' :: rest => line.reverse :: splitLinesFrom [] rest
  | c :: rest =>
    if isLineEnd c then line.reverse :: splitLinesFrom [] rest else splitLinesFrom (c :: line) rest

/-- The lines of a text, without their ends. -/
def splitLines (cs : List Char) : List (List Char) :=
  splitLinesFrom [] cs

/-- What a file shows when it is read as text: every carriage return, alone or with the line feed
after it, is read as one line feed. -/
def readNewlines : List Char → List Char
  | [] => []
  | '\r' :: '\n' :: rest => '\n' :: readNewlines rest
  | c :: rest => (if c = '\r' then '\n' else c) :: readNewlines rest

theorem readNewlines_eq_self {cs : List Char} (h : '\r' ∉ cs) : readNewlines cs = cs := by
  fun_induction readNewlines cs with
  | case1 => rfl
  | case2 => simp at h
  | case3 c rest _ ih =>
    have other : c ≠ '\r' := fun e => h (by simp [e])
    simp [other, ih (fun m => h (by simp [m]))]

theorem not_mem_readNewlines (cs : List Char) : '\r' ∉ readNewlines cs := by
  fun_induction readNewlines cs with
  | case1 => simp
  | case2 rest ih => simpa using ih
  | case3 c rest _ ih =>
    by_cases e : c = '\r'
    · simpa [e] using ih
    · simpa [e, eq_comm] using ih

end Stencil
