import Stencil.Text.Ranges

/-!
# Blanks

Spaces, line breaks and the four information separators count as blank. Texts are stripped of
blanks at both ends before they are read.
-/

namespace Stencil

/-- The code points of blank characters. -/
def blankRanges : Ranges :=
  [(9, 13), (28, 32), (133, 133), (160, 160), (5760, 5760), (8192, 8202), (8232, 8233), (8239,
   8239), (8287, 8287), (12288, 12288)]

/-- Is `c` a blank? -/
def isBlank (c : Char) : Bool :=
  blankRanges.has c.toNat

/-- The text without the blanks at its start. -/
def stripStart (cs : List Char) : List Char :=
  cs.dropWhile isBlank

/-- The text without the blanks at its end. -/
def stripEnd (cs : List Char) : List Char :=
  (cs.reverse.dropWhile isBlank).reverse

/-- The text without the blanks at both ends. -/
def strip (cs : List Char) : List Char :=
  stripEnd (stripStart cs)

/-- `strip` on strings. -/
def stripped (s : String) : String :=
  String.ofList (strip s.toList)

end Stencil
