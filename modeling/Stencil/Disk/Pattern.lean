import Stencil.Disk.Path

/-!
# Patterns of names

A pattern is a row of parts between slashes. In a part, `*` stands for any characters, `?` for one, and a
class in square brackets for one out of it; a part `**` stands for any row of directories. Only a part of
its own may hold two stars in a row.
-/

namespace Stencil

/-- One character of a pattern's part. -/
inductive Glyph where
  | any
  | one
  | literal (c : Char)
  /-- A character of a class: a row of ranges, or everything outside of them. -/
  | among (negated : Bool) (ranges : List (Char × Char))
  deriving DecidableEq

namespace Glyph

/-- The ranges that the inside of a class writes. -/
def readRanges : List Char → List (Char × Char)
  | a :: '-' :: b :: rest => (a, b) :: readRanges rest
  | a :: rest => (a, a) :: readRanges rest
  | [] => []

/-- The inside of a class up to its closing bracket, and what follows. A bracket right at the start, or
right behind the sign of negation, belongs to the class. -/
def splitClass? (cs : List Char) : Option (Bool × List Char × List Char) :=
  let (negated, cs) := match cs with
    | '!' :: rest => (true, rest)
    | _ => (false, cs)
  let (first, cs) := match cs with
    | ']' :: rest => ([']'], rest)
    | _ => ([], cs)
  match cs.dropWhile (· ≠ ']') with
  | ']' :: rest => some (negated, first ++ cs.takeWhile (· ≠ ']'), rest)
  | _ => none

/-- The glyphs of a part. `count` bounds their number; the length of the part suffices. -/
def readAll : (count : Nat) → List Char → List Glyph
  | 0, _ => []
  | _, [] => []
  | count + 1, '*' :: rest => any :: readAll count rest
  | count + 1, '?' :: rest => one :: readAll count rest
  | count + 1, '[' :: rest =>
    match splitClass? rest with
    | some (negated, inside, rest) => .among negated (readRanges inside) :: readAll count rest
    | none => literal '[' :: readAll count rest
  | count + 1, c :: rest => literal c :: readAll count rest

/-- Can a glyph other than `any` stand for a character? -/
def accepts (g : Glyph) (c : Char) : Bool :=
  match g with
  | any | one => true
  | literal d => c = d
  | .among negated ranges => ranges.any (fun (a, b) => a ≤ c && c ≤ b) != negated

/-- Can the glyphs stand for all of the characters? -/
def acceptAll : List Glyph → List Char → Bool
  | [], cs => cs.isEmpty
  | any :: glyphs, cs => (List.range (cs.length + 1)).any fun n => acceptAll glyphs (cs.drop n)
  | _ :: _, [] => false
  | g :: glyphs, c :: cs => g.accepts c && acceptAll glyphs cs

end Glyph

/-- A part of a pattern: any row of directories, the names that some glyphs stand for, or one name. -/
inductive PatternPart where
  | directories
  | names (glyphs : List Glyph)
  | name (name : String)
  deriving DecidableEq

/-- A pattern: its parts, and whether it ends with a slash, which only directories fit. -/
structure Pattern where
  parts : List PatternPart
  directory : Bool
  deriving DecidableEq

namespace Pattern

/-- Are there two stars in a row? -/
def hasTwoStars : List Char → Bool
  | '*' :: '*' :: _ => true
  | _ :: rest => hasTwoStars rest
  | [] => false

/-- Does a character make a part stand for other names than its own? -/
def isSign (c : Char) : Bool :=
  c = '*' || c = '?' || c = '['

/-- The part that a text writes, if it is one. -/
def readPart? (s : String) : Option PatternPart :=
  if s = "**" then some .directories
  else if hasTwoStars s.toList then none
  else if s.toList.any isSign then some (.names (Glyph.readAll s.length s.toList))
  else some (.name s)

/-- The pattern that a text writes, if it is one. -/
def read? (s : String) : Option Pattern :=
  ((DiskPath.readNames s.toList).mapM readPart?).map fun parts =>
    ⟨parts, s.toList.getLast? = some '/'⟩

end Pattern

end Stencil
