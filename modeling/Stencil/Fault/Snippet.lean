import Stencil.Text.Lines

/-!
# Quoted source lines

A few numbered lines of a template around the one that failed, the failing line marked and a caret
drawn under a column if one is known.
-/

namespace Stencil

/-- `n` blanks. -/
def blanks (n : Nat) : String :=
  String.ofList (List.replicate n ' ')

/-- A line number in at least three places. -/
def lineNumber (n : Int) : String :=
  let digits := toString n
  blanks (3 - digits.length) ++ digits

/-- Numbered lines around a failing line. -/
structure Snippet where
  lines : List (Int × String)
  errorLine : Int
  column : Option Int

namespace Snippet

/-- The items from index `first` up to index `stop`; a negative `stop` counts from the end. -/
def slice {α : Type} (items : List α) (first : Nat) (stop : Int) : List α :=
  let stop := if stop < 0 then (items.length + stop).toNat else stop.toNat
  (items.take stop).drop first

/-- The lines of `source` around `line`, `context` of them on either side. -/
def cut (source : String) (line : Int) (context : Int) (column : Option Int) : Snippet :=
  let first := max 1 (line - context)
  let window := slice (splitLines source.toList) (first - 1).toNat (line + context)
  ⟨window.mapIdx fun i cs => (first + i, String.ofList cs), line, column⟩

/-- The two lines on either side of `line`. -/
def around (source : String) (line : Int) : Snippet :=
  cut source line 2 none

/-- The snippet as text. -/
def text (s : Snippet) : String :=
  let numbered := s.lines.map fun (n, line) =>
    (if n = s.errorLine then ">" else " ") ++ lineNumber n ++ " | " ++ line
  let caret := s.column.toList.map fun column => "    | " ++ blanks column.toNat ++ "^"
  "\n".intercalate ("    |" :: numbered ++ caret ++ ["    |"])

end Snippet

end Stencil
