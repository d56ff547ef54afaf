import Stencil.Text.Digit

/-!
# Paths on a disk

A path is a row of names, below the root of the disk or below the working directory. Empty names and
the name `.` are dropped when a path is read, while `..` is kept, because where it leads depends on the
disk. `resolve` takes each `..` back by the rules of names alone.
-/

namespace Stencil

/-- Where a path starts. -/
inductive PathStart where
  | working
  | root
  /-- A path written with exactly two slashes in front, which are kept. -/
  | doubleRoot
  deriving DecidableEq

/-- A path: its start and the names on the way. -/
structure DiskPath where
  start : PathStart
  names : List String
  deriving DecidableEq

namespace DiskPath

/-- The parts of a text between slashes. -/
def splitSlashes (cs : List Char) : List String :=
  (cs.splitOn '/').map String.ofList

/-- The name that leads to the directory above. -/
def above : String := ".."

/-- The names in a text, without the empty ones and `.`. -/
def readNames (cs : List Char) : List String :=
  (splitSlashes cs).filter fun name => name ≠ "" ∧ name ≠ "."

/-- Where the path that a text writes starts. -/
def readStart (cs : List Char) : PathStart :=
  match cs.takeWhile (· = '/') with
  | [] => .working
  | ['/', '/'] => .doubleRoot
  | _ => .root

/-- The path that a text writes. -/
def read (s : String) : DiskPath :=
  ⟨readStart s.toList, readNames s.toList⟩

/-- The slashes in front of a path. -/
def startText : PathStart → String
  | .working => ""
  | .root => "/"
  | .doubleRoot => "//"

/-- The path as text. -/
def text (p : DiskPath) : String :=
  if p.start = .working ∧ p.names = [] then "." else startText p.start ++ "/".intercalate p.names

/-- Does the path start at the root? -/
def isAbsolute (p : DiskPath) : Bool :=
  p.start ≠ .working

/-- The path `q` as seen from `p`: a path that starts at the root stays as it is. -/
def join (p q : DiskPath) : DiskPath :=
  if q.isAbsolute then q else ⟨p.start, p.names ++ q.names⟩

/-- The path of a name in a directory. -/
def child (p : DiskPath) (name : String) : DiskPath :=
  ⟨p.start, p.names ++ [name]⟩

/-- The path without its last name. -/
def parent (p : DiskPath) : DiskPath :=
  ⟨p.start, p.names.dropLast⟩

/-- Does a name of the path hold the character that no file's name can hold? -/
def hasNull (p : DiskPath) : Bool :=
  p.names.any (·.toList.contains '\x00')

/-- The last name of a path. -/
def name (p : DiskPath) : String :=
  p.names.getLast?.getD ""

/-- One name further from a place, by the rules of names alone. -/
def step (place : List String) (name : String) : List String :=
  if name = above then place.dropLast else place ++ [name]

/-- The place below the root that a path denotes by the rules of names alone, with the working directory
at `working`. -/
def resolve (working : List String) (p : DiskPath) : List String :=
  p.names.foldl step (if p.isAbsolute then [] else working)

/-- The path of a place, counted from the working directory if it lies below that. -/
def ofPlace (working place : List String) : DiskPath :=
  if working.isPrefixOf place then ⟨.working, place.drop working.length⟩ else ⟨.root, place⟩

/-- Does a place lie in a directory, or is it the directory itself? -/
def isInside (directory place : List String) : Bool :=
  directory.isPrefixOf place

theorem above_not_mem_resolve {working : List String} {p : DiskPath} (h : above ∉ working) :
    above ∉ p.resolve working := by
  have steps (names place : List String) (hp : above ∉ place) : above ∉ names.foldl step place := by
    induction names generalizing place with
    | nil => exact hp
    | cons name rest ih =>
      refine ih _ ?_
      unfold step
      split
      · exact fun m => hp ((List.dropLast_sublist place).subset m)
      · rename_i other
        simp [hp, Ne.symm other]
  unfold resolve
  split
  · exact steps _ _ (by simp)
  · exact steps _ _ h

end DiskPath

end Stencil
