import Stencil.Disk
import Stencil.Disk.Pattern

/-!
# Selections

The files below a directory that fit a pattern are found by going down from the directory part by part: where
a part stands for several names the directory is listed, where it is one name the path is looked up, and what
is found in the end is asked whether it is a file. Each path that is asked on the way must be short enough.
-/

namespace Stencil

namespace DiskPath

/-- The path that leads on by the given names. -/
def below (p : DiskPath) (names : List String) : DiskPath :=
  ⟨p.start, p.names ++ names⟩

theorem below_nil (p : DiskPath) : p.below [] = p := by
  rw [below, List.append_nil]

end DiskPath

namespace Disk

/-- The directories at and below a place, each by the names that lead to it from there. Nothing is called `..`. -/
def directoriesAt (d : Disk) (place : List String) : List (List String) :=
  [] :: d.nodes.filterMap fun (q, node) =>
    let names := q.drop place.length
    if !node.isFile && DiskPath.isInside place q && names ≠ [] && !names.contains DiskPath.above then some names
    else none

/-- The names in the directory at a place of the nodes that `keep` picks, each as a row of names. -/
def pickAt (d : Disk) (keep : String → DiskNode → Bool) (place : List String) : List (List String) :=
  ((d.namesAt place).filter fun name =>
    name ≠ DiskPath.above && (d.node? (place ++ [name])).any (keep name)).map ([·])

/-- What is found from several starting points, up to the first failure. -/
def gather (search : List String → Except DiskFault (List (List String))) :
    List (List String) → Except DiskFault (List (List String))
  | [] => .ok []
  | names :: rest => do
    let found ← search names
    .ok (found ++ (← gather search rest))

/-- The files that fit the parts of a pattern, from where `names` lead to from `root`. If `only` is set then the last
part leads to directories, as all others do, so that no file fits. -/
def selectParts (d : Disk) (root : DiskPath) (only : Bool) :
    List PatternPart → List String → Except DiskFault (List (List String))
  | [], names => do
    if ← d.isFile (root.below names) then .ok [names] else .ok []
  | .directories :: parts, names => do
    let directories ← d.inDirectory (root.below names) d.directoriesAt
    gather (fun more => do
      let found ← selectParts d root only parts (names ++ more)
      let _ ← d.names (root.below (names ++ more))
      .ok found) directories
  | .names glyphs :: parts, names => do
    let leadsOn := parts ≠ [] || only
    let entries ← d.inDirectory (root.below names) <| d.pickAt fun name node =>
      !(leadsOn && node.isFile) && Glyph.acceptAll glyphs name.toList
    gather (fun more => selectParts d root only parts (names ++ more)) entries
  | .name name :: parts, names => do
    let leadsOn := parts ≠ [] || only
    let found ← d.find? (root.below (names ++ [name]))
    if found.any fun node => !(leadsOn && node.isFile) then selectParts d root only parts (names ++ [name])
    else .ok []

/-- The files below a directory that fit a pattern, wherever they are found, each by the names that lead to it. -/
def select (d : Disk) (root : DiskPath) (pattern : Pattern) : Except DiskFault (List (List String)) :=
  d.selectParts root pattern.directory (.directories :: pattern.parts) []

end Disk

end Stencil
