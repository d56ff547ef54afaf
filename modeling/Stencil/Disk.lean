import Stencil.Disk.Fault
import Stencil.Disk.Path
import Stencil.Number.Binary64

/-!
# Disks

A disk holds files and directories, each at a place: the names that lead to it from the root. Every node
knows when it was last changed. A path is followed name by name, so that `..` leads out of directories
only, and every operation fails exactly as the nodes on its way demand.
-/

namespace Stencil

/-- What stands at a place. -/
inductive DiskNode where
  | file (content : List UInt8) (changed : Binary64)
  | directory (changed : Binary64)
  deriving DecidableEq

namespace DiskNode

/-- When the node was last changed. -/
def changed : DiskNode → Binary64
  | file _ t | directory t => t

/-- The number of bytes of a file. -/
def size : DiskNode → Nat
  | file content _ => content.length
  | directory _ => 0

/-- Is the node a file? -/
def isFile : DiskNode → Bool
  | file _ _ => true
  | directory _ => false

end DiskNode

/-- A disk: the place of the working directory, and the nodes below the root. -/
structure Disk where
  working : List String
  nodes : List (List String × DiskNode)

namespace Disk

/-- What stands at a place. The root is a directory. -/
def node? (d : Disk) (place : List String) : Option DiskNode :=
  if place = [] then some (.directory (.zero false)) else d.nodes.lookup place

/-- The disk with a node at a place. -/
def put (d : Disk) (place : List String) (node : DiskNode) : Disk :=
  { d with nodes := (place, node) :: d.nodes.filter (·.1 ≠ place) }

/-- The disk without the node at a place. -/
def drop (d : Disk) (place : List String) : Disk :=
  { d with nodes := d.nodes.filter (·.1 ≠ place) }

/-- The disk without the node at a place and without everything below it. -/
def dropTree (d : Disk) (place : List String) : Disk :=
  { d with nodes := d.nodes.filter fun (p, _) => !DiskPath.isInside place p }

theorem node?_put_self {d : Disk} {place : List String} {node : DiskNode} (h : place ≠ []) :
    (d.put place node).node? place = some node := by
  simp [node?, put, h]

theorem lookup_filter_ne {α : Type} {place other : List String} (h : other ≠ place)
    (nodes : List (List String × α)) : (nodes.filter (·.1 ≠ place)).lookup other = nodes.lookup other := by
  induction nodes with
  | nil => rfl
  | cons entry rest ih =>
    obtain ⟨p, node⟩ := entry
    by_cases e : p = place
    · have differs : (other == p) = false := by simp [e, h]
      rw [List.lookup_cons, differs]
      simpa [e] using ih
    · simp only [List.filter_cons, ne_eq, e, not_false_eq_true, decide_true, if_true, List.lookup_cons]
      split
      · rfl
      · exact ih

theorem node?_put_other {d : Disk} {place other : List String} {node : DiskNode} (h : other ≠ place) :
    (d.put place node).node? other = d.node? other := by
  simp only [node?, put]
  split
  · rfl
  · have : (other == place) = false := by simpa using h
    simp only [List.lookup_cons, this]
    exact lookup_filter_ne h d.nodes

theorem node?_drop_other {d : Disk} {place other : List String} (h : other ≠ place) :
    (d.drop place).node? other = d.node? other := by
  simp only [node?, drop]
  split
  · rfl
  · exact lookup_filter_ne h d.nodes

theorem node?_drop_self {d : Disk} {place : List String} (h : place ≠ []) :
    (d.drop place).node? place = none := by
  simp only [node?, drop, h, if_false, List.lookup_eq_none_iff]
  intro entry member
  have := (List.mem_filter.1 member).2
  simp only [ne_eq, decide_not, Bool.not_eq_true', decide_eq_false_iff_not] at this
  simpa using Ne.symm this

/-- The greatest number of bytes of a name. -/
def greatestName : Nat := 255

/-- The greatest number of bytes of a path. -/
def greatestPath : Nat := 4095

/-- The place that the names of a path lead to, from a place on. The last name may denote nothing. -/
def walk (d : Disk) : (place : List String) → List String → Except DiskReason (List String)
  | place, [] => .ok place
  | place, name :: rest =>
    match d.node? place with
    | none => .error .missing
    | some (.file _ _) => .error .notDirectory
    | some (.directory _) =>
      if name = DiskPath.above then walk d place.dropLast rest
      else if greatestName < name.utf8ByteSize then .error .nameTooLong
      else walk d (place ++ [name]) rest

/-- The place of a path. -/
def place (d : Disk) (p : DiskPath) : Except DiskReason (List String) :=
  if greatestPath < p.text.utf8ByteSize then .error .nameTooLong
  else d.walk (if p.isAbsolute then [] else d.working) p.names

/-- A failure of an operation on a path. -/
def failure (p : DiskPath) (reason : DiskReason) : DiskFault :=
  .failed reason p.text none

/-- The place of a path, or the failure to get there. -/
def locate (d : Disk) (p : DiskPath) : Except DiskFault (List String) :=
  (d.place p).mapError (failure p)

/-- What a path denotes. -/
def find (d : Disk) (p : DiskPath) : Except DiskFault DiskNode := do
  match d.node? (← d.locate p) with
  | some node => .ok node
  | none => .error (failure p .missing)

/-- What a path denotes, if it denotes anything. -/
def find? (d : Disk) (p : DiskPath) : Except DiskFault (Option DiskNode) :=
  match d.find p with
  | .ok node => .ok (some node)
  | .error fault => if fault.isAbsence then .ok none else .error fault

/-- Does a path denote a file? -/
def isFile (d : Disk) (p : DiskPath) : Except DiskFault Bool :=
  (d.find? p).map fun node => (node.map (·.isFile)).getD false

/-- Does a path denote a directory? -/
def isDirectory (d : Disk) (p : DiskPath) : Except DiskFault Bool :=
  (d.find? p).map fun node => (node.map fun node => !node.isFile).getD false

/-- The content of a file. -/
def read (d : Disk) (p : DiskPath) : Except DiskFault (List UInt8) := do
  match ← d.find p with
  | .file content _ => .ok content
  | .directory _ => .error (failure p .isDirectory)

/-- The names in the directory at a place, in order. -/
def namesAt (d : Disk) (place : List String) : List String :=
  let names := d.nodes.filterMap fun (p, _) => if p.dropLast = place then p.getLast? else none
  names.mergeSort (· ≤ ·)

/-- What is listed for the place of a directory; nothing if the path denotes no directory. -/
def inDirectory {α : Type} (d : Disk) (p : DiskPath) (list : List String → List α) : Except DiskFault (List α) := do
  if ← d.isDirectory p then
    .ok (list (← d.locate p))
  else .ok []

/-- The names in a directory, in order. -/
def names (d : Disk) (p : DiskPath) : Except DiskFault (List String) :=
  d.inDirectory p d.namesAt

/-- A change that leaves the disk as it was if it fails. -/
def outcome (d : Disk) (change : Except DiskFault Disk) : Except DiskFault Unit × Disk :=
  match change with
  | .ok changed => (.ok (), changed)
  | .error fault => (.error fault, d)

/-- Makes a directory in one that is there. -/
def makeDirectory (d : Disk) (clock : Binary64) (p : DiskPath) : Except DiskFault Disk := do
  let place ← d.locate p
  match d.node? place with
  | some _ => .error (failure p .alreadyExists)
  | none => .ok (d.put place (.directory clock))

/-- Makes a directory, unless it is there already. -/
def ensureDirectory (d : Disk) (clock : Binary64) (p : DiskPath) : Except DiskFault Disk :=
  match d.makeDirectory clock p with
  | .ok made => .ok made
  | .error fault =>
    if fault.isMissing then .error fault
    else
      match d.isDirectory p with
      | .ok true => .ok d
      | .ok false => .error fault
      | .error worse => .error worse

/-- Makes a directory and those above it, as far as they are not there. Those that were made before a
failure remain. `depth` bounds how far up the search for an existing one goes; the number of names
suffices. -/
def ensureDirectories (d : Disk) (clock : Binary64) (p : DiskPath) :
    (depth : Nat) → Except DiskFault Unit × Disk
  | 0 => outcome d (d.ensureDirectory clock p)
  | depth + 1 =>
    match d.ensureDirectory clock p with
    | .ok made => (.ok (), made)
    | .error fault =>
      if fault.isMissing ∧ p.names ≠ [] then
        match ensureDirectories d clock p.parent depth with
        | (.ok (), d) => outcome d (d.ensureDirectory clock p)
        | failed => failed
      else (.error fault, d)

/-- Makes a directory and those above it, as far as they are not there. -/
def makeDirectories (d : Disk) (clock : Binary64) (p : DiskPath) : Except DiskFault Unit × Disk :=
  d.ensureDirectories clock p p.names.length

/-- Makes an empty file where nothing is yet. -/
def createFile (d : Disk) (clock : Binary64) (p : DiskPath) : Except DiskFault Disk := do
  let place ← d.locate p
  match d.node? place with
  | some _ => .error (failure p .alreadyExists)
  | none => .ok (d.put place (.file [] clock))

/-- Adds bytes to the end of a file. -/
def append (d : Disk) (clock : Binary64) (p : DiskPath) (bytes : List UInt8) : Except DiskFault Disk := do
  let place ← d.locate p
  match d.node? place with
  | some (.file content _) => .ok (d.put place (.file (content ++ bytes) clock))
  | some (.directory _) => .error (failure p .isDirectory)
  | none => .error (failure p .missing)

/-- Gives a file another path, over a file that may be there. -/
def replace (d : Disk) (source target : DiskPath) : Except DiskFault Disk :=
  let failed (reason : DiskReason) : DiskFault := .failed reason source.text (some target.text)
  match d.place source, d.place target with
  | .error reason, _ => .error (failed reason)
  | _, .error reason => .error (failed reason)
  | .ok origin, .ok goal =>
    match d.node? origin, d.node? goal with
    | none, _ => .error (failed .missing)
    | some (.file _ _), some (.directory _) => .error (failed .isDirectory)
    | some node, _ => .ok ((d.drop origin).put goal node)

/-- Removes a file. -/
def remove (d : Disk) (p : DiskPath) : Except DiskFault Disk := do
  let place ← d.locate p
  match d.node? place with
  | none => .error (failure p .missing)
  | some (.directory _) => .error (failure p .isDirectory)
  | some (.file _ _) => .ok (d.drop place)

/-- The disk with a file of the given content at a path, and with the directories above it. -/
def write (d : Disk) (clock : Binary64) (p : DiskPath) (content : List UInt8) (changed : Binary64) :
    Except DiskFault Disk := do
  let (made, d) := d.makeDirectories clock p.parent
  made
  match d.node? (← d.locate p) with
  | some (.directory _) => .error (failure p .isDirectory)
  | _ => .ok (d.put (← d.locate p) (.file content changed))

end Disk

end Stencil
