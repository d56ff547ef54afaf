import Stencil.Disk.Fault
import Stencil.Disk.Path

/-!
# Disk weather

Operations on a disk may fail for reasons that lie outside of it. The weather says which of them do: it is
asked with the number of operations before, the kind of operation and the path. In calm weather nothing
fails. The weather may also let a path look like a file that is no longer there, and it may say that a text has
no bytes: texts from outside can hold halves of characters, which the texts of this library cannot.
-/

namespace Stencil

/-- The operations on a disk, as far as failures from outside tell them apart. -/
inductive Operation where
  | makeDirectories
  | checkAccess
  | list
  /-- Is there a file, or a directory? -/
  | probe
  /-- Ask for the size or the time of the last change. -/
  | inspect
  | read
  | createTemporary
  | append
  | replace
  | remove
  deriving DecidableEq

/-- A failure from outside, and how many bytes an operation that writes has written before it. -/
structure Strike where
  fault : DiskFault
  written : Nat

/-- Which operations fail for reasons outside of the disk. -/
structure Weather where
  /-- The failure of an operation, given the number of operations before. -/
  strike : Nat → Operation → DiskPath → Option Strike
  /-- Does the path look like a file in any case? -/
  ghost : DiskPath → Bool
  /-- Why the text cannot be written as bytes, if it cannot. -/
  broken : String → Option String

namespace Weather

/-- Nothing fails. -/
def calm : Weather :=
  ⟨fun _ _ _ => none, fun _ => false, fun _ => none⟩

/-- How an operation fails in bad weather that lasts. -/
inductive Storm where
  | removal
  | directories
  | listing
  | reading
  /-- Files vanish before they are read. -/
  | vanishing
  /-- Files whose name has the given beginning vanish before their size or time is asked for. -/
  | haunting (beginning : String)
  | replacing
  | temporaries
  | access
  deriving DecidableEq

/-- Does the name of a path begin with `beginning`? -/
def nameBegins (beginning : String) (p : DiskPath) : Bool :=
  beginning.toList.isPrefixOf p.name.toList

/-- The failure that a storm with the given text brings to an operation. -/
def Storm.fault? (storm : Storm) (text : String) (operation : Operation) (p : DiskPath) : Option DiskFault :=
  match storm, operation with
  | removal, .remove => some (.denied text)
  | directories, .makeDirectories => some (.denied text)
  | listing, .list => some (.broken text)
  | reading, .read => some (.denied text)
  | vanishing, .read => some (.vanished text)
  | haunting beginning, .inspect => if nameBegins beginning p then some (.vanished text) else none
  | replacing, .replace => some (.broken text)
  | temporaries, .createTemporary => some (.broken text)
  | access, .checkAccess => some (.denied text)
  | _, _ => none

/-- The weather of several storms at once, each with its text. -/
def ofStorms (storms : List (Storm × String)) : Weather where
  strike _ operation p :=
    (storms.findSome? fun (storm, text) => storm.fault? text operation p).map fun fault => ⟨fault, 0⟩
  ghost p := storms.any fun (storm, _) => match storm with
    | .haunting beginning => nameBegins beginning p
    | _ => false
  broken _ := none

end Weather

end Stencil
