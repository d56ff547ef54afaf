import Stencil.Text.Quoted

/-!
# Failures of the disk

What can go wrong with one operation on a disk: the failures that follow from the state of the disk,
which name the path (and the target of a renaming), and the failures that come from outside, which
bring their own text.
-/

namespace Stencil

/-- Why the state of a disk makes an operation fail. -/
inductive DiskReason where
  | missing
  | alreadyExists
  | notDirectory
  | isDirectory
  | nameTooLong
  deriving DecidableEq

namespace DiskReason

/-- The number of the reason. -/
def number : DiskReason → Nat
  | missing => 2
  | alreadyExists => 17
  | notDirectory => 20
  | isDirectory => 21
  | nameTooLong => 36

/-- The reason in words. -/
def words : DiskReason → String
  | missing => "No such file or directory"
  | alreadyExists => "File exists"
  | notDirectory => "Not a directory"
  | isDirectory => "Is a directory"
  | nameTooLong => "File name too long"

/-- The kind of the failure, as answers name it. -/
def kind : DiskReason → String
  | missing => "FileNotFoundError"
  | alreadyExists => "FileExistsError"
  | notDirectory => "NotADirectoryError"
  | isDirectory => "IsADirectoryError"
  | nameTooLong => "OSError"

end DiskReason

/-- A failed disk operation. -/
inductive DiskFault where
  | failed (reason : DiskReason) (path : String) (target : Option String)
  | denied (text : String)
  | vanished (text : String)
  | broken (text : String)
  deriving DecidableEq

namespace DiskFault

/-- The kind of the failure, as answers name it. -/
def kind : DiskFault → String
  | failed reason _ _ => reason.kind
  | denied _ => "PermissionError"
  | vanished _ => "FileNotFoundError"
  | broken _ => "OSError"

/-- The text of the failure. -/
def message : DiskFault → String
  | failed reason path target =>
    "[Errno " ++ toString reason.number ++ "] " ++ reason.words ++ ": " ++ quoted path
      ++ (match target with
        | some target => " -> " ++ quoted target
        | none => "")
  | denied text | vanished text | broken text => text

/-- Did the operation fail because there is no such file? -/
def isMissing : DiskFault → Bool
  | failed .missing _ _ | vanished _ => true
  | _ => false

/-- Does the failure show that the path denotes nothing at all? -/
def isAbsence : DiskFault → Bool
  | failed .missing _ _ | failed .notDirectory _ _ | vanished _ => true
  | _ => false

end DiskFault

end Stencil
