import Stencil.Fault
import Stencil.Value.Equality

/-!
# Writing values

What values print and how they compare, where some of them cannot be written: an integer may have too many
digits, and an object of the host may refuse. A value that cannot be written makes a fault of whatever asks
for its text.
-/

namespace Stencil.Value

/-- What a template prints for the value, if that can be written. -/
def print (v : Value) : Except Fault String :=
  match v.undisplayed? with
  | some u => .error (.unwritten u)
  | none => .ok v.output

/-- The value as text, if that can be written. -/
def write (v : Value) : Except Fault String :=
  match v.undisplayed? with
  | some u => .error (.unwritten u)
  | none => .ok v.display

theorem print_of_undisplayed?_eq_none {v : Value} (h : v.undisplayed? = none) : v.print = .ok v.output := by
  rw [print, h]

theorem write_of_undisplayed?_eq_none {v : Value} (h : v.undisplayed? = none) : v.write = .ok v.display := by
  rw [write, h]

/-- A filter cannot take the value. The fault shows it, if it can be shown. -/
def refusedBy (filter : String) (v : Value) (expected : String) : Fault :=
  match v.unshown? with
  | some u => .unwritten u
  | none => .filterValue filter v expected

/-- Do two values agree? A text is compared with a number as that is printed, if it can be. -/
def compare (v w : Value) : Except Fault Bool :=
  let obstacle :=
    match v.text?, w.text? with
    | some _, none => if w.isNumber then w.undisplayed? else none
    | none, some _ => if v.isNumber then v.undisplayed? else none
    | _, _ => none
  match obstacle with
  | some u => .error (.unwritten u)
  | none => .ok (v.agrees w)

end Stencil.Value

