import Stencil.Fault
import Stencil.Number.Integer
import Stencil.Value.Equality

/-!
# Paths into data

The first segment of a path names an entry of the innermost scope that has it, or of the data. Every
further segment goes one level down: to the entry of that name in a mapping, else to the entry whose key
is the number that the segment writes, or to the item of that index in a sequence. Where nothing is
found the path denotes `undefined`, and so do all its continuations.
-/

namespace Stencil

/-- The names that are visible in one place, with their values. -/
abbrev Scope := List (Value × Value)

namespace Value

/-- The value of a name: in the innermost scope that has it (the first), else in the data. -/
def lookupName (data : Scope) (scopes : List Scope) (name : String) : Value :=
  ((scopes.findSome? (lookup? · (text name))).or (lookup? data (text name))).getD undefined

/-- The number that a segment writes, if it consists of digits. Too many digits make this a fault, and so does a
digit-like character that is no decimal digit. -/
def segmentNumber? (segment : String) : Except Fault (Option Int) :=
  if segment.isEmpty || !segment.toList.all isDigitLike then .ok none
  else
    match Integer.read segment.toList with
    | .ok n => .ok (some n)
    | .error refusal => .error (.unconverted (quoted segment) refusal)

/-- One segment down from a value. -/
def descend (v : Value) (segment : String) : Except Fault Value :=
  match v.entries? with
  | some entries =>
    match lookup? entries (text segment) with
    | some found => .ok found
    | none => (segmentNumber? segment).map fun
      | some n => (lookup? entries (int n)).getD undefined
      | none => undefined
  | none =>
    match v.sequence? with
    | some items => (segmentNumber? segment).map fun
      | some n => (items[n.toNat]?).getD undefined
      | none => undefined
    | none => .ok undefined

/-- Several segments down from a value, as long as something is found. -/
def descendAll (v : Value) : List String → Except Fault Value
  | [] => .ok v
  | segment :: rest =>
    if v.isUndefined then .ok undefined
    else
      match descend v segment with
      | .ok found => descendAll found rest
      | .error fault => .error fault

/-- The value that a path denotes. -/
def resolve (data : Scope) (scopes : List Scope) : List String → Except Fault Value
  | [] => .ok undefined
  | name :: rest => descendAll (lookupName data scopes name) rest

end Value

end Stencil
