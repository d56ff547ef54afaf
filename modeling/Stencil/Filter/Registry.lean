import Stencil.Filter.Basic
import Stencil.Table

/-!
# Changing a table of filters

What is offered as a filter may be none, and then it is refused. Every change that succeeds gives the
table a new stamp, even one that adds nothing; a change that is refused leaves the table as it was.
-/

namespace Stencil

/-- What is offered as a filter: a filter, or some value that cannot be applied. -/
inductive FilterCandidate where
  | filter (f : Filter)
  | value (v : Value)

namespace FilterCandidate

/-- The candidate as a filter under the given name, or the reason why it is none. -/
def check (name : String) : FilterCandidate → Except Fault Filter
  | filter f => .ok f
  | value v => .error (.notAFilter name v.typeName)

/-- The candidate in a table that was not checked: what cannot be applied fails when it is. -/
def unchecked : FilterCandidate → Filter
  | filter f => f
  | value v => fun _ => .error (.notCallable v.typeName)

end FilterCandidate

namespace FilterTable

/-- A table of candidates that are not checked. -/
def ofCandidates (base : List (String × Filter)) (added : List (String × FilterCandidate)) : FilterTable :=
  ⟨Table.setAll base (added.map fun (name, c) => (name, c.unchecked)), 0⟩

/-- Sets one filter. -/
def set (t : FilterTable) (name : String) (c : FilterCandidate) : Except Fault FilterTable :=
  (c.check name).map fun f => ⟨Table.set t.entries name f, t.stamp + 1⟩

/-- Removes one filter. -/
def erase (t : FilterTable) (name : String) : Except Fault FilterTable :=
  if (t.find? name).isSome then .ok ⟨Table.erase t.entries name, t.stamp + 1⟩
  else .error (.missingKey name)

/-- Checks all candidates, in order. -/
def checkAll : List (String × FilterCandidate) → Except Fault (List (String × Filter))
  | [] => .ok []
  | (name, c) :: rest =>
    match c.check name with
    | .error fault => .error fault
    | .ok f => (checkAll rest).map ((name, f) :: ·)

/-- Sets several filters at once, or none of them if one is refused. The second row wins over the first. -/
def update (t : FilterTable) (added named : List (String × FilterCandidate)) : Except Fault FilterTable :=
  (checkAll (Table.setAll added named)).map fun checked =>
    ⟨Table.setAll t.entries checked, t.stamp + 1⟩

/-- The table in messages: the names in alphabetical order. -/
def inspect (t : FilterTable) : String :=
  "<FilterRegistry " ++ (Value.list ((t.names.mergeSort (· ≤ ·)).map .text)).inspect ++ ">"

end FilterTable

end Stencil
