import Stencil.Value.Writing

/-!
# Filters

A filter turns a value into another one or fails. Filters are known by name; a table of them keeps its
order and carries a stamp, so that a change of the table can be noticed without looking into it.
-/

namespace Stencil

/-- A filter. -/
abbrev Filter := Value → Except Fault Value

/-- Named filters in order. Two tables of one engine with the same stamp are the same. -/
structure FilterTable where
  entries : List (String × Filter)
  stamp : Nat

namespace FilterTable

/-- The names of the filters. -/
def names (t : FilterTable) : List String :=
  t.entries.map (·.1)

/-- The filter of the given name. -/
def find? (t : FilterTable) (name : String) : Option Filter :=
  t.entries.lookup name

/-- The filter of the given name; it is a fault if there is none. -/
def find (t : FilterTable) (name : String) : Except Fault Filter :=
  match t.find? name with
  | some f => .ok f
  | none => .error (.missingKey name)

end FilterTable

/-- A value through one filter of a table. An undefined value passes by every filter. -/
def applyFilter (table : FilterTable) (v : Value) (name : String) : Except Fault Value :=
  if v.isUndefined then .ok v
  else
    match table.find name with
    | .ok f => f v
    | .error fault => .error fault

/-- A value through several filters of a table, from left to right. -/
def applyFilters (table : FilterTable) (v : Value) : List String → Except Fault Value
  | [] => .ok v
  | name :: rest =>
    match applyFilter table v name with
    | .ok w => applyFilters table w rest
    | .error fault => .error fault

end Stencil
