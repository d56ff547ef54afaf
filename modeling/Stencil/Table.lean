/-!
# Tables

Named entries in order. Setting a name that is there keeps its place; a new name goes to the end.
-/

namespace Stencil.Table

/-- The table with one entry set. -/
def set {α : Type} (entries : List (String × α)) (name : String) (value : α) : List (String × α) :=
  match entries with
  | [] => [(name, value)]
  | (n, v) :: rest => if n = name then (n, value) :: rest else (n, v) :: set rest name value

/-- The table with several entries set, from left to right. -/
def setAll {α : Type} (entries added : List (String × α)) : List (String × α) :=
  added.foldl (fun entries (name, value) => set entries name value) entries

/-- The table without an entry. -/
def erase {α : Type} (entries : List (String × α)) (name : String) : List (String × α) :=
  entries.filter (·.1 ≠ name)

theorem lookup_set_self {α : Type} (entries : List (String × α)) (name : String) (value : α) :
    (set entries name value).lookup name = some value := by
  induction entries with
  | nil => simp [set]
  | cons entry rest ih =>
    obtain ⟨n, v⟩ := entry
    by_cases h : n = name
    · simp [set, h]
    · have differs : (name == n) = false := by simpa using Ne.symm h
      simp [set, h, List.lookup_cons, differs, ih]

theorem lookup_set_other {α : Type} {name other : String} (h : other ≠ name)
    (entries : List (String × α)) (value : α) :
    (set entries name value).lookup other = entries.lookup other := by
  have differs : (other == name) = false := by simpa using h
  induction entries with
  | nil => simp [set, List.lookup_cons, differs]
  | cons entry rest ih =>
    obtain ⟨n, v⟩ := entry
    by_cases e : n = name
    · simp [set, e, List.lookup_cons, differs]
    · simp only [set, e, if_false, List.lookup_cons, ih]

end Stencil.Table
