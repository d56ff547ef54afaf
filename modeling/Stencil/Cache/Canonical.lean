import Stencil.Value.Shown

/-!
# Canonical text of data

Data is written in one canonical form before it goes into a key: maps sorted by the names of their
keys, which carry the type of the key, sets sorted by the canonical texts of their items, tuples like
lists, and trusted texts like plain ones. A value that JSON has no form for is written as the text that
messages show for it. Data that holds something without a text has no canonical text; what `canonical` gives
for it means nothing.
-/

namespace Stencil.Value

/-- A character of a text in double quotes. -/
def canonicalChar (c : Char) : List Char :=
  if c = '"' ∨ c = '\\' then ['\\', c]
  else if c = '\n' then ['\\', 'n']
  else if c = '\r' then ['\\', 'r']
  else if c = '\t' then ['\\', 't']
  else if c = '\x0c' then ['\\', 'f']
  else if c = '\x08' then ['\\', 'b']
  else if c.toNat < 0x20 then ['\\', 'u'] ++ hexDigits 4 c.toNat
  else [c]

/-- A text in double quotes. -/
def canonicalText (s : String) : String :=
  "\"" ++ String.ofList (s.toList.flatMap canonicalChar) ++ "\""

/-- The name of a key: its type and its text, so that keys of different types stay apart. -/
def keyName (key : Value) : String :=
  key.typeName ++ ":" ++ key.display

/-- Of several neighbouring members of one name the last. -/
def lastOfEach {α : Type} : List (String × α) → List (String × α)
  | (n, v) :: (m, w) :: rest =>
    if n = m then lastOfEach ((m, w) :: rest) else (n, v) :: lastOfEach ((m, w) :: rest)
  | members => members

/-- The members of an object in the order of their names, each name once. -/
def objectMembers {α : Type} (members : List (String × α)) : List (String × α) :=
  lastOfEach (members.mergeSort fun a b => a.1 ≤ b.1)

/-- The canonical text of an object with the given members, each a name and a canonical text. -/
def canonicalObject (members : List (String × String)) : String :=
  braced (",".intercalate ((objectMembers members).map fun (name, written) => canonicalText name ++ ":" ++ written))

/-- The canonical text of an array of items. -/
def canonicalArray (items : List String) : String :=
  "[" ++ ",".intercalate items ++ "]"

mutual

/-- The canonical text of a value. -/
def canonical : Value → String
  | null => "null"
  | bool b => if b then "true" else "false"
  | int i => toString i
  | float x => Layout.canonical.text x
  | notANumber _ => Layout.canonical.notANumber
  | text s | markup s => canonicalText s
  | list items | tuple items => canonicalArray (canonicalItems items)
  | set _ items => canonicalArray ((canonicalItems items).mergeSort (· ≤ ·))
  | map entries => canonicalObject (canonicalEntries entries)
  | loop s => canonicalObject (s.entries.map fun (name, v) => (keyName (text name), v.output))
  | undefined => canonicalText undefined.inspect
  | bytes bs => canonicalText (bytes bs).inspect
  | foreign mark html portrait => canonicalText (foreign mark html portrait).inspect

/-- The canonical texts of items. -/
def canonicalItems : List Value → List String
  | [] => []
  | v :: rest => canonical v :: canonicalItems rest

/-- The names of the keys and the canonical texts of the values of entries. -/
def canonicalEntries : List (Value × Value) → List (String × String)
  | [] => []
  | (k, v) :: rest => (keyName k, canonical v) :: canonicalEntries rest

end

mutual

/-- The first thing in a value without a canonical text, as it is come by when the text is written. -/
def uncanonical? : Value → Option Unwritten
  | int i => unwrittenInteger? i
  | list items | tuple items | set _ items => uncanonicalItem? items
  | map entries => (objectMembers (uncanonicalEntries entries)).findSome? (·.2)
  | loop s => (s.entries.map fun (_, v) => v.unshown?).findSome? id
  | foreign _ _ portrait => failure? portrait.shown
  | _ => none

/-- The first thing in items without a canonical text. -/
def uncanonicalItem? : List Value → Option Unwritten
  | [] => none
  | v :: rest => (uncanonical? v).or (uncanonicalItem? rest)

/-- The names of the keys, each with the first thing in the value of the entry without a canonical text. -/
def uncanonicalEntries : List (Value × Value) → List (String × Option Unwritten)
  | [] => []
  | (k, v) :: rest => (keyName k, uncanonical? v) :: uncanonicalEntries rest

end

mutual

/-- The first thing in a value that is in the way of its order: a key that has no name, or something in a set without a
canonical text. -/
def unordered? : Value → Option Unwritten
  | list items | tuple items => unorderedItem? items
  | set _ items => (unorderedItem? items).or (uncanonicalItem? items)
  | map entries => unorderedMember? entries
  | _ => none

/-- The first thing in items that is in the way of their order. -/
def unorderedItem? : List Value → Option Unwritten
  | [] => none
  | v :: rest => (unordered? v).or (unorderedItem? rest)

/-- The first thing in entries that is in the way of their order. -/
def unorderedMember? : List (Value × Value) → Option Unwritten
  | [] => none
  | (k, v) :: rest => (k.undisplayed?.or (unordered? v)).or (unorderedMember? rest)

end

/-- What keeps data from having a canonical text. All of it is brought into its order before anything is written. -/
def unkeyed? (v : Value) : Option Unwritten :=
  v.unordered?.or v.uncanonical?

mutual

/-- How deep containers are nested in a value; keys do not count. -/
def depth : Value → Nat
  | list items | tuple items | set _ items => depthItems items + 1
  | map entries => depthEntries entries + 1
  | _ => 0

/-- The greatest depth of items. -/
def depthItems : List Value → Nat
  | [] => 0
  | v :: rest => max (depth v) (depthItems rest)

/-- The greatest depth of the values of entries. -/
def depthEntries : List (Value × Value) → Nat
  | [] => 0
  | (_, v) :: rest => max (depth v) (depthEntries rest)

end

/-- A depth that usual surroundings leave room for. -/
def usualDepth : Nat := 480

end Stencil.Value
