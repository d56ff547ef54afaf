import Stencil.Number.Integer
import Stencil.Number.Shortest
import Stencil.Text.Quoted
import Stencil.Value.Basic

/-!
# Texts of values

Three texts of a value. `inspect` is its form inside messages and containers, where texts stand
between quotes. `display` is the same save that a text is itself. `output` is what a template prints:
nothing for absent values, `true` and `false` in lower case.

A value need not have these texts: an integer may have too many digits, and an object may refuse. `unshown?`
and `undisplayed?` say what is in the way of them; where nothing is, the texts are those of the value.
-/

namespace Stencil.Value

/-- The parts with a comma and a blank between them. -/
def commaSeparated (parts : List String) : String :=
  ", ".intercalate parts

/-- The text between curly braces. -/
def braced (s : String) : String :=
  "\x7b" ++ s ++ "\x7d"

mutual

/-- The form of a value in messages and inside containers. -/
def inspect : Value → String
  | null => "None"
  | undefined => "UNDEFINED"
  | bool b => if b then "True" else "False"
  | int i => toString i
  | float x => Layout.output.text x
  | notANumber _ => Layout.output.notANumber
  | text s => quoted s
  | markup s => "Markup(" ++ quoted s ++ ")"
  | bytes bs => quotedBytes bs
  | list items => "[" ++ commaSeparated (inspectItems items) ++ "]"
  | tuple [item] => "(" ++ inspect item ++ ",)"
  | tuple items => "(" ++ commaSeparated (inspectItems items) ++ ")"
  | set frozen items =>
    match frozen, items with
    | false, [] => "set()"
    | true, [] => "frozenset()"
    | false, items => braced (commaSeparated (inspectItems items))
    | true, items => "frozenset(" ++ braced (commaSeparated (inspectItems items)) ++ ")"
  | map entries => braced (commaSeparated (inspectEntries entries))
  | loop s => s.shown
  | foreign _ _ portrait => portrait.shown.toOption.getD ""

/-- The forms of the items of a container. -/
def inspectItems : List Value → List String
  | [] => []
  | v :: rest => inspect v :: inspectItems rest

/-- The forms of the entries of a map. -/
def inspectEntries : List (Value × Value) → List String
  | [] => []
  | (k, v) :: rest => (inspect k ++ ": " ++ inspect v) :: inspectEntries rest

end

/-- The value as text: texts are themselves, everything else as in messages. -/
def display : Value → String
  | undefined => ""
  | text s | markup s => s
  | foreign _ _ portrait => portrait.printed.toOption.getD ""
  | v => v.inspect

/-- What a template prints for the value. -/
def output : Value → String
  | null | undefined => ""
  | bool b => if b then "true" else "false"
  | v => v.display

/-- An integer with too many digits has no text. -/
def unwrittenInteger? (i : Int) : Option Unwritten :=
  if Integer.isWritable i then none else some ⟨"ValueError", Integer.excessMessage none, true⟩

theorem unwrittenInteger?_eq_none {i : Int} (writable : Integer.isWritable i) : unwrittenInteger? i = none := by
  rw [unwrittenInteger?, if_pos writable]

/-- The failure that an object answers instead of a text. -/
def failure? (answer : Except Unwritten String) : Option Unwritten :=
  match answer with
  | .ok _ => none
  | .error u => some u

mutual

/-- What is in the way of `inspect`, if anything is: the first thing inside of the value that is. -/
def unshown? : Value → Option Unwritten
  | int i => unwrittenInteger? i
  | list items | tuple items | set _ items => unshownItem? items
  | map entries => unshownMember? entries
  | loop s => (unwrittenInteger? (s.index + 1)).or (unwrittenInteger? s.length)
  | foreign _ _ portrait => failure? portrait.shown
  | _ => none

/-- What is in the way of the forms of items. -/
def unshownItem? : List Value → Option Unwritten
  | [] => none
  | v :: rest => (unshown? v).or (unshownItem? rest)

/-- What is in the way of the forms of entries. -/
def unshownMember? : List (Value × Value) → Option Unwritten
  | [] => none
  | (k, v) :: rest => ((unshown? k).or (unshown? v)).or (unshownMember? rest)

end

/-- What is in the way of `display` and `output`, if anything is. -/
def undisplayed? : Value → Option Unwritten
  | foreign _ _ portrait => failure? portrait.printed
  | v => v.unshown?

theorem undisplayed?_int (i : Int) : (int i).undisplayed? = unwrittenInteger? i := by
  simp only [undisplayed?, unshown?]

/-- Is what the value prints trusted markup? -/
def printsMarkup : Value → Bool
  | markup _ => true
  | foreign _ _ portrait => portrait.trusted
  | _ => false

end Stencil.Value
