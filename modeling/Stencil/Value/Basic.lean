import Stencil.Number.Binary64

/-!
# Values

The data that a template is rendered against: scalars, texts, trusted markup, bytes, and containers
nested to any depth. A path that leads nowhere denotes `undefined`, which is a value too: it is
false, prints as nothing and equals only itself.

Two kinds of values have an identity, written as a mark: what is no number (it equals nothing, but a
container that holds it equals itself), and foreign objects, of which only what they answer when they are to
be written is known.
-/

namespace Stencil

/-- The place of a loop: which of how many rounds is running, counted from zero. -/
structure LoopState where
  index : Int
  length : Int
  deriving DecidableEq

/-- Why a value cannot be written: the kind and the text of the failure, and whether it is of the kinds that tell of a
wrong type or of a wrong value. -/
structure Unwritten where
  kind : String
  message : String
  isUsual : Bool
  deriving DecidableEq

/-- What a foreign object answers about itself: the text that it is printed as, whether this text is trusted markup,
and the text that stands for it in messages and inside of containers. -/
structure Portrait where
  printed : Except Unwritten String
  trusted : Bool
  shown : Except Unwritten String

/-- An object may have one plain text for all occasions. -/
instance : Coe String Portrait := ⟨fun s => ⟨.ok s, false, .ok s⟩⟩

/-- A value of the render data. Entries of maps keep their order; the keys of a map and the items of
a set are pairwise different. -/
inductive Value where
  | null
  | undefined
  | bool (b : Bool)
  | int (i : Int)
  | float (x : Binary64)
  | notANumber (mark : Nat)
  | text (s : String)
  | markup (s : String)
  | bytes (bs : List UInt8)
  | list (items : List Value)
  | tuple (items : List Value)
  | set (frozen : Bool) (items : List Value)
  | map (entries : List (Value × Value))
  | loop (state : LoopState)
  /-- An object of the host; `html` says whether it offers markup when it is asked for it. -/
  | foreign (mark : Nat) (html : Bool) (portrait : Portrait)

instance : Inhabited Value := ⟨.null⟩

/-- The properties of a loop that a template can ask for, in order. -/
def LoopState.entries (s : LoopState) : List (String × Value) :=
  [("index", .int (s.index + 1)), ("index0", .int s.index), ("first", .bool (s.index = 0)),
    ("last", .bool (s.index = s.length - 1)), ("length", .int s.length),
    ("revindex", .int (s.length - s.index)), ("revindex0", .int (s.length - s.index - 1))]

/-- How a loop is shown. -/
def LoopState.shown (s : LoopState) : String :=
  "<LoopContext " ++ toString (s.index + 1) ++ "/" ++ toString s.length ++ ">"

namespace Value

/-- The name of the value's type, as messages give it. -/
def typeName : Value → String
  | null => "NoneType"
  | undefined => "_Undefined"
  | bool _ => "bool"
  | int _ => "int"
  | float _ | notANumber _ => "float"
  | text _ => "str"
  | markup _ => "Markup"
  | bytes _ => "bytes"
  | list _ => "list"
  | tuple _ => "tuple"
  | set false _ => "set"
  | set true _ => "frozenset"
  | map _ => "dict"
  | loop _ => "LoopContext"
  | foreign _ false _ => "Opaque"
  | foreign _ true _ => "Html"

/-- Is this the value of a path that leads nowhere? -/
def isUndefined : Value → Bool
  | undefined => true
  | _ => false

/-- Does the value count as true? Zero, what is empty, and the absent values do not. -/
def isTruthy : Value → Bool
  | null | undefined => false
  | bool b => b
  | int i => i ≠ 0
  | float x => !x.isZero
  | text s | markup s => !s.isEmpty
  | bytes bs => !bs.isEmpty
  | list items | tuple items | set _ items => !items.isEmpty
  | map entries => !entries.isEmpty
  | notANumber _ | loop _ | foreign _ _ _ => true

/-- The items of an ordered sequence, which a loop may run over; texts and bytes are none. -/
def sequence? : Value → Option (List Value)
  | list items | tuple items => some items
  | _ => none

/-- Can a loop run over the value? -/
def isSequence (v : Value) : Bool :=
  v.sequence?.isSome

/-- The entries of a mapping. -/
def entries? : Value → Option (List (Value × Value))
  | map entries => some entries
  | loop s => some (s.entries.map fun (k, v) => (text k, v))
  | _ => none

/-- The characters of a text, trusted or not. -/
def text? : Value → Option String
  | text s | markup s => some s
  | _ => none

/-- How many items, entries, characters or bytes the value holds, if it is of a kind that has a
size. -/
def size? : Value → Option Nat
  | text s | markup s => some s.length
  | bytes bs => some bs.length
  | list items | tuple items | set _ items => some items.length
  | map entries => some entries.length
  | loop s => some s.entries.length
  | _ => none

end Value

end Stencil
