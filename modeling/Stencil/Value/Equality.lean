import Stencil.Value.Shown

/-!
# Equality of values

`same` is the equality of keys and of items inside containers: numbers of all kinds are compared by
their exact value (`1`, `1.0` and `true` are the same), trusted and plain texts by their characters,
maps and sets without regard to order, objects by identity.

`equal` is the equality of whole values, under which what is no number differs even from itself, and
`agrees` is the comparison in conditions, where a text also equals the number it is the output of.
-/

namespace Stencil

/-- The exact value of a number, of whichever kind. -/
inductive ExactNumber where
  | finite (value : Dyadic)
  | infinite (negative : Bool)
  deriving DecidableEq

namespace Value

/-- The exact value of an integer, a truth value or a floating-point number. -/
def number? : Value → Option ExactNumber
  | bool b => some (.finite (Dyadic.ofInt (if b then 1 else 0)))
  | int i => some (.finite (Dyadic.ofInt i))
  | float x =>
    match x.toDyadic? with
    | some d => some (.finite d)
    | none => some (.infinite x.isNegative)
  | _ => none

/-- Equality of values that are no containers. -/
def sameLeaf (v w : Value) : Bool :=
  match v.number?, w.number? with
  | some a, some b => a = b
  | none, none =>
    match v.text?, w.text? with
    | some s, some t => s = t
    | none, none =>
      match v, w with
      | null, null => true
      | undefined, undefined => true
      | notANumber m, notANumber n => m = n
      | bytes a, bytes b => a = b
      | loop a, loop b => a = b
      | foreign m _ _, foreign n _ _ => m = n
      | _, _ => false
    | _, _ => false
  | _, _ => false

/-- Does each of two lists of entries hold an entry like every entry of the other, the entries of
both being no containers or compared as such? -/
def sameLeafEntries (entries others : List (Value × Value)) : Bool :=
  let like (a b : Value × Value) := sameLeaf a.1 b.1 && sameLeaf a.2 b.2
  entries.all (fun a => others.any (like a)) && others.all (fun b => entries.any (like · b))

mutual

/-- Equality of keys and of items inside containers. -/
def same : Value → Value → Bool
  | list items, list others => sameItems items others
  | tuple items, tuple others => sameItems items others
  | set _ items, set _ others => allHaveLike items others && others.all (hasLike items)
  | map entries, map others => allHaveEntryLike entries others && others.all (hasEntryLike entries)
  | map entries, loop s => sameLeafEntries entries (s.entries.map fun (k, v) => (text k, v))
  | loop s, map others => sameLeafEntries (s.entries.map fun (k, v) => (text k, v)) others
  | v, w => sameLeaf v w
termination_by structural v => v

/-- Are two sequences of the same length, with the same items in order? -/
def sameItems : List Value → List Value → Bool
  | [], [] => true
  | v :: rest, w :: others => same v w && sameItems rest others
  | _, _ => false
termination_by structural items => items

/-- Is every item like some item of `others`? -/
def allHaveLike : List Value → List Value → Bool
  | [], _ => true
  | v :: rest, others => others.any (fun w => same v w) && allHaveLike rest others
termination_by structural items => items

/-- Is some item like `w`? -/
def hasLike : List Value → Value → Bool
  | [], _ => false
  | v :: rest, w => same v w || hasLike rest w
termination_by structural items => items

/-- Is every entry like some entry of `others`, in key and value? -/
def allHaveEntryLike : List (Value × Value) → List (Value × Value) → Bool
  | [], _ => true
  | (k, v) :: rest, others =>
    others.any (fun (l, w) => same k l && same v w) && allHaveEntryLike rest others
termination_by structural entries => entries

/-- Is some entry like the entry `other`, in key and value? -/
def hasEntryLike : List (Value × Value) → Value × Value → Bool
  | [], _ => false
  | (k, v) :: rest, other => (same k other.1 && same v other.2) || hasEntryLike rest other
termination_by structural entries => entries

end

/-- Equality of whole values. -/
def equal : Value → Value → Bool
  | notANumber _, _ => false
  | _, notANumber _ => false
  | v, w => same v w

/-- Is the value a number other than a truth value? -/
def isNumber : Value → Bool
  | int _ | float _ | notANumber _ => true
  | _ => false

/-- The comparison in conditions: an absent path equals only an absent path, a text equals the
number it is the output of, and all else is compared by `equal`. -/
def agrees (v w : Value) : Bool :=
  if v.isUndefined || w.isUndefined then v.isUndefined && w.isUndefined
  else
    match v.text?, w.text? with
    | some s, _ => if w.isNumber then s = w.output else equal v w
    | none, some t => if v.isNumber then v.output = t else equal v w
    | none, none => equal v w

/-- The value under a key, if the map has the key. -/
def lookup? (entries : List (Value × Value)) (key : Value) : Option Value :=
  (entries.find? fun (k, _) => same k key).map (·.2)

/-- The entries with one of them set: an entry whose key is there keeps its place and its key and
takes the new value, any other is added at the end. -/
def insert (entries : List (Value × Value)) (key value : Value) : List (Value × Value) :=
  match entries with
  | [] => [(key, value)]
  | (k, v) :: rest => if same k key then (k, value) :: rest else (k, v) :: insert rest key value

/-- A map with the given entries, later ones winning over earlier ones of the same key. -/
def mapOf (entries : List (Value × Value)) : Value :=
  map (entries.foldl (fun es (k, v) => insert es k v) [])

/-- A set with the given items, the first of equal ones being kept. -/
def setOf (frozen : Bool) (items : List Value) : Value :=
  set frozen (items.foldl (fun kept v => if kept.any (same · v) then kept else kept ++ [v]) [])

end Value

end Stencil
