import Stencil.Fault
import Stencil.Number.Integer
import Stencil.Text.Span
import Stencil.Text.Word

/-!
# Minification

Blanks that stand directly between a `>` and a `<` are removed, and so are blanks at both ends. The
elements `pre`, `textarea`, `script` and `style` keep their content: each is replaced by a numbered
placeholder that looks like a tag, and put back in the end. A placeholder in the input whose number
was never given out is a fault, and so is one with too many digits for a number.
-/

namespace Stencil.Html

/-- The names of the elements that keep their content. -/
def protectedNames : List (List Char) :=
  [['p', 'r', 'e'], ['t', 'e', 'x', 't', 'a', 'r', 'e', 'a'], ['s', 'c', 'r', 'i', 'p', 't'],
    ['s', 't', 'y', 'l', 'e']]

/-- The lower case of a character, as far as the letters of tag names are concerned. -/
def foldCase (c : Char) : Char :=
  if c = 'İ' then 'i' else c.toLower

/-- May `c` stand for the letter `letter` in an opening tag? The long s and the dotless i may. -/
def isLetterLike (letter c : Char) : Bool :=
  foldCase c = letter || (letter = 'i' && c = 'ı') || (letter = 's' && c = 'ſ')

/-- Do the first characters of `cs` write the name? Then they, and what follows. -/
def readTagName? : (name cs : List Char) → Option (List Char × List Char)
  | [], cs => some ([], cs)
  | letter :: name, c :: cs =>
    if isLetterLike letter c then (readTagName? name cs).map fun (written, rest) => (c :: written, rest)
    else none
  | _ :: _, [] => none

/-- What follows the name `written` at the start of a text, in any mix of cases. -/
def skipName? : (written cs : List Char) → Option (List Char)
  | [], cs => some cs
  | w :: written, c :: cs => if foldCase c = foldCase w then skipName? written cs else none
  | _ :: _, [] => none

/-- What follows the closing tag of the element `written` at the start of a text. -/
def skipClosing? (written cs : List Char) : Option (List Char) :=
  match cs with
  | '<' :: '/' :: rest =>
    match (skipName? written rest).map (·.dropWhile isBlank) with
    | some ('>' :: rest) => some rest
    | _ => none
  | _ => none

/-- What follows the first closing tag of the element `written` in a text. -/
def afterClosing? (written : List Char) : List Char → Option (List Char)
  | [] => none
  | c :: cs => (skipClosing? written (c :: cs)).or (afterClosing? written cs)

/-- What follows the protected element at the start of a text, if there is one. -/
def afterElement? (cs : List Char) : Option (List Char) :=
  match cs with
  | '<' :: tail =>
    (protectedNames.findSome? (readTagName? · tail)).bind fun (written, rest) =>
      if rest.head?.any isWordChar then none else afterClosing? written rest
  | _ => none

/-- The placeholder of the element with the given number. -/
def placeholder (number : Nat) : List Char :=
  ['<', '\x00'] ++ Nat.toDigits 10 number ++ ['\x00', '>']

/-- Text with placeholders for its protected elements, and the elements. -/
structure Stashed where
  text : List Char
  elements : List (List Char)

/-- Replaces the protected elements of a text, numbered from `number`; `skip` characters belong to an
element that is already replaced. -/
def stashFrom (number : Nat) : (skip : Nat) → List Char → Stashed
  | _, [] => ⟨[], []⟩
  | skip + 1, _ :: cs => stashFrom number skip cs
  | 0, c :: cs =>
    match afterElement? (c :: cs) with
    | some rest =>
      let size := cs.length + 1 - rest.length
      let stashed := stashFrom (number + 1) (size - 1) cs
      ⟨placeholder number ++ stashed.text, (c :: cs).take size :: stashed.elements⟩
    | none =>
      let stashed := stashFrom number 0 cs
      ⟨c :: stashed.text, stashed.elements⟩

/-- Removes the blanks between a `>` and a `<`. -/
def collapse : List Char → List Char
  | [] => []
  | c :: cs =>
    if c = '>' ∧ (cs.dropWhile isBlank).head? = some '<' then
      '>' :: collapse (cs.dropWhile isBlank)
    else c :: collapse cs
termination_by cs => cs.length
decreasing_by
  · have := length_dropWhile_le isBlank cs
    simp only [List.length_cons]; omega
  · simp

/-- The digits in the placeholder at the start of a text, and what follows it. -/
def readPlaceholder? (cs : List Char) : Option (List Char × List Char) :=
  match cs with
  | '<' :: '\x00' :: rest =>
    match rest.takeWhile isDecimalDigit, rest.dropWhile isDecimalDigit with
    | c :: digits, '\x00' :: '>' :: behind => some (c :: digits, behind)
    | _, _ => none
  | _ => none

/-- The element whose placeholder has these very digits. -/
def given? (elements : List (List Char)) (digits : List Char) : Option (List Char) :=
  (Integer.read? digits).bind fun number =>
    if Nat.toDigits 10 number.toNat = digits then elements[number.toNat]? else none

/-- The element whose number the digits of a placeholder write. They may be those that were given out, or have
been in the text before. -/
def stashed (elements : List (List Char)) (digits : List Char) : Except Fault (List Char) :=
  match given? elements digits, Integer.read digits with
  | some element, _ => .ok element
  | none, .error refusal => .error (.unconverted (quoted (String.ofList digits)) refusal)
  | none, .ok number =>
    match elements[number.toNat]? with
    | some element => .ok element
    | none => .error .missingItem

/-- Puts the elements back; `skip` characters belong to a placeholder that is already replaced. -/
def restoreFrom (elements : List (List Char)) : (skip : Nat) → List Char → Except Fault (List Char)
  | _, [] => .ok []
  | skip + 1, _ :: cs => restoreFrom elements skip cs
  | 0, c :: cs =>
    match readPlaceholder? (c :: cs) with
    | some (digits, rest) =>
      match stashed elements digits with
      | .ok element => (restoreFrom elements (cs.length - rest.length) cs).map (element ++ ·)
      | .error fault => .error fault
    | none => (restoreFrom elements 0 cs).map (c :: ·)

/-- Removes the blanks between tags, outside of protected elements. -/
def minify (html : String) : Except Fault String :=
  let stashed := stashFrom 0 0 html.toList
  (restoreFrom stashed.elements 0 (strip (collapse stashed.text))).map String.ofList

end Stencil.Html
