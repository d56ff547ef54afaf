import Stencil.Fault
import Stencil.Text.Digit
import Stencil.Token
import Stencil.Token.Piece

/-!
# Directives

What stands between `{%` and `%}`: a keyword and its arguments. Conditions take any text, loops over a
collection a path and a name, counting loops a name and two bounds, and the other directives nothing.
-/

namespace Stencil

/-- Why a block tag is no directive. -/
structure DirectiveFault where
  code : Code
  message : String
  suggestion : Option String

namespace Directive

/-- The keywords of directives, in alphabetical order. -/
def keywords : List String :=
  ["else", "elseif", "endfor", "endforeach", "endif", "for", "foreach", "if"]

/-- A block tag with the given content, as it is shown in hints. -/
def shown (content : String) : String :=
  "\x7b% " ++ content ++ " %\x7d"

/-- The text behind at least one blank. -/
def skipBlanks? (cs : List Char) : Option (List Char) :=
  match cs with
  | c :: _ => if isBlank c then some (cs.dropWhile isBlank) else none
  | [] => none

/-- The text behind a word that stands between blanks. -/
def skipWord? (word cs : List Char) : Option (List Char) :=
  (skipBlanks? cs).bind fun rest =>
    if word.isPrefixOf rest then skipBlanks? (rest.drop word.length) else none

/-- The bound at the start of a text: digits of any script with an optional minus sign. -/
def readBound? (cs : List Char) : Option (List Char × List Char) :=
  let (sign, digits) := match cs with
    | '-' :: rest => (['-'], rest)
    | _ => ([], cs)
  match digits.takeWhile isDecimalDigit with
  | [] => none
  | number => some (sign ++ number, digits.dropWhile isDecimalDigit)

/-- The arguments `path as name` of a loop over a collection. -/
def readForeach? (cs : List Char) : Option (List Char × List Char) := do
  let (path, rest) ← readPath? cs
  let rest ← skipWord? ['a', 's'] rest
  match ← readName? rest with
  | (name, []) => some (path, name)
  | _ => none

/-- The arguments `name in start..stop` of a counting loop. -/
def readFor? (cs : List Char) : Option (List Char × List Char × List Char) := do
  let (name, rest) ← readName? cs
  let rest ← skipWord? ['i', 'n'] rest
  let (start, rest) ← readBound? rest
  match rest.dropWhile isBlank with
  | '.' :: '.' :: rest =>
    match ← readBound? (rest.dropWhile isBlank) with
    | (stop, []) => some (name, start, stop)
    | _ => none
  | _ => none

/-- The keyword is not known. -/
def unknown (keyword : String) : DirectiveFault :=
  ⟨.unknownDirective, "Unknown directive '" ++ keyword ++ "'",
    (closest? keyword keywords).map fun known => "Did you mean '" ++ known ++ "'?"⟩

/-- A directive without its condition. -/
def missingCondition (keyword : String) : DirectiveFault :=
  ⟨.malformedDirective, "'" ++ keyword ++ "' requires a condition",
    some (shown (keyword ++ " name") ++ ", " ++ shown (keyword ++ " not name") ++ " or "
      ++ shown (keyword ++ " a == b"))⟩

/-- A condition as the argument of a directive. -/
def condition (keyword : String) (tag : String → Tag) (rest : List Char) : Except DirectiveFault Tag :=
  if rest.isEmpty then .error (missingCondition keyword) else .ok (tag (String.ofList rest))

/-- A directive that takes no arguments. -/
def bare (keyword : String) (tag : Tag) (rest : List Char) : Except DirectiveFault Tag :=
  if rest.isEmpty then .ok tag
  else .error ⟨.malformedDirective, "'" ++ keyword ++ "' takes no arguments", none⟩

/-- The arguments of a loop over a collection. -/
def foreach (rest : List Char) : Except DirectiveFault Tag :=
  match readForeach? rest with
  | some (path, name) => .ok (.openForeach (String.ofList path) (String.ofList name))
  | none =>
    .error ⟨.malformedDirective, "Malformed foreach directive", some (shown "foreach items as item")⟩

/-- The arguments of a counting loop. -/
def counting (rest : List Char) : Except DirectiveFault Tag :=
  match readFor? rest with
  | some (name, start, stop) =>
    .ok (.openFor (String.ofList name) (String.ofList start) (String.ofList stop))
  | none => .error ⟨.malformedDirective, "Malformed for directive", some (shown "for i in 1..10")⟩

/-- The directive with the given keyword and arguments. -/
def ofKeyword (keyword : String) (rest : List Char) : Except DirectiveFault Tag :=
  match keyword with
  | "if" => condition keyword .openIf rest
  | "elseif" => condition keyword .elseIf rest
  | "else" => bare keyword .otherwise rest
  | "endif" => bare keyword .closeIf rest
  | "foreach" => foreach rest
  | "endforeach" => bare keyword .closeForeach rest
  | "for" => counting rest
  | "endfor" => bare keyword .closeFor rest
  | _ => .error (unknown keyword)

/-- The text in front of the first `{%`, if there is one, and the text from there on. -/
def splitAtOpening? : List Char → Option (List Char × List Char)
  | [] => none
  | '{' :: '%' :: rest => some ([], '{' :: '%' :: rest)
  | c :: rest => (splitAtOpening? rest).map fun (before, opening) => (c :: before, opening)

/-- The fault of a `{%` whose `%}` is missing. -/
def unclosed : DirectiveFault :=
  ⟨.unclosedTag, "Unclosed block tag: '\x7b%' without matching '%\x7d'", none⟩

/-- The directive between `{%` and `%}`. A second `{%` inside shows that the first was never
closed. -/
def read (inner : List Char) : Except DirectiveFault Tag :=
  let content := strip inner
  let isWord (c : Char) : Bool := !isBlank c
  if (splitAtOpening? content).isSome then .error unclosed
  else
    match content.takeWhile isWord with
    | [] => .error ⟨.unknownDirective, "Empty directive", none⟩
    | keyword => ofKeyword (String.ofList keyword) (strip (content.dropWhile isWord))

end Directive

end Stencil
