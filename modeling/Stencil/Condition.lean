import Stencil.Condition.Lexeme
import Stencil.Expr
import Stencil.Text.Casing

/-!
# Conditions

A condition reads `[not] operand [(== | !=) operand]`, where an operand is a quoted text, a number, one
of the words `true`, `false`, `none` and `null` in any case, or a path with filters. A leading `not`
negates the whole condition.
-/

namespace Stencil

/-- Why a text is no condition. -/
inductive ConditionFault where
  /-- A character belongs to no lexeme; the text from the end of the last one on. -/
  | invalid (rest : List Char)
  | missingOperand
  | unexpected (lexeme : String)
  | unexpectedAfterComparison (lexeme : String)
  | notAnOperand (lexeme : String)
  | notAFilterName (lexeme : String)
  | missingFilterName
  | unknownFilter (name : String)
  /-- An integer has more digits than are read. -/
  | tooManyDigits (digits : Nat)
  deriving DecidableEq

namespace ConditionFault

/-- The text of the fault. -/
def message : ConditionFault → String
  | invalid rest => "Invalid condition near '" ++ String.ofList (strip rest) ++ "'"
  | missingOperand => "Condition is missing an operand"
  | unexpected lexeme => "Unexpected '" ++ lexeme ++ "' in condition"
  | unexpectedAfterComparison lexeme => "Unexpected '" ++ lexeme ++ "' after comparison"
  | notAnOperand lexeme => "Expected a name or literal, got '" ++ lexeme ++ "'"
  | notAFilterName lexeme => "Expected a filter name after '|', got '" ++ lexeme ++ "'"
  | missingFilterName => "Expected a filter name after '|'"
  | unknownFilter name => "Unknown filter '" ++ name ++ "'"
  | tooManyDigits digits => Integer.excessMessage (some digits)

/-- What is suggested instead. -/
def suggestion : ConditionFault → Option String
  | unexpected _ => some "Conditions are 'name', 'not name' or 'left == right'"
  | unexpectedAfterComparison _ => some "Only a single comparison is supported per condition"
  | _ => none

end ConditionFault

/-- The segments of a dotted path. -/
def splitPath (path : String) : List String :=
  ((path.toList.splitOn '.').map String.ofList)

/-- The first of the names that is not among the known ones. -/
def unknownName? (known : List String) (names : List String) : Option String :=
  names.find? fun name => !known.contains name

namespace Condition

/-- The constant that a word stands for, in any case. -/
def constant? (chars : List Char) : Option Value :=
  match lowered (String.ofList chars) with
  | "true" => some (.bool true)
  | "false" => some (.bool false)
  | "none" | "null" => some .null
  | _ => none

/-- Is this a name without points? -/
def isSimpleName (chars : List Char) : Bool :=
  match readName? chars with
  | some (_, []) => true
  | _ => false

/-- The filters `| name | name …` at the start of a row of lexemes and what follows them. -/
def readFilters : List Lexeme → Except ConditionFault (List String × List Lexeme)
  | .operator .bar :: next :: rest =>
    match next with
    | .name chars =>
      if isSimpleName chars then
        (readFilters rest).map fun (names, rest) => (String.ofList chars :: names, rest)
      else .error (.notAFilterName next.text)
    | _ => .error (.notAFilterName next.text)
  | [.operator .bar] => .error .missingFilterName
  | rest => .ok ([], rest)

/-- The operand at the start of a row of lexemes and what follows it. -/
def readOperand (position : Position) (known : List String) :
    List Lexeme → Except ConditionFault (Expr × List Lexeme)
  | [] => .error .missingOperand
  | .quoted literal :: rest => .ok (.const position (.text (String.ofList (Lexeme.unquote literal))), rest)
  | .number literal :: rest =>
    match Lexeme.excess? literal with
    | some digits => .error (.tooManyDigits digits)
    | none => .ok (.const position (Lexeme.numberValue literal), rest)
  | .operator op :: _ => .error (.notAnOperand op.text)
  | .name chars :: rest =>
    match constant? chars with
    | some value => .ok (.const position value, rest)
    | none => do
      let (names, rest) ← readFilters rest
      match unknownName? known names with
      | some name => .error (.unknownFilter name)
      | none => .ok (Expr.pipeline position (.path position (splitPath (String.ofList chars))) names, rest)

/-- The comparison or single operand that a row of lexemes forms. -/
def readComparison (position : Position) (known : List String) (lexemes : List Lexeme) :
    Except ConditionFault Expr := do
  let (left, rest) ← readOperand position known lexemes
  let compare (equal : Bool) (rest : List Lexeme) : Except ConditionFault Expr := do
    match ← readOperand position known rest with
    | (right, []) => .ok (.compare position left equal right)
    | (_, extra :: _) => .error (.unexpectedAfterComparison extra.text)
  match rest with
  | [] => .ok left
  | .operator .equals :: rest => compare true rest
  | .operator .differs :: rest => compare false rest
  | extra :: _ => .error (.unexpected extra.text)

/-- The condition that a text writes, with filters from among the known ones. -/
def read (position : Position) (known : List String) (text : String) : Except ConditionFault Expr :=
  match Lexeme.readAll (stripEnd text.toList) with
  | .error rest => .error (.invalid rest)
  | .ok (.name ['n', 'o', 't'] :: rest) => (readComparison position known rest).map (.not position)
  | .ok lexemes => readComparison position known lexemes

end Condition

end Stencil
