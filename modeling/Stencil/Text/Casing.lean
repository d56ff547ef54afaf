import Stencil.Text.CaseTable

/-!
# Upper, lower and title case

Case mapping of whole texts. A character may become several (`ß` becomes `SS`), and the capital
sigma becomes the final form `ς` at the end of a word. Title case raises every cased character that
does not follow another one, so an apostrophe starts a new word.
-/

namespace Stencil

namespace CaseRun

/-- The partner of `n`, if the run covers it. -/
def partner? (r : CaseRun) (n : Nat) : Option Char :=
  if r.covers n then some (Char.ofNat (n + r.delta).toNat) else none

end CaseRun

/-- Case mapping of one character: the exceptions first, then the runs; all else stays. -/
def mapCase (exceptions : List (Nat × List Nat)) (runs : List CaseRun) (c : Char) : List Char :=
  match exceptions.lookup c.toNat with
  | some codes => codes.map Char.ofNat
  | none => [(runs.findSome? (·.partner? c.toNat)).getD c]

/-- The upper case of one character. -/
def upperOf (c : Char) : List Char :=
  mapCase upperExceptions upperRuns c

/-- The lower case of one character, wherever it stands. -/
def lowerOf (c : Char) : List Char :=
  mapCase lowerExceptions lowerRuns c

/-- The title case of one character. -/
def titleOf (c : Char) : List Char :=
  match titleExceptions.lookup c.toNat with
  | some codes => codes.map Char.ofNat
  | none => upperOf c

/-- Does `c` have a case? -/
def isCased (c : Char) : Bool :=
  casedRanges.has c.toNat

/-- Is `c` skipped in the search for the letters around a sigma? -/
def isCaseIgnorable (c : Char) : Bool :=
  caseIgnorableRanges.has c.toNat

/-- Does the first character that is not skipped have a case? -/
def meetsCased (cs : List Char) : Bool :=
  match cs.dropWhile isCaseIgnorable with
  | [] => false
  | c :: _ => isCased c

/-- The lower case of `c` between the characters `before` (nearest first) and `after`: a capital
sigma is final if a cased letter precedes it and none follows. -/
def lowerBetween (before : List Char) (c : Char) (after : List Char) : List Char :=
  if c = 'Σ' then
    if meetsCased before && !meetsCased after then ['ς'] else ['σ']
  else
    lowerOf c

/-- The upper case of a text. -/
def upper (cs : List Char) : List Char :=
  cs.flatMap upperOf

/-- The lower case of a text that follows `before` (nearest first). -/
def lowerAfter (before : List Char) : List Char → List Char
  | [] => []
  | c :: rest => lowerBetween before c rest ++ lowerAfter (c :: before) rest

/-- The lower case of a text. -/
def lower (cs : List Char) : List Char :=
  lowerAfter [] cs

/-- The first character in title case, the others in lower case. -/
def capitalize : List Char → List Char
  | [] => []
  | c :: rest => titleOf c ++ lowerAfter [c] rest

/-- Title case of a text that follows `before` (nearest first). -/
def titleAfter (before : List Char) : List Char → List Char
  | [] => []
  | c :: rest =>
    (if before.head?.any isCased then lowerBetween before c rest else titleOf c)
      ++ titleAfter (c :: before) rest

/-- Title case of a text: every cased character after another one is lowered, the rest is raised. -/
def title (cs : List Char) : List Char :=
  titleAfter [] cs

/-- `lower` on strings. -/
def lowered (s : String) : String :=
  String.ofList (lower s.toList)

end Stencil
