import Stencil.Token.Directive

/-!
# Reading tokens

A source is cut into pieces, and every piece becomes one token or the first fault of the source. The
texts of the tokens put together are the source, and each token knows where it begins.
-/

namespace Stencil.Token

/-- A fault of the source at `p`. -/
def malformed (origin : Origin) (source : String) (p : Position) (fragment : List Char)
    (fault : DirectiveFault) : Malformed :=
  ⟨.lexer, fault.code, fault.message, some p.line, some p.column, origin.name, origin.filename, some source,
    some (String.ofList fragment), fault.suggestion⟩

/-- The greatest length of the text that is shown of a tag that is never closed. -/
def unclosedWidth : Nat := 40

/-- What is shown of a tag that is never closed: the start of its first line. -/
def unclosedFragment (opening : List Char) : List Char :=
  (splitLines (opening.take unclosedWidth)).head?.getD []

/-- The token of a piece that begins at `p`. -/
def ofPiece (origin : Origin) (source : String) (p : Position) (piece : Piece) : Except Malformed Token :=
  match piece with
  | .text chars =>
    match Directive.splitAtOpening? chars with
    | some (before, opening) =>
      .error (malformed origin source (p.after before) (unclosedFragment opening) Directive.unclosed)
    | none => .ok ⟨.data, String.ofList chars, p⟩
  | .output chars path filters =>
    .ok ⟨.output (String.ofList path) (filters.map String.ofList), String.ofList chars, p⟩
  | .block inner =>
    match Directive.read inner with
    | .ok tag => .ok ⟨tag, String.ofList piece.chars, p⟩
    | .error fault => .error (malformed origin source p piece.chars fault)

/-- The tokens of pieces that begin at `p`, up to the first fault. -/
def ofPieces (origin : Origin) (source : String) : Position → List Piece → Except Malformed (List Token)
  | p, [] => .ok [⟨.finish, "", p⟩]
  | p, piece :: rest =>
    match ofPiece origin source p piece with
    | .error fault => .error fault
    | .ok token => (ofPieces origin source (p.after piece.chars) rest).map (token :: ·)

/-- The tokens of a source. -/
def read (origin : Origin) (source : String) : Except Malformed (List Token) :=
  ofPieces origin source .start (Piece.split source.toList)

/-- A token in messages: its kind, its text and its place. -/
def inspect (t : Token) : String :=
  "Token(" ++ t.tag.label ++ ", " ++ quoted t.text ++ ", " ++ toString t.position.line ++ ":"
    ++ toString t.position.column ++ ")"

end Stencil.Token
