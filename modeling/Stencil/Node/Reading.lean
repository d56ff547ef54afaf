import Stencil.Condition
import Stencil.Node
import Stencil.Number.Integer
import Stencil.Token.Reading

/-!
# Reading nodes

Tokens are read from left to right with a stack of the blocks that are open. Each token either extends
the innermost block, opens one, or closes one, or it is the first token that fits nowhere. At the end
no block may be open.
-/

namespace Stencil

/-- The kinds of blocks. -/
inductive BlockKind where
  | cond
  | foreach
  | count
  deriving DecidableEq

/-- The word that opens a block; with `end` in front it closes it. -/
def BlockKind.word : BlockKind → String
  | cond => "if"
  | foreach => "foreach"
  | count => "for"

/-- What an open block has gathered besides the nodes of its current part. -/
inductive BlockState where
  /-- The finished branches (last first) and the test of the current one. -/
  | branch (before : List (Expr × List Node)) (test : Expr)
  /-- The last part of a conditional, after all branches, opened in the given line. -/
  | otherwise (branches : List (Expr × List Node)) (line : Nat)
  | foreach (collection itemName : String)
  | count (name start stop : String)

/-- An open block: its opening token, what it has gathered, and the nodes of its current part (last
first). -/
structure OpenBlock where
  opening : Token
  state : BlockState
  nodes : List Node

namespace OpenBlock

/-- The kind of the block. -/
def kind (b : OpenBlock) : BlockKind :=
  match b.state with
  | .branch _ _ | .otherwise _ _ => .cond
  | .foreach _ _ => .foreach
  | .count _ _ _ => .count

/-- The tag that closes the block, as it is written. -/
def closing (b : OpenBlock) : String :=
  Directive.shown ("end" ++ b.kind.word)

/-- The number that a bound of a counting loop writes. -/
def bound (s : String) : Except Malformed Int :=
  (Integer.read s.toList).mapError (Malformed.number (quoted s))

/-- The finished block. The bounds of a counting loop are converted only now, the first one first. -/
def finished (b : OpenBlock) : Except Malformed Node :=
  let body := b.nodes.reverse
  let position := b.opening.position
  match b.state with
  | .branch before test => .ok (.cond position ((test, body) :: before).reverse [])
  | .otherwise branches _ => .ok (.cond position branches body)
  | .foreach collection itemName => .ok (.foreach position (splitPath collection) itemName body)
  | .count name start stop =>
    match bound start, bound stop with
    | .ok first, .ok last => .ok (.count position name first last body)
    | .error m, _ | .ok _, .error m => .error m

end OpenBlock

/-- What the reader of nodes is given besides the tokens. -/
structure ReadContext where
  origin : Origin
  /-- The source for quotations, if it may be quoted. -/
  source : Option String
  /-- The names of the known filters. -/
  filters : List String
  /-- Are outputs escaped? -/
  escape : Bool

/-- The reader between two tokens: the open blocks, innermost first, and the nodes outside of all
blocks (last first). -/
structure NodeReader where
  blocks : List OpenBlock
  nodes : List Node

namespace NodeReader

/-- The reader in front of the first token. -/
def start : NodeReader := ⟨[], []⟩

/-- The number of open blocks. -/
def depth (r : NodeReader) : Nat := r.blocks.length

/-- A finished node goes to the innermost block. -/
def add (r : NodeReader) (node : Node) : NodeReader :=
  match r.blocks with
  | [] => { r with nodes := node :: r.nodes }
  | b :: outer => { r with blocks := { b with nodes := node :: b.nodes } :: outer }

/-- A new innermost block. -/
def push (r : NodeReader) (opening : Token) (state : BlockState) : NodeReader :=
  { r with blocks := ⟨opening, state, []⟩ :: r.blocks }

/-- A fault at a token. -/
def fault (ctx : ReadContext) (code : Code) (t : Token) (message : String) (suggestion : Option String) :
    Malformed :=
  ⟨.parser, code, message, some t.position.line, some t.position.column, ctx.origin.name,
    ctx.origin.filename, ctx.source, nonEmpty? (some t.text), suggestion⟩

/-- A tag of a conditional outside of all blocks. -/
def outsideConditional (ctx : ReadContext) (t : Token) : Malformed :=
  fault ctx .unexpectedToken t (t.text ++ " outside of an if block")
    (some ("elseif and else must appear between " ++ Directive.shown "if" ++ " and "
      ++ Directive.shown "endif"))

/-- A closing tag outside of all blocks. -/
def nothingToClose (ctx : ReadContext) (t : Token) : Malformed :=
  fault ctx .unexpectedToken t
    ("Unexpected " ++ t.text ++ " at depth 0: there is no open block to close")
    (some "Remove the directive or add the matching opening directive")

/-- A tag that does not fit the innermost block `b`. -/
def wrongTag (ctx : ReadContext) (r : NodeReader) (b : OpenBlock) (t : Token) : Malformed :=
  fault ctx .unexpectedToken t
    ("Unexpected " ++ t.text ++ " at depth " ++ toString r.depth ++ ": expected " ++ b.closing
      ++ " to close '" ++ b.kind.word ++ "' opened at line " ++ toString b.opening.position.line)
    (some "Close inner blocks before outer ones")

/-- A branch after the last part, which was opened in `line`. -/
def afterOtherwise (ctx : ReadContext) (line : Nat) (t : Token) : Malformed :=
  let what := match t.tag with
    | .elseIf _ => "elseif"
    | _ => "a second else"
  fault ctx .unexpectedToken t
    ("Unexpected " ++ what ++ " after " ++ Directive.shown "else" ++ " (line " ++ toString line ++ ")")
    (some (Directive.shown "else" ++ " must be the last branch of an if block"))

/-- The block `b` is still open at the end. -/
def unclosedBlock (ctx : ReadContext) (r : NodeReader) (b : OpenBlock) : Malformed :=
  fault ctx .unclosedBlock b.opening
    ("Unclosed '" ++ b.kind.word ++ "' block opened at line " ++ toString b.opening.position.line
      ++ " (depth " ++ toString r.depth ++ "); expected " ++ b.closing)
    (some ("Add " ++ b.closing ++ " to close the block"))

/-- A filter that is not known, used in the tag of `t`. -/
def unknownFilter (ctx : ReadContext) (t : Token) (name : String) : Malformed :=
  Malformed.unknownFilter name ctx.filters (some t.position.line) (some t.position.column)
    ctx.origin.name ctx.origin.filename ctx.source (some t.text)

/-- The condition in the tag of `t`. -/
def readCondition (ctx : ReadContext) (t : Token) (condition : String) : Except Malformed Expr :=
  match Condition.read t.position ctx.filters condition with
  | .ok test => .ok test
  | .error (.unknownFilter name) => .error (unknownFilter ctx t name)
  | .error (.tooManyDigits digits) => .error (.number "" (.tooLong digits))
  | .error e => .error (fault ctx .invalidExpression t e.message e.suggestion)

/-- The output of a path with filters. -/
def readOutput (ctx : ReadContext) (t : Token) (path : String) (filters : List String) :
    Except Malformed Node :=
  match unknownName? ctx.filters filters with
  | some name => .error (unknownFilter ctx t name)
  | none =>
    let operand := Expr.path t.position (splitPath path)
    .ok (.output t.position (Expr.pipeline t.position operand filters) t.text ctx.escape)

/-- A tag `elseif` or `else`: the current branch ends, and `next` says what begins. -/
def nextBranch (ctx : ReadContext) (r : NodeReader) (t : Token)
    (next : List (Expr × List Node) → Except Malformed BlockState) : Except Malformed NodeReader :=
  match r.blocks with
  | [] => .error (outsideConditional ctx t)
  | b :: outer =>
    match b.state with
    | .branch before test =>
      (next ((test, b.nodes.reverse) :: before)).map fun state =>
        { r with blocks := { b with state := state, nodes := [] } :: outer }
    | .otherwise _ line => .error (afterOtherwise ctx line t)
    | _ => .error (wrongTag ctx r b t)

/-- A closing tag for a block of the given kind. -/
def close (ctx : ReadContext) (r : NodeReader) (t : Token) (kind : BlockKind) : Except Malformed NodeReader :=
  match r.blocks with
  | [] => .error (nothingToClose ctx t)
  | b :: outer =>
    if b.kind = kind then b.finished.map (add { r with blocks := outer })
    else .error (wrongTag ctx r b t)

/-- One token. The end of the source changes nothing. -/
def step (ctx : ReadContext) (r : NodeReader) (t : Token) : Except Malformed NodeReader :=
  match t.tag with
  | .data => .ok (r.add (.data t.position t.text))
  | .output path filters => (readOutput ctx t path filters).map r.add
  | .openIf condition => (readCondition ctx t condition).map fun test => r.push t (.branch [] test)
  | .elseIf condition =>
    nextBranch ctx r t fun before => (readCondition ctx t condition).map fun test => .branch before test
  | .otherwise => nextBranch ctx r t fun before => .ok (.otherwise before.reverse t.position.line)
  | .openForeach collection itemName => .ok (r.push t (.foreach collection itemName))
  | .openFor name start stop => .ok (r.push t (.count name start stop))
  | .closeIf => close ctx r t .cond
  | .closeForeach => close ctx r t .foreach
  | .closeFor => close ctx r t .count
  | .finish => .ok r

/-- The nodes that have been read, if no block is open. -/
def result (ctx : ReadContext) (r : NodeReader) : Except Malformed (List Node) :=
  match r.blocks with
  | [] => .ok r.nodes.reverse
  | b :: _ => .error (unclosedBlock ctx r b)

end NodeReader

/-- The nodes that tokens form. -/
def Node.ofTokens (ctx : ReadContext) (tokens : List Token) : Except Malformed (List Node) := do
  (← tokens.foldlM (NodeReader.step ctx) .start).result ctx

/-- The nodes of a source. -/
def Node.read (ctx : ReadContext) (source : String) : Except Malformed (List Node) := do
  Node.ofTokens ctx (← Token.read ctx.origin source)

end Stencil
