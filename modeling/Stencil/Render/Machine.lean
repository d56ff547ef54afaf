import Stencil.Html.Escape
import Stencil.Node
import Stencil.Render.Evaluation

/-!
# The rendering machine

Nodes are rendered by a machine that gathers output, keeps the scopes of the loops it is in and marks
the active site with the line and expression it works on. A loop opens one scope, which its rounds
change in place, and closes it again however it ends.
-/

namespace Stencil

/-- The state of a rendering. -/
structure Machine where
  /-- The output so far, last part first. -/
  output : List String
  /-- The scopes of the loops around, innermost first. -/
  scopes : List Scope
  /-- The sites of the renderings around, innermost first. -/
  sites : List Site

/-- A step of a rendering: it may fail, but leaves a state in any case. -/
abbrev Render := ExceptT Fault (StateM Machine)

namespace Render

/-- Adds to the output. -/
def emit (s : String) : Render Unit :=
  modify fun m => { m with output := s :: m.output }

/-- Marks the active site. -/
def mark (line : Nat) (expression : Option String) : Render Unit :=
  modify fun m => { m with sites := Site.markActive m.sites line expression }

/-- The value of an expression in the current scopes. -/
def evaluate (input : RenderInput) (expr : Expr) : Render Value := do
  let m ← get
  match expr.evaluate input m.scopes m.sites.head? with
  | .ok value => pure value
  | .error fault => throw fault

/-- A step inside of one more scope, which is closed again even if the step fails. -/
def withScope {α : Type} (scope : Scope) (act : Render α) : Render α :=
  fun m =>
    let (result, m) := act { m with scopes := scope :: m.scopes }
    (result, { m with scopes := m.scopes.tail })

/-- Sets a name in the innermost scope. -/
def setName (name : String) (value : Value) : Render Unit :=
  modify fun m =>
    match m.scopes with
    | [] => m
    | scope :: outer => { m with scopes := Value.insert scope (.text name) value :: outer }

/-- The name under which a loop offers its own state. -/
def loopName : String := "loop"

/-- The scope that a loop opens before its first round. -/
def loopScope (length : Int) : Scope :=
  [(.text loopName, .loop ⟨0, length⟩)]

/-- The next round of a loop, in the scope that all its rounds share: the loop's state moves on, and then
the item takes its name, which may be the name of the state. -/
def enterRound (state : LoopState) (name : String) (item : Value) : Render Unit := do
  setName loopName (.loop state)
  setName name item

/-- One round for each item, from round `index` of `length` on. -/
def forItems (name : String) (length : Nat) (body : Render Unit) : (index : Nat) → List Value → Render Unit
  | _, [] => pure ()
  | index, item :: rest => do
    enterRound ⟨index, length⟩ name item
    body
    forItems name length body (index + 1) rest

/-- `rounds` more rounds of a counting loop, from round `index` on, which began at `start`. -/
def forCount (name : String) (start : Int) (length : Nat) (body : Render Unit) : (rounds : Nat) → Render Unit
  | 0 => pure ()
  | rounds + 1 => do
    let index := length - (rounds + 1)
    enterRound ⟨index, length⟩ name (.int (start + index))
    body
    forCount name start length body rounds

/-- The output of a value: markup is trusted, everything else is escaped if `escape` says so. -/
def outputText (escape : Bool) (v : Value) : Except Fault String :=
  v.print.map fun s => if escape && !v.printsMarkup then Html.escape s else s

/-- Adds the output of a value to the output. -/
def emitValue (escape : Bool) (v : Value) : Render Unit :=
  match outputText escape v with
  | .ok s => emit s
  | .error fault => throw fault

end Render

mutual

/-- Renders a node. -/
def Node.render (input : RenderInput) : Node → Render Unit
  | .data _ text => Render.emit text
  | .output position expr source escape => do
    Render.mark position.line (some source)
    let value ← Render.evaluate input expr
    Render.emitValue escape value
  | .cond position branches otherwise =>
    Node.renderBranches input position branches (Node.renderAll input otherwise)
  | .foreach position collection itemName body => do
    Render.mark position.line none
    let value ← Render.evaluate input (.path position collection)
    let items := value.sequence?.getD []
    if items.isEmpty then pure ()
    else
      Render.withScope (Render.loopScope items.length)
        (Render.forItems itemName items.length (Node.renderAll input body) 0 items)
  | .count _ name start stop body =>
    if stop < start then pure ()
    else
      let length := (stop - start + 1).toNat
      Render.withScope (Render.loopScope length)
        (Render.forCount name start length (Node.renderAll input body) length)

/-- Renders nodes in order. -/
def Node.renderAll (input : RenderInput) : List Node → Render Unit
  | [] => pure ()
  | node :: rest => do
    Node.render input node
    Node.renderAll input rest

/-- Renders the first branch whose test is true, or else `otherwise`. -/
def Node.renderBranches (input : RenderInput) (position : Position) :
    List (Expr × List Node) → Render Unit → Render Unit
  | [], otherwise => otherwise
  | (test, body) :: rest, otherwise => do
    Render.mark position.line none
    let value ← Render.evaluate input test
    if value.isTruthy then Node.renderAll input body
    else Node.renderBranches input position rest otherwise

end

/-- The text of nodes that are rendered inside of the given scopes, or the failure that ended it, and the
sites that remain. -/
def Node.renderText (input : RenderInput) (nodes : List Node) (scopes : List Scope) (sites : List Site) :
    Except Fault String × List Site :=
  let (result, m) := Node.renderAll input nodes ⟨[], scopes, sites⟩
  (result.map fun _ => String.join m.output.reverse, m.sites)

end Stencil
