import Stencil.Expr

/-!
# Nodes

A template is a row of nodes: literal text, outputs, conditionals with one or more branches, loops over
a collection and counting loops. Every node remembers where its tag begins.
-/

namespace Stencil

/-- A node of a template. -/
inductive Node where
  /-- Literal text. -/
  | data (position : Position) (text : String)
  /-- The value of an expression; `source` is the tag as it is written. -/
  | output (position : Position) (expr : Expr) (source : String) (escape : Bool)
  /-- The body of the first branch whose test is true, or else of the last part. -/
  | cond (position : Position) (branches : List (Expr × List Node)) (otherwise : List Node)
  /-- The body once for every item of a collection. -/
  | foreach (position : Position) (collection : List String) (itemName : String) (body : List Node)
  /-- The body once for every integer from `start` to `stop`. -/
  | count (position : Position) (name : String) (start stop : Int) (body : List Node)

instance : Inhabited Node := ⟨.data .start ""⟩

/-- The place where the node's tag begins. -/
def Node.position : Node → Position
  | .data p _ | .output p _ _ _ | .cond p _ _ | .foreach p _ _ _ | .count p _ _ _ _ => p

end Stencil
