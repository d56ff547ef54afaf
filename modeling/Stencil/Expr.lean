import Stencil.Token.Position
import Stencil.Value.Shown

/-!
# Expressions

What an output tag or a condition computes: constants, paths into the data, filters applied to an
expression, negation and comparison. Every expression remembers where its tag begins.
-/

namespace Stencil

/-- An expression. `equal` tells a comparison `==` from a comparison `!=`. -/
inductive Expr where
  | const (position : Position) (value : Value)
  | path (position : Position) (segments : List String)
  | filter (position : Position) (operand : Expr) (name : String)
  | not (position : Position) (operand : Expr)
  | compare (position : Position) (left : Expr) (equal : Bool) (right : Expr)

instance : Inhabited Expr := ⟨.path .start []⟩

namespace Expr

/-- The place of the tag that the expression stands in. -/
def position : Expr → Position
  | const p _ | path p _ | filter p _ _ | not p _ | compare p _ _ _ => p

/-- The operator of a comparison. -/
def operator (equal : Bool) : String :=
  if equal then "==" else "!="

/-- The expression as it would be written. -/
def describe : Expr → String
  | const _ value => value.inspect
  | path _ segments => ".".intercalate segments
  | filter _ operand name => operand.describe ++ "|" ++ name
  | not _ operand => "not " ++ operand.describe
  | compare _ left equal right => left.describe ++ " " ++ operator equal ++ " " ++ right.describe

/-- The filters applied to an expression, from left to right. -/
def pipeline (position : Position) (operand : Expr) (names : List String) : Expr :=
  names.foldl (filter position) operand

end Expr

end Stencil
