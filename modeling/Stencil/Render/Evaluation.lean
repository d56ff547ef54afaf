import Stencil.Expr
import Stencil.Filter.Basic
import Stencil.Render.Site
import Stencil.Value.Path

/-!
# Evaluation of expressions

An expression is evaluated against the data, the scopes of the loops around it and a table of filters.
A filter that refuses its value makes a failure that names the place, the expression and the value.
-/

namespace Stencil

/-- What a rendering is given: the data and the filters. -/
structure RenderInput where
  data : Scope
  filters : FilterTable

namespace Expr

/-- The failure of a filter that refuses `value`, the value of `operand`. -/
def filterFailure (site : Option Site) (position : Position) (operand : Expr) (name : String)
    (value : Value) (message : String) : Fault :=
  .rendering {
    code := .filterFailed
    message := message
    expression := some (filter position operand name).describe
    values := [(operand.describe, value)]
    templateName := site.bind (·.templateName)
    line := some position.line
    suggestion := some ("Check the value passed to the '" ++ name ++ "' filter")
    snippet := (site.bind fun s => nonEmpty? s.source).map fun source => .around source position.line
    cause := some "FilterValueError" }

/-- One filter applied to the value of an operand. -/
def applyTo (input : RenderInput) (site : Option Site) (position : Position) (operand : Expr)
    (name : String) (value : Value) : Except Fault Value :=
  match applyFilter input.filters value name with
  | .ok result => .ok result
  | .error (.filterValue f v expected) =>
    .error (filterFailure site position operand name value (Fault.filterValue f v expected).message)
  | .error fault => .error fault

/-- The value of an expression. `scopes` are those of the loops around it, innermost first, and `site`
is the active site. -/
def evaluate (input : RenderInput) (scopes : List Scope) (site : Option Site) : Expr → Except Fault Value
  | const _ value => .ok value
  | path _ segments => Value.resolve input.data scopes segments
  | filter position operand name =>
    match evaluate input scopes site operand with
    | .ok value => applyTo input site position operand name value
    | .error fault => .error fault
  | not _ operand => (evaluate input scopes site operand).map fun value => .bool (!value.isTruthy)
  | compare _ left equal right =>
    match evaluate input scopes site left with
    | .error fault => .error fault
    | .ok v =>
      match evaluate input scopes site right with
      | .error fault => .error fault
      | .ok w => (v.compare w).map fun agree => .bool (agree == equal)

end Expr

end Stencil
