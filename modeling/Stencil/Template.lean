import Stencil.Html.Minify
import Stencil.Node.Reading
import Stencil.Render.Machine

/-!
# Templates

A template is its nodes together with the filters that they were read against. It is rendered any
number of times; the result is the whole output or a fault, never a part of the output. A failure that
is no fault of a template is turned into one that says which line and expression were being rendered.
-/

namespace Stencil

/-- A template that has been read. -/
structure Template where
  nodes : List Node
  filters : FilterTable
  origin : Origin
  source : String
  minify : Bool

namespace Template

/-- Reads a template. -/
def read (filters : FilterTable) (escape minify : Bool) (origin : Origin) (source : String) :
    Except Fault Template :=
  match Node.read ⟨origin, some source, filters.names, escape⟩ source with
  | .ok nodes => .ok ⟨nodes, filters, origin, source, minify⟩
  | .error m => .error (.malformed m)

/-- The data that a rendering is asked for: at most one mapping, and named values that win over its
entries. -/
def mergeArguments (args : List Value) (named : List (String × Value)) : Except Fault Scope :=
  let withNamed (data : Scope) : Scope :=
    named.foldl (fun data (name, v) => Value.insert data (.text name) v) data
  match args with
  | [] => .ok (withNamed [])
  | [arg] =>
    match arg.entries? with
    | some entries => .ok (withNamed (entries.foldl (fun data (k, v) => Value.insert data k v) []))
    | none => .error (.tooManyArguments 1)
  | args => .error (.tooManyArguments args.length)

/-- The name under which a template knows itself. -/
def ownName : String := "self"

/-- The data for a template that is rendered by itself, where its own name is taken already. -/
def ownArguments (args : List Value) (named : List (String × Value)) : Except Fault Scope :=
  if named.any (·.1 = ownName) then
    .error (.badArgument ("Template.render() got multiple values for argument " ++ quoted ownName))
  else mergeArguments args named

/-- The text of a failure in a template's message: its kind and its own text, which may begin with the
kind already or be empty. -/
def failureMessage (fault : Fault) : String :=
  let detail := stripped fault.message
  if detail.isEmpty then fault.kind ++ " (no details available)"
  else if fault.kind.toList.isPrefixOf detail.toList then detail
  else fault.kind ++ ": " ++ detail

/-- A fault as a rendering reports it, with the site at which it came up. -/
def explain (t : Template) (site : Option Site) (fault : Fault) : Fault :=
  if fault.isTemplateFault then fault
  else
    let line := (site.map (·.line)).getD 0
    .rendering {
      code := .renderFailed
      message := failureMessage fault
      expression := site.bind (·.expression)
      values := []
      templateName := t.origin.name
      line := some line
      suggestion := none
      snippet := if t.source.isEmpty || line = 0 then none else some (.around t.source line)
      cause := some fault.kind }

/-- Renders the nodes inside of a site of their own, which is left again even if they fail. Given the
sites around; the result comes with the sites that remain. -/
def renderNodes (t : Template) (data : Scope) (sites : List Site) : Except Fault String × List Site :=
  let site := Site.fresh t.origin.name t.origin.filename (some t.source)
  let (result, sites) := Node.renderText ⟨data, t.filters⟩ t.nodes [] (site :: sites)
  (result.mapError (t.explain sites.head?), sites.tail)

/-- The output of the template on the given data, and the sites that remain. -/
def render (t : Template) (data : Scope) (sites : List Site) : Except Fault String × List Site :=
  match t.renderNodes data sites with
  | (.ok output, sites) => (if t.minify then Html.minify output else .ok output, sites)
  | failed => failed

/-- The template in messages. -/
def inspect (t : Template) : String :=
  "<Template " ++ (nonEmpty? t.origin.name).getD "(inline)" ++ ">"

end Template

end Stencil
