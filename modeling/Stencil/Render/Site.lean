/-!
# Sites

While a template is rendered, a site records which template it is and which line and expression are
being worked on, for the sake of messages. Sites nest; the innermost one is active.
-/

namespace Stencil

/-- Where a rendering is. -/
structure Site where
  templateName : Option String
  filename : Option String
  source : Option String
  line : Int
  expression : Option String
  deriving DecidableEq

namespace Site

/-- A site of which nothing has been rendered yet. -/
def fresh (templateName filename source : Option String) : Site :=
  ⟨templateName, filename, source, 0, none⟩

/-- The site at another line and expression. -/
def mark (s : Site) (line : Int) (expression : Option String) : Site :=
  { s with line := line, expression := expression }

/-- Marks the active site, if there is one. -/
def markActive (sites : List Site) (line : Int) (expression : Option String) : List Site :=
  match sites with
  | [] => []
  | site :: outer => site.mark line expression :: outer

end Site

end Stencil
