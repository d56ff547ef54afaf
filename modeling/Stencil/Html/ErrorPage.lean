import Stencil.Fault
import Stencil.Html.Escape

/-!
# The error page

A complete page that describes a failed rendering: a banner with code, title and kind, and the short
form of the fault. It looks unlike any page a template would give, and all inserted text is escaped.
-/

namespace Stencil.Html

/-- The name of the fault's area, for the page. -/
def areaName (f : Fault) : String :=
  (f.code?.map (·.area.name)).getD "internal"

/-- What the page tells of the fault: the short form, or the bare message of a foreign failure. -/
def detail (f : Fault) : String :=
  if f.isTemplateFault then f.compact else f.message

/-- The title of a page that is given none. -/
def defaultTitle : String := "Template Error"

/-- The page for a fault. -/
def errorPage (f : Fault) (title : String) : String :=
  let code := (f.code?.map (·.label ++ " ")).getD ""
  "<!DOCTYPE html>\n<html lang=\"en\">\n<head>\n<meta charset=\"utf-8\">\n<title>"
    ++ escape title
    ++ "</title>\n<style>body\x7bmargin:0;font-family:sans-serif;background:#fff5f5;color:#1a1a1a\x7d"
    ++ "header\x7bbackground:#c53030;color:#fff;padding:1rem 2rem\x7d"
    ++ "pre\x7bmargin:2rem;padding:1rem;background:#fff;border:1px solid #feb2b2;white-space:pre-wrap\x7d"
    ++ "</style>\n</head>\n<body>\n<header><strong>"
    ++ escape code ++ escape title ++ "</strong>: " ++ escape f.kind
    ++ "</header>\n<pre class=\"curly-error\" data-category=\"" ++ escape (areaName f) ++ "\">"
    ++ escape (detail f) ++ "</pre>\n</body>\n</html>\n"

end Stencil.Html
