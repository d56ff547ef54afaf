import Stencil.Value.Shown

/-!
# Escaping

Text is made safe for markup by replacing five characters by entities. Trusted markup, and foreign
objects that offer markup, are left as they are.
-/

namespace Stencil.Html

/-- What stands for a character in markup. -/
def escapeChar : Char → List Char
  | '&' => ['&', 'a', 'm', 'p', ';']
  | '<' => ['&', 'l', 't', ';']
  | '>' => ['&', 'g', 't', ';']
  | '"' => ['&', 'q', 'u', 'o', 't', ';']
  | '\'' => ['&', '#', 'x', '2', '7', ';']
  | c => [c]

/-- The text with the five special characters replaced. -/
def escape (s : String) : String :=
  String.ofList (s.toList.flatMap escapeChar)

/-- The value as safe markup: what is trusted stays, everything else is escaped. -/
def escapeValue : Value → String
  | .markup s => s
  | .foreign mark true portrait => (Value.foreign mark true portrait).display
  | v => escape v.display

end Stencil.Html
