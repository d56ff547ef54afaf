import Stencil.Proofs.Engine.Storms
import Stencil.Proofs.Html.Minifying
import Stencil.Proofs.Node.Acceptance
import Stencil.Proofs.Render.Failures

/-!
# What a rendering fails with

Whatever a filter raises and whatever data is given, the failure of nodes is explained as a fault of their
template. Five things happen outside of what is explained: the template is loaded, its numbers are converted, the key of
its page is made from the data, its output is minified, and the page is kept. `Engine.render_fails_only` says that a
rendering ends with a fault of a template unless one of these breaks (`Engine.Breaks`), and
`Engine.imitated_placeholder_breaks` is a rendering where the minification does.
-/

namespace Stencil

namespace Template

variable {t : Template} {data : Scope} {sites : List Site} {fault : Fault}

/-- The output imitates a placeholder of its minification, which ends with the fault: no protected element has its
number, or the number has too many digits. -/
def ImitatesPlaceholder (output : String) (fault : Fault) : Prop :=
  ∃ digits p, Html.IsPlaceholder digits p ∧ p <:+: output.toList
    ∧ ((fault = .unconverted (quoted (String.ofList digits)) (.tooLong digits.length)
        ∧ Integer.greatestLength < digits.length)
      ∨ fault = .missingItem ∧ (Html.stashFrom 0 0 output.toList).elements.length ≤ Lexeme.digitsValue digits)

end Template

namespace Engine

variable {e : Engine} {w : World} {name : String} {source : TemplateSource} {data : Scope} {arg : Value}
  {args : List Value} {named : List (String × Value)} {fault : Fault}

/-- What may break when a rendering is asked for, with the fault that it ends with. -/
inductive Breaks (e : Engine) (w : World) (name : String) (args : List Value) (named : List (String × Value)) :
    Fault → Prop
  /-- The loader breaks down. -/
  | loading {loader : Loader} {fault : Fault} (found : e.loader = some loader)
    (failed : (load name (e, w)).1 = .error fault) (breakdown : loader.IsBreakdown fault) :
    Breaks e w name args named fault
  /-- A number in the template has too many digits. -/
  | reading {m : Malformed} {digits : Nat} (failed : (template name (e, w)).1 = .error (.malformed m))
    (reports : m.ReportsDigits digits) : Breaks e w name args named (.malformed m)
  /-- The search for the key of the page fails. -/
  | keying {fault : Fault} {data : Scope} {source : TemplateSource}
    (merged : Template.mergeArguments args named = .ok data) (loaded : (load name (e, w)).1 = .ok source)
    (failed : KeyFault e name source data fault) : Breaks e w name args named fault
  /-- The output is to be minified and imitates a placeholder. -/
  | minifying {data : Scope} {t : Template} {output : String} {fault : Fault}
    (merged : Template.mergeArguments args named = .ok data)
    (read : (template name (e, w)).1.map (·.template) = .ok t) (minify : t.minify)
    (rendered : (t.renderNodes data []).1 = .ok output) (imitation : Template.ImitatesPlaceholder output fault) :
    Breaks e w name args named fault
  /-- The page has been made and cannot be kept. -/
  | keeping {fault : Fault} {data : Scope} {source : TemplateSource} {page : String}
    (merged : Template.mergeArguments args named = .ok data) (loaded : (load name (e, w)).1 = .ok source)
    (made : (renderSource name source data (e, w)).1 = .ok page) (unkept : KeepFault e w page fault) :
    Breaks e w name args named fault

end Engine

end Stencil
