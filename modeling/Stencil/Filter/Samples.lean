import Stencil.Filter.Builtin
import Stencil.Filter.Registry

/-!
# Sample filters

Filters that a host may register beside the built-in ones: some that change text, some that pass values
through, and some that fail, one for each way in which a filter can fail.
-/

namespace Stencil.Filter

/-- The characters that a value is shown with, changed; the result is plain text. -/
def onDisplay (f : String → String) : Filter :=
  fun v => v.write.map fun s => .text (f s)

/-- A text or a sequence as the list of its items, anything else as a list of one. -/
def listify : Filter :=
  fun v => .ok (.list (match v.text?, v.sequence? with
    | some s, _ => s.toList.map fun c => .text (String.ofList [c])
    | none, some items => items
    | none, none => [v]))

/-- Texts only. -/
def picky : Filter :=
  fun v => if v.text?.isSome then .ok v else .error (v.refusedBy "picky" "text")

/-- A filter that always fails. -/
def failing (fault : Fault) : Filter :=
  fun _ => .error fault

/-- The sample filters by name. -/
def samples : List (String × Filter) :=
  [("shout", onDisplay fun s => String.ofList (upper s.toList) ++ "!"),
    ("tag", onDisplay fun s => "<" ++ s ++ ">"),
    ("bracket", onDisplay fun s => "[" ++ s ++ "]"),
    ("reverse", onDisplay fun s => String.ofList s.toList.reverse),
    ("identity", fun v => .ok v), ("none", fun _ => .ok .null), ("undef", fun _ => .ok .undefined),
    ("listify", listify), ("bold", fun v => v.write.map fun s => .markup ("<b>" ++ s ++ "</b>")),
    ("key_error", failing (.missingKey "missing")), ("empty_error", failing (.raised "ValueError" "")),
    ("blank_error", failing (.raised "ValueError" "  \n ")),
    ("dup_error", failing (.raised "ValueError" "ValueError was here")),
    ("padded_error", failing (.raised "ArithmeticError" "  padded  ")), ("picky", picky),
    ("template_error", failing (.plain "plain failure")),
    ("cache_error", failing (.cacheUnavailable "C-CCH-001 already coded" none))]

/-- The filter of the given name among the built-in or the sample filters. -/
def named? (builtin : Bool) (name : String) : Option Filter :=
  (if builtin then builtins else samples).lookup name

end Stencil.Filter
