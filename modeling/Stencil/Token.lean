import Stencil.Token.Position

/-!
# Tokens

A token is a piece of a source that has been understood: what it says, its text as written, and the
place where it begins. The last token of a source is always `finish`, the only one without a text.
-/

namespace Stencil

/-- What a token says. Conditions, bounds and names are kept as they are written. -/
inductive Tag where
  | data
  | output (path : String) (filters : List String)
  | openIf (condition : String)
  | elseIf (condition : String)
  | otherwise
  | closeIf
  | openForeach (collection itemName : String)
  | closeForeach
  | openFor (name start stop : String)
  | closeFor
  | finish
  deriving DecidableEq

namespace Tag

/-- The name of the tag's kind. -/
def label : Tag → String
  | data => "DATA"
  | output _ _ => "OUTPUT"
  | openIf _ => "IF"
  | elseIf _ => "ELSEIF"
  | otherwise => "ELSE"
  | closeIf => "ENDIF"
  | openForeach _ _ => "FOREACH"
  | closeForeach => "ENDFOREACH"
  | openFor _ _ _ => "FOR"
  | closeFor => "ENDFOR"
  | finish => "EOF"

/-- The arguments of the tag, in order. -/
def arguments : Tag → List String
  | output path filters => path :: filters
  | openIf condition | elseIf condition => [condition]
  | openForeach collection itemName => [collection, itemName]
  | openFor name start stop => [name, start, stop]
  | _ => []

end Tag

/-- A piece of a source that has been understood. -/
structure Token where
  tag : Tag
  text : String
  position : Position
  deriving DecidableEq

/-- Where a source comes from: the name of the template and the file it was read from. -/
structure Origin where
  name : Option String
  filename : Option String
  deriving DecidableEq

end Stencil
