/-!
# Codes of faults

Every fault that a template, its rendering or the page cache can raise carries a stable code of the
form `C-<area>-<number>`.
-/

namespace Stencil

/-- The area that a code belongs to. -/
inductive Area where
  | lexer
  | parser
  | runtime
  | template
  | cache
  deriving DecidableEq

/-- The name of an area. -/
def Area.name : Area → String
  | lexer => "lexer"
  | parser => "parser"
  | runtime => "runtime"
  | template => "template"
  | cache => "cache"

/-- The code of a fault. -/
inductive Code where
  | unclosedTag
  | unknownDirective
  | malformedDirective
  | unexpectedToken
  | unclosedBlock
  | invalidExpression
  | invalidFilter
  | filterFailed
  | renderFailed
  | templateNotFound
  | malformedTemplate
  | cacheUnavailable
  | cacheMiss
  deriving DecidableEq

namespace Code

/-- All codes, in order of definition. -/
def all : List Code :=
  [unclosedTag, unknownDirective, malformedDirective, unexpectedToken, unclosedBlock, invalidExpression,
    invalidFilter, filterFailed, renderFailed, templateNotFound, malformedTemplate, cacheUnavailable,
    cacheMiss]

theorem mem_all (c : Code) : c ∈ all := by
  cases c <;> decide

/-- The name under which a code is listed. -/
def name : Code → String
  | unclosedTag => "UNCLOSED_TAG"
  | unknownDirective => "UNKNOWN_DIRECTIVE"
  | malformedDirective => "MALFORMED_DIRECTIVE"
  | unexpectedToken => "UNEXPECTED_TOKEN"
  | unclosedBlock => "UNCLOSED_BLOCK"
  | invalidExpression => "INVALID_EXPRESSION"
  | invalidFilter => "INVALID_FILTER"
  | filterFailed => "FILTER_ERROR"
  | renderFailed => "RUNTIME_ERROR"
  | templateNotFound => "TEMPLATE_NOT_FOUND"
  | malformedTemplate => "SYNTAX_ERROR"
  | cacheUnavailable => "CACHE_UNAVAILABLE"
  | cacheMiss => "CACHE_MISS"

/-- The code as it is written. -/
def label : Code → String
  | unclosedTag => "C-LEX-001"
  | unknownDirective => "C-LEX-002"
  | malformedDirective => "C-LEX-003"
  | unexpectedToken => "C-PAR-001"
  | unclosedBlock => "C-PAR-002"
  | invalidExpression => "C-PAR-003"
  | invalidFilter => "C-PAR-004"
  | filterFailed => "C-RUN-001"
  | renderFailed => "C-RUN-002"
  | templateNotFound => "C-TPL-001"
  | malformedTemplate => "C-TPL-002"
  | cacheUnavailable => "C-CCH-001"
  | cacheMiss => "C-CCH-002"

/-- The area of a code. -/
def area : Code → Area
  | unclosedTag | unknownDirective | malformedDirective => .lexer
  | unexpectedToken | unclosedBlock | invalidExpression | invalidFilter => .parser
  | filterFailed | renderFailed => .runtime
  | templateNotFound | malformedTemplate => .template
  | cacheUnavailable | cacheMiss => .cache

/-- The code with the given label. -/
def ofLabel? (label : String) : Option Code :=
  all.find? (·.label = label)

theorem label_injective {c d : Code} (h : c.label = d.label) : c = d := by
  revert h; cases c <;> cases d <;> decide

end Code

end Stencil
