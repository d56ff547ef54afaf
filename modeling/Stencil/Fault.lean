import Stencil.Disk.Fault
import Stencil.Fault.Code
import Stencil.Fault.Snippet
import Stencil.Number.Integer
import Stencil.Text.Blank
import Stencil.Text.Similarity
import Stencil.Value.Shown

/-!
# Faults

Everything that can go wrong, by cause. The faults of templates carry a place, and their texts quote
the source and give hints; the remaining ones are failures of filters, of settings, of the disk and of
what is asked of the library. `Fault.kind` and `Fault.message` are the words for each of them, and
`Fault.compact` is the short form with the code in front.
-/

namespace Stencil

/-- Which stage rejects a template, and for which filter name if it is one that is unknown. -/
inductive MalformedKind where
  | general
  | lexer
  | parser
  | unknownFilter (filter : String)
  /-- No stage does: a number in the template is not converted, which is not reported as a fault of the template. -/
  | number
  deriving DecidableEq

/-- A template that cannot be read. -/
structure Malformed where
  kind : MalformedKind
  code : Code
  message : String
  line : Option Int
  column : Option Int
  name : Option String
  filename : Option String
  source : Option String
  fragment : Option String
  suggestion : Option String

/-- A failure in the middle of rendering. `values` are what the failing expression looked up, and
`cause` is the kind of the failure behind this one. -/
structure RenderFailure where
  code : Code
  message : String
  expression : Option String
  values : List (String × Value)
  templateName : Option String
  line : Option Int
  suggestion : Option String
  snippet : Option Snippet
  cause : Option String

/-- What went wrong. -/
inductive Fault where
  /-- A failure of the engine without a code. -/
  | plain (message : String)
  | notFound (message : String)
  | malformed (details : Malformed)
  | rendering (details : RenderFailure)
  | cacheUnavailable (message : String) (cause : Option String)
  | cacheMiss (key : String) (cause : Option String)
  /-- A filter was given a value it cannot take. -/
  | filterValue (filter : String) (value : Value) (expected : String)
  /-- A failure raised by a registered filter, of a kind of its own. -/
  | raised (kind : String) (message : String)
  /-- A text, as it is shown in quotes, is not converted to an integer. -/
  | unconverted (shown : String) (refusal : Integer.Refusal)
  | missingKey (key : String)
  | missingItem
  /-- A rounded number would need more digits than there are. -/
  | tooManyDigits
  | notAFilter (name : String) (typeName : String)
  | notCallable (typeName : String)
  | tooManyArguments (count : Nat)
  | noLoader
  /-- A loader of the given kind cannot be asked this. -/
  | unsupported (kind question : String)
  | tooDeep
  | badSetting (message : String)
  | badArgument (message : String)
  | disk (details : DiskFault)
  | undecodable (message : String)
  /-- A text cannot be written as bytes. -/
  | unencodable (message : String)
  /-- A value has no text. -/
  | unwritten (details : Unwritten)
  /-- A path holds the character that no path can hold. -/
  | nullCharacter

/-- A text that is there and not empty. -/
def nonEmpty? : Option String → Option String
  | some "" => none
  | s => s

/-- A number that is there and not zero. -/
def nonZero? : Option Int → Option Int
  | some 0 => none
  | n => n

/-- A place in a source: its name, and the line and the column as far as they are known. -/
def location (place : Option String) (line column : Option Int) : String :=
  let place := (nonEmpty? place).getD "<template>"
  match nonZero? line with
  | none => place
  | some line =>
    let place := place ++ ":" ++ toString line
    match column with
    | none => place
    | some column => place ++ ":" ++ toString column

/-- The code in front of a message, and under it the details that are there. -/
def compactText (code : Code) (message : String) (details : List (Option String)) : String :=
  "\n".intercalate ((code.label ++ ": " ++ message) :: details.filterMap id)

/-- A label in front of a text, if there is a text. -/
def labelled (label : String) (s : Option String) : Option String :=
  (nonEmpty? s).map (label ++ ·)

namespace Malformed

/-- The place of the fault: the file if it is known, else the template's name. -/
def location (m : Malformed) : String :=
  Stencil.location ((nonEmpty? m.filename).or m.name) m.line m.column

/-- The faulty line and a caret under the column. -/
def quotedLine (m : Malformed) (source : String) (line : Int) : List String :=
  if line ≤ 0 then []
  else
    match (splitLines source.toList)[line.toNat - 1]? with
    | none => []
    | some text =>
      ["   |", lineNumber line ++ " | " ++ String.ofList text]
        ++ m.column.toList.map fun column => "   | " ++ blanks column.toNat ++ "^"

/-- The full text: message, place, the quoted line or else the fragment, and the suggestion. -/
def text (m : Malformed) : String :=
  let quotation :=
    match nonEmpty? m.source, nonZero? m.line with
    | some source, some line => m.quotedLine source line
    | _, _ => (labelled "  Fragment: " m.fragment).toList
  "\n".intercalate
    (["Syntax Error: " ++ m.message, "  --> " ++ m.location] ++ quotation
      ++ (labelled "\nSuggestion: " m.suggestion).toList)

/-- The short form. -/
def compact (m : Malformed) : String :=
  compactText m.code m.message
    [some ("  --> " ++ m.location), labelled "  Fragment: " m.fragment, labelled "  Hint: " m.suggestion]

/-- The kind of the fault, as answers name it. -/
def kindName (m : Malformed) : String :=
  match m.kind with
  | .general => "TemplateSyntaxError"
  | .lexer => "LexerError"
  | .parser => "ParseError"
  | .unknownFilter _ => "UnknownFilterError"
  | .number => "ValueError"

/-- Is this reported as a fault of the template? -/
def isReported (m : Malformed) : Bool :=
  m.kind ≠ .number

/-- The hint for an unknown filter: the closest known name, or all of them. -/
def filterHint (filter : String) (known : List String) : Option String :=
  if known.isEmpty then none
  else
    match closest? filter known with
    | some name => some ("Did you mean '" ++ name ++ "'?")
    | none => some ("Available filters: " ++ ", ".intercalate (known.mergeSort (· ≤ ·)))

/-- A template that uses a filter that is not among the known ones. -/
def unknownFilter (filter : String) (known : List String) (line column : Option Int)
    (name filename source fragment : Option String) : Malformed :=
  ⟨.unknownFilter filter, .invalidFilter, "Unknown filter '" ++ filter ++ "'", line, column, name, filename,
    source, fragment, filterHint filter known⟩

/-- A template with a number, given in quotes, that is not converted. Only the number is told of. -/
def number (shown : String) (refusal : Integer.Refusal) : Malformed :=
  ⟨.number, .malformedTemplate, refusal.message shown, none, none, none, none, none, none, none⟩

end Malformed

namespace RenderFailure

/-- The greatest length of a value's text in a message. -/
def shownWidth : Nat := 80

/-- A looked-up value: its path, its text cut to `shownWidth` characters, and its type. -/
def describeValue (path : String) (v : Value) : String :=
  let shown := v.inspect
  let shown :=
    if shownWidth < shown.length then String.ofList (shown.toList.take (shownWidth - 3)) ++ "..." else shown
  "    " ++ path ++ " = " ++ shown ++ " (" ++ v.typeName ++ ")"

/-- The place of the failure. -/
def location (f : RenderFailure) : String :=
  Stencil.location f.templateName f.line none

/-- The full text. -/
def text (f : RenderFailure) : String :=
  "\n".intercalate
    (["Runtime Error: " ++ f.message, "  Location: " ++ f.location]
      ++ (f.snippet.map Snippet.text).toList
      ++ (labelled "  Expression: " f.expression).toList
      ++ (if f.values.isEmpty then [] else "  Values:" :: f.values.map fun (path, v) => describeValue path v)
      ++ (labelled "\n  Suggestion: " f.suggestion).toList)

/-- The short form. -/
def compact (f : RenderFailure) : String :=
  compactText f.code f.message
    [some ("  Location: " ++ f.location), labelled "  Expression: " f.expression,
      labelled "  Hint: " f.suggestion]

end RenderFailure

namespace Fault

/-- The kind of the fault, as answers name it. -/
def kind : Fault → String
  | plain _ => "TemplateError"
  | notFound _ => "TemplateNotFoundError"
  | malformed m => m.kindName
  | rendering _ => "TemplateRuntimeError"
  | cacheUnavailable _ _ => "CacheError"
  | cacheMiss _ _ => "CacheMissError"
  | filterValue _ _ _ => "FilterValueError"
  | raised kind _ => kind
  | unconverted _ _ | tooDeep | badSetting _ | nullCharacter => "ValueError"
  | missingKey _ => "KeyError"
  | missingItem => "IndexError"
  | tooManyDigits => "InvalidOperation"
  | notAFilter _ _ | notCallable _ | tooManyArguments _ | badArgument _ => "TypeError"
  | noLoader => "RuntimeError"
  | unsupported _ _ => "AttributeError"
  | disk d => d.kind
  | undecodable _ => "UnicodeDecodeError"
  | unencodable _ => "UnicodeEncodeError"
  | unwritten u => u.kind

/-- The text of the fault. -/
def message : Fault → String
  | plain message | notFound message | cacheUnavailable message _ | raised _ message
  | badSetting message | badArgument message | undecodable message | unencodable message => message
  | malformed m => if m.isReported then m.text else m.message
  | rendering f => f.text
  | cacheMiss key _ => "No valid cache entry for key '" ++ key ++ "'"
  | filterValue filter value expected => filter ++ " expects " ++ expected ++ ", got " ++ value.inspect
  | unconverted shown refusal => refusal.message shown
  | missingKey key => quoted key
  | missingItem => "list index out of range"
  | tooManyDigits => "[<class 'decimal.InvalidOperation'>]"
  | notAFilter name typeName => "Filter '" ++ name ++ "' must be callable, got " ++ typeName
  | notCallable typeName => "'" ++ typeName ++ "' object is not callable"
  | tooManyArguments count =>
    "render() takes at most 1 positional argument (a mapping), got " ++ toString count
  | noLoader => "No loader configured"
  | unsupported kind question => "'" ++ kind ++ "' object has no attribute '" ++ question ++ "'"
  | tooDeep => "render data is recursive or too deeply nested"
  | disk d => d.message
  | unwritten u => u.message
  | nullCharacter => "embedded null byte"

/-- The kind of the failure behind the fault, if it answers one. -/
def cause? : Fault → Option String
  | rendering f => f.cause
  | cacheUnavailable _ cause | cacheMiss _ cause => cause
  | tooDeep => some "RecursionError"
  | _ => none

/-- Is this a fault of a template, of its rendering or of the page cache? -/
def isTemplateFault : Fault → Bool
  | plain _ | notFound _ | rendering _ | cacheUnavailable _ _ | cacheMiss _ _ => true
  | malformed m => m.isReported
  | _ => false

/-- Is this a fault of the disk? -/
def isDiskFault : Fault → Bool
  | disk _ => true
  | _ => false

/-- Did something fail because there is no such file? -/
def isMissingFile : Fault → Bool
  | disk d => d.isMissing
  | _ => false

/-- Is this the fault of a template that no loader knows? -/
def isNotFound : Fault → Bool
  | notFound _ => true
  | _ => false

/-- Is this a fault of a value that has the right type but not a usable content? -/
def isValueFault : Fault → Bool
  | unconverted _ _ | tooDeep | badSetting _ | filterValue _ _ _ | undecodable _ | unencodable _
  | nullCharacter => true
  | malformed m => !m.isReported
  | raised kind _ => kind = "ValueError"
  | unwritten u => u.kind = "ValueError"
  | _ => false

/-- Does data have no key for a usual reason: it is too deep, or something in it has no text because of a wrong type or
a wrong value? -/
def isUsualOfData : Fault → Bool
  | tooDeep => true
  | unwritten u => u.isUsual
  | _ => false

/-- The code of the fault, if it has one. -/
def code? : Fault → Option Code
  | notFound _ => some .templateNotFound
  | malformed m => if m.isReported then some m.code else none
  | rendering f => some f.code
  | cacheUnavailable _ _ => some .cacheUnavailable
  | cacheMiss _ _ => some .cacheMiss
  | _ => none

/-- Does `part` occur in `cs`? -/
def occursIn (part : List Char) : List Char → Bool
  | [] => part.isEmpty
  | c :: rest => part.isPrefixOf (c :: rest) || occursIn part rest

/-- The short form: the message with the code in front, unless the message holds it already. -/
def compact (f : Fault) : String :=
  match f with
  | malformed m => if m.isReported then m.compact else stripped m.message
  | rendering r => r.compact
  | _ =>
    let message := stripped f.message
    match f.code? with
    | none => message
    | some code =>
      if occursIn code.label.toList message.toList then message else code.label ++ ": " ++ message

end Fault

end Stencil
