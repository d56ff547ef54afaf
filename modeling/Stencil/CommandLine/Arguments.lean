import Stencil.Disk.Path
import Stencil.Number.Integer
import Stencil.Value.Basic

/-!
# Arguments of the command line

The first argument says what to do; the others are options and, for a rendering, the template's name.
An option is written with two hyphens and may be cut as long as only one option begins like that; two
have a letter of their own, and letters may be written together. The text that an option needs is the
next argument, or follows an equals sign. Behind `--` nothing is an option any more. All arguments are
sorted into words first; then the words are taken one by one, so that the first mistake or the first wish
for help decides.
-/

namespace Stencil.CommandLine

/-- The options. -/
inductive Flag where
  | help
  | verbose
  | searchPath
  | data
  | noCache
  | cacheDirectory
  | ttl
  | development
  | noAutoescape
  | minify
  | errorPage
  deriving DecidableEq

namespace Flag

/-- The name of an option, behind its two hyphens. -/
def name : Flag → String
  | help => "help"
  | verbose => "verbose"
  | searchPath => "search-path"
  | data => "data"
  | noCache => "no-cache"
  | cacheDirectory => "cache-dir"
  | ttl => "ttl"
  | development => "development"
  | noAutoescape => "no-autoescape"
  | minify => "minify"
  | errorPage => "error-page"

/-- The letter of an option, if it has one. -/
def letter? : Flag → Option Char
  | help => some 'h'
  | verbose => some 'v'
  | _ => none

/-- Does the option need a text? -/
def needsText : Flag → Bool
  | searchPath | data | cacheDirectory | ttl => true
  | _ => false

end Flag

/-- What can be done. -/
inductive Verb where
  | render
  | clearCache
  deriving DecidableEq

namespace Verb

/-- The word for it. -/
def word : Verb → String
  | render => "render"
  | clearCache => "clear-cache"

/-- What a word stands for. -/
def ofWord? (s : String) : Option Verb :=
  [render, clearCache].find? (·.word = s)

/-- The options that go with it. -/
def flags : Verb → List Flag
  | render =>
    [.help, .verbose, .searchPath, .data, .noCache, .cacheDirectory, .ttl, .development, .noAutoescape,
      .minify, .errorPage]
  | clearCache => [.help, .verbose, .cacheDirectory]

/-- Does it need the name of a template? -/
def needsName : Verb → Bool
  | render => true
  | clearCache => false

end Verb

/-- Why no request can be made of arguments: they ask for help, or they make no sense. -/
inductive Stop where
  | help
  | misuse
  deriving DecidableEq

/-- What an argument is. -/
inductive Word where
  | value (text : String)
  /-- The mark behind which all arguments are values. -/
  | divider
  /-- Options that need no text, and whether something that is no option follows them. -/
  | flags (flags : List Flag) (surplus : Bool)
  /-- An option that needs a text, with the text if it is part of the argument. -/
  | setting (flag : Flag) (text : Option String)
  /-- An option that is not written as it must be. -/
  | wrong
  | unknown
  deriving DecidableEq

/-- Is this, behind a hyphen, a number? -/
def isNumber (cs : List Char) : Bool :=
  let cs := if cs.getLast? = some '\n' then cs.dropLast else cs
  match cs.dropWhile isDecimalDigit with
  | [] => !cs.isEmpty
  | '.' :: places => !places.isEmpty && places.all isDecimalDigit
  | _ => false

/-- An argument that is no option, although it starts with a hyphen: negative numbers and texts with a
space are values all the same. -/
def readOther (arg : String) : Word :=
  if isNumber (arg.toList.drop 1) || arg.toList.contains ' ' then .value arg else .unknown

/-- The options that letters stand for, up to the first letter that stands for none, and whether there is
one. A hyphen or an equals sign may not come that far. -/
def readLetters? (known : List Flag) : List Char → Option (List Flag × Bool)
  | [] => some ([], false)
  | c :: rest =>
    if c = '-' ∨ c = '=' then none
    else
      match known.find? (·.letter? = some c) with
      | some flag => (readLetters? known rest).map fun (flags, surplus) => (flag :: flags, surplus)
      | none => some ([], true)

/-- An option with the text that is attached to it, if there is one. -/
def readAttached (flag : Flag) (attached : Option String) : Word :=
  if flag.needsText then .setting flag attached
  else if attached.isSome then .wrong
  else .flags [flag] false

/-- An argument that starts with two hyphens, of which `cs` is what follows them. -/
def readLong (known : List Flag) (arg : String) (cs : List Char) : Except Stop Word :=
  let name := cs.takeWhile (· ≠ '=')
  let attached := match cs.dropWhile (· ≠ '=') with
    | [] => none
    | _ :: text => some (String.ofList text)
  match known.find? (·.name.toList = name) with
  | some flag => .ok (readAttached flag attached)
  | none =>
    match known.filter (name.isPrefixOf ·.name.toList) with
    | [] => .ok (readOther arg)
    | [flag] => .ok (readAttached flag attached)
    | _ => .error .misuse

/-- An argument that starts with one hyphen, of which `cs` is what follows it. -/
def readShort (known : List Flag) (arg : String) (cs : List Char) : Word :=
  match readLetters? known cs with
  | some ([], _) => readOther arg
  | some (flags, surplus) => .flags flags surplus
  | none => if cs.head? = some '=' then readOther arg else .wrong

/-- What an argument is, if `known` are the options. -/
def readWord (known : List Flag) (arg : String) : Except Stop Word :=
  match arg.toList with
  | ['-', '-'] => .ok .divider
  | '-' :: '-' :: cs => readLong known arg cs
  | '-' :: c :: rest => .ok (readShort known arg (c :: rest))
  | _ => .ok (.value arg)

/-- What the arguments are, if `known` are the options. -/
def readWords (known : List Flag) : List String → Except Stop (List Word)
  | [] => .ok []
  | arg :: args => do
    match ← readWord known arg with
    | .divider => .ok (.divider :: args.map .value)
    | word => .ok (word :: (← readWords known args))

/-- What words have said so far. -/
structure Found where
  /-- The options that need no text. -/
  flags : List Flag
  name : Option String
  searchPath : List DiskPath
  data : Option DiskPath
  cacheDirectory : Option DiskPath
  ttl : Option Int
  /-- Was there a word that nothing is known about? -/
  surplus : Bool
  deriving DecidableEq

namespace Found

/-- Nothing has been said. -/
def nothing : Found :=
  ⟨[], none, [], none, none, none, false⟩

/-- Takes the text of an option, if it is one that the option can take. -/
def set? (found : Found) (flag : Flag) (text : String) : Option Found :=
  match flag with
  | .searchPath => some { found with searchPath := found.searchPath ++ [.read text] }
  | .data => some { found with data := some (.read text) }
  | .cacheDirectory => some { found with cacheDirectory := some (.read text) }
  | .ttl => (Integer.read text.toList).toOption.map fun seconds => { found with ttl := some seconds }
  | _ => some found

/-- Takes a value that belongs to no option: the first one is the name, if one is needed. -/
def takeValue (verb : Verb) (found : Found) (text : String) : Found :=
  if verb.needsName && found.name.isNone then { found with name := some text }
  else { found with surplus := true }

/-- Takes words. A divider next to the name counts as part of it. -/
def takeWords (verb : Verb) (found : Found) : List Word → Except Stop Found
  | [] => .ok found
  | .value text :: .divider :: words => takeWords verb (found.takeValue verb text) words
  | .value text :: words => takeWords verb (found.takeValue verb text) words
  | [.divider] => .ok { found with surplus := true }
  | .divider :: words => takeWords verb found words
  | .flags flags surplus :: words =>
    if .help ∈ flags then .error .help
    else
      takeWords verb { found with flags := found.flags ++ flags, surplus := found.surplus || surplus } words
  | .setting flag (some text) :: words =>
    match found.set? flag text with
    | some found => takeWords verb found words
    | none => .error .misuse
  | .setting flag none :: .value text :: words =>
    match found.set? flag text with
    | some found => takeWords verb found words
    | none => .error .misuse
  | .setting _ none :: _ => .error .misuse
  | .wrong :: _ => .error .misuse
  | .unknown :: words => takeWords verb { found with surplus := true } words

end Found

/-- What is to be done. -/
inductive Job where
  /-- Render the template of the given name from some directories, with the data of a file if there is
  one, and with a page about the fault if that is wanted. -/
  | render (name : String) (searchPath : List DiskPath) (data : Option DiskPath) (errorPage : Bool)
  | clearCache
  deriving DecidableEq

/-- A request: what is to be done, with which changes of the settings, and whether everything is to be
logged. -/
structure Request where
  job : Job
  verbose : Bool
  changes : List (String × Value)

/-- The settings that options change, with their values. -/
def Found.changes (found : Found) : List (String × Value) :=
  let switched (flag : Flag) (name : String) (value : Bool) : List (String × Value) :=
    if flag ∈ found.flags then [(name, .bool value)] else []
  found.cacheDirectory.toList.map (fun path => ("cache_dir", .text path.text))
    ++ switched .noCache "cache_enabled" false
    ++ found.ttl.toList.map (fun seconds => ("cache_ttl", .int seconds))
    ++ switched .development "development" true
    ++ switched .noAutoescape "autoescape" false
    ++ switched .minify "minify" true

/-- What is to be done, if nothing that is needed is missing. -/
def Found.job? (verb : Verb) (found : Found) : Option Job :=
  match verb, found.name with
  | .clearCache, _ => some .clearCache
  | .render, some name =>
    if found.searchPath.isEmpty then none
    else some (.render name found.searchPath found.data (.errorPage ∈ found.flags))
  | .render, none => none

/-- The request that all words make together, unless some are left over. -/
def Found.request? (verb : Verb) (found : Found) : Option Request :=
  if found.surplus then none
  else (found.job? verb).map fun job => ⟨job, .verbose ∈ found.flags, found.changes⟩

/-- The request that the arguments behind a verb make. `surplus` says whether something was left over in
front of it. -/
def readRequest (verb : Verb) (surplus : Bool) (args : List String) : Except Stop Request := do
  let words ← readWords verb.flags args
  let found ← Found.takeWords verb { Found.nothing with surplus := surplus } words
  match found.request? verb with
  | some request => .ok request
  | none => .error .misuse

/-- The request that arguments make; in front of the verb only help can be asked for. -/
def readAfter (surplus : Bool) : List String → Except Stop Request
  | [] => .error .misuse
  | arg :: args => do
    match ← readWord [.help] arg with
    | .flags _ _ => .error .help
    | .unknown => readAfter true args
    | .value text =>
      match Verb.ofWord? text with
      | some verb => readRequest verb surplus args
      | none => .error .misuse
    | _ => .error .misuse

/-- The request that the arguments of a program make. -/
def read (args : List String) : Except Stop Request :=
  readAfter false args

end Stencil.CommandLine
