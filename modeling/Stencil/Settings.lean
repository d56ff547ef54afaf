import Stencil.Cache.Canonical
import Stencil.Disk.Path
import Stencil.Fault
import Stencil.Number.Integer
import Stencil.Text.Casing

/-!
# Settings

What an engine can be told: whether, where and for how long to keep rendered pages, whether to escape
output and whether to minify it. Settings are given as named values or as variables of the environment,
all of them optional.
-/

namespace Stencil

/-- The settings of an engine. -/
structure Settings where
  /-- Are rendered pages kept? -/
  cacheEnabled : Bool
  /-- For how many seconds a kept page is used; zero means for ever. -/
  cacheTtl : Nat
  /-- The directory that the pages are kept in. -/
  cacheDirectory : DiskPath
  /-- Is the cache cleared whenever it is opened? -/
  development : Bool
  /-- Are outputs escaped? -/
  autoescape : Bool
  /-- Is the blank space between tags removed? -/
  minify : Bool
  /-- How deep the data of kept pages may be nested. This is the room that the surroundings leave, and no field or
  variable changes it. -/
  room : Nat
  deriving DecidableEq

namespace Settings

/-- The settings of an engine that is told nothing. -/
def standard : Settings :=
  ⟨true, 3600, DiskPath.read ".curly-cache/templates", false, true, false, Value.usualDepth⟩

/-- The names of the settings, in order. -/
def fieldNames : List String :=
  ["cache_enabled", "cache_ttl", "cache_dir", "development", "autoescape", "minify"]

/-- A number of seconds, which is not negative. -/
def seconds (i : Int) : Nat :=
  i.toNat

/-- The character that a byte is read as in an integer; one outside of ASCII is none that an integer has. -/
def characterOfByte (b : UInt8) : Char :=
  if b.toNat < 128 then Char.ofNat b.toNat else '?'

/-- The integer that a text or bytes write, if the value is such. -/
def writtenInteger? (v : Value) : Option (Except Integer.Refusal Int) :=
  match v with
  | .text s | .markup s => some (Integer.read s.toList)
  | .bytes bytes => some (Integer.read (bytes.map characterOfByte))
  | _ => none

/-- The integer that a value is, writes or begins with. -/
def integer (v : Value) : Except Fault Int :=
  match v with
  | .bool b => .ok (if b then 1 else 0)
  | .int i => .ok i
  | .notANumber _ => .error (.badSetting "cannot convert float NaN to integer")
  | .float x =>
    match x.truncate? with
    | some i => .ok i
    | none => .error (.raised "OverflowError" "cannot convert float infinity to integer")
  | v =>
    match writtenInteger? v with
    | some (.ok i) => .ok i
    | some (.error refusal) => .error (.unconverted v.inspect refusal)
    | none =>
      .error (.badArgument ("int() argument must be a string, a bytes-like object or a real number, not '"
        ++ v.typeName ++ "'"))

/-- The path that a value writes. -/
def path (v : Value) : Except Fault DiskPath :=
  match v with
  | .text s | .markup s => .ok (.read s)
  | .bytes _ =>
    .error (.badArgument ("argument should be a str object or an os.PathLike object returning str, not "
      ++ "<class '" ++ v.typeName ++ "'>"))
  | _ => .error (.badArgument ("expected str, bytes or os.PathLike object, not " ++ v.typeName))

/-- Changes the settings to those of the given fields. -/
def withFields (base : Settings) (fields : List (String × Value)) : Except Fault Settings :=
  match fields.find? fun (name, _) => !fieldNames.contains name with
  | some (name, _) =>
    .error (.badArgument ("TemplateConfig.__init__() got an unexpected keyword argument " ++ quoted name))
  | none => do
    let flag (name : String) (otherwise : Bool) : Bool :=
      ((fields.lookup name).map Value.isTruthy).getD otherwise
    let directory ← match fields.lookup "cache_dir" with
      | some v => path v
      | none => .ok base.cacheDirectory
    let ttl ← match fields.lookup "cache_ttl" with
      | some v => (integer v).map seconds
      | none => .ok base.cacheTtl
    .ok ⟨flag "cache_enabled" base.cacheEnabled, ttl, directory, flag "development" base.development,
      flag "autoescape" base.autoescape, flag "minify" base.minify, base.room⟩

/-- The settings with the given fields, all others as usual. -/
def ofFields (fields : List (String × Value)) : Except Fault Settings :=
  withFields standard fields

/-- Changes the settings to those of the given fields; absent values change nothing. -/
def override (base : Settings) (fields : List (String × Value)) : Except Fault Settings :=
  base.withFields (fields.filter fun (_, v) => match v with
    | .null => false
    | _ => true)

/-- The text of a variable without blanks around it and in lower case. -/
def plainText (s : String) : String :=
  lowered (stripped s)

/-- The truth value that the variable `name` with the given text stands for. -/
def switch (name text : String) : Except Fault Bool :=
  if plainText text ∈ ["1", "true", "yes", "on"] then .ok true
  else if plainText text ∈ ["0", "false", "no", "off", ""] then .ok false
  else
    .error (.badSetting (name ++ " must be a boolean (1/0, true/false, yes/no, on/off), got "
      ++ quoted text))

/-- The truth value of a variable, or `otherwise` if it is not set. -/
def switchOf (environment : List (String × String)) (name : String) (otherwise : Bool) : Except Fault Bool :=
  match environment.lookup name with
  | some text => switch name text
  | none => .ok otherwise

/-- The names of the variables that settings are read from. -/
def variableNames : List String :=
  ["CURLY_CACHE_ENABLED", "CURLY_CACHE_TTL", "CURLY_CACHE_DIR", "CURLY_ENV", "CURLY_AUTOESCAPE",
    "CURLY_MINIFY"]

/-- The settings that variables of the environment ask for. -/
def ofVariables (environment : List (String × String)) : Except Fault Settings := do
  let enabled ← switchOf environment "CURLY_CACHE_ENABLED" standard.cacheEnabled
  let autoescape ← switchOf environment "CURLY_AUTOESCAPE" standard.autoescape
  let minify ← switchOf environment "CURLY_MINIFY" standard.minify
  let ttl ← match environment.lookup "CURLY_CACHE_TTL" with
    | none => .ok standard.cacheTtl
    | some text =>
      match Integer.read text.toList with
      | .ok i => .ok (seconds i)
      | .error _ => .error (.badSetting ("CURLY_CACHE_TTL must be an integer, got " ++ quoted text))
  let directory := match nonEmpty? (environment.lookup "CURLY_CACHE_DIR") with
    | some text => DiskPath.read text
    | none => standard.cacheDirectory
  let development := match environment.lookup "CURLY_ENV" with
    | some text => decide (plainText text = "development")
    | none => standard.development
  .ok ⟨enabled, ttl, directory, development, autoescape, minify, standard.room⟩

end Settings

end Stencil
