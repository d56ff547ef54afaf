import Stencil.Disk.Selection
import Stencil.Disk.Work
import Stencil.Table
import Stencil.Text.Similarity

/-!
# Loaders

Where the text of a template comes from: directories searched in turn, a table of texts, other loaders asked
in turn, or whatever a host provides. A name in a directory may not lead out of it. Of the built-in loaders
only those that read files know when a text was last changed. A name that nothing is found for is answered
with the closest known name, or with the first of the known names.
-/

namespace Stencil

/-- The text of a template, with the file it was read from and the time of that file's last change. -/
structure TemplateSource where
  text : String
  filename : Option String
  changed : Option Binary64

/-- Where the text of a template comes from. -/
inductive Loader where
  /-- Files below some directories, named without their common suffix. -/
  | directories (roots : List DiskPath) (encoding : Encoding) (suffix : String)
  | table (entries : List (String × String))
  | choice (loaders : List Loader)
  /-- A loader whose names are not listed. -/
  | bare (inner : Loader)
  /-- A loader of the host: what it answers for a name, and the names that it lists if it lists any. It may look at the
  world but does not change it. -/
  | custom (kind : String) (answer : String → World → Except Fault TemplateSource)
    (listed : Option (World → Except Fault (List String)))

instance : Inhabited Loader := ⟨.table []⟩

namespace Loader

/-- How many names are listed at most when a template is not found. -/
def shownNames : Nat := 10

/-- The hint for a name that is not among the known ones, which are in order. -/
def hint (name : String) (known : List String) : String :=
  match closest? name known with
  | some close => ". Did you mean '" ++ close ++ "'?"
  | none =>
    if known.isEmpty then ""
    else
      ". Available: " ++ ", ".intercalate (known.take shownNames)
        ++ if shownNames < known.length then " ... (" ++ toString known.length ++ " total)" else ""

/-- The names in alphabetical order, each once. -/
def sorted (names : List String) : List String :=
  names.eraseDups.mergeSort (· ≤ ·)

/-- A template is not found, `place` saying where it was looked for. -/
def notFound (name : String) (known : List String) (place : String) : Fault :=
  .notFound ("Template '" ++ name ++ "' not found" ++ (if place.isEmpty then "" else " in " ++ place)
    ++ hint name (sorted known))

/-- The path that a name denotes in a directory: backslashes are slashes, and slashes in front do not
count. -/
def relativePath (name suffix : String) : DiskPath :=
  let slashed := name.toList.map fun c => if c = '\\' then '/' else c
  .read (String.ofList (slashed.dropWhile (· = '/')) ++ suffix)

/-- The file of a name in the first directory that has it. -/
def locate (relative : DiskPath) : List DiskPath → Work (Option DiskPath)
  | [] => pure none
  | root :: roots => do
    let candidate := root.join relative
    if candidate.hasNull then
      throw .nullCharacter
    let working := (← get).disk.working
    if DiskPath.isInside (root.resolve working) (candidate.resolve working) then
      if ← Work.isFile candidate then pure (some candidate) else locate relative roots
    else locate relative roots

/-- The name of a file below a directory, without the suffix. -/
def nameOf (suffix : String) (names : List String) : String :=
  let chars := ("/".intercalate names).toList
  String.ofList (Snippet.slice chars 0 (chars.length - suffix.length))

/-- The names of the files in one directory. -/
def namesIn (suffix : String) (root : DiskPath) : Work (List String) := do
  if ← Work.isDirectory root then
    match Pattern.read? ("*" ++ suffix) with
    | none => throw (.badSetting "Invalid pattern: '**' can only be an entire path component")
    | some pattern =>
      let files ← Work.ask .probe root (·.select root pattern)
      pure (files.map (nameOf suffix))
  else pure []

/-- The names of the files in several directories. -/
def namesInAll (suffix : String) : List DiskPath → Work (List String)
  | [] => pure []
  | root :: roots => do
    let names ← namesIn suffix root
    return names ++ (← namesInAll suffix roots)

mutual

/-- All names that a loader lists. -/
def names : Loader → Work (List String)
  | directories roots _ suffix => return sorted (← namesInAll suffix roots)
  | table entries => pure (sorted (entries.map (·.1)))
  | choice loaders => return sorted (← namesOfAll loaders)
  | bare _ | custom _ _ none => pure []
  | custom _ _ (some listed) => fun w => (listed w, w)

/-- The names that several loaders list. -/
def namesOfAll : List Loader → Work (List String)
  | [] => pure []
  | loader :: loaders => do
    let listed ← names loader
    return listed ++ (← namesOfAll loaders)

end

/-- The text of a file with its time. -/
def readSource (encoding : Encoding) (path : DiskPath) : Work TemplateSource := do
  let text ← Work.readText encoding path
  let node ← Work.inspect path
  return ⟨text, some path.text, some node.changed⟩

mutual

/-- The text of the template of the given name. -/
def source (name : String) : Loader → Work TemplateSource
  | directories roots encoding suffix => do
    match ← locate (relativePath name suffix) roots with
    | some path => readSource encoding path
    | none =>
      let known ← namesInAll suffix roots
      throw (notFound name known (", ".intercalate (roots.map (·.text))))
  | table entries =>
    match entries.lookup name with
    | some text => pure ⟨text, none, none⟩
    | none => throw (notFound name (entries.map (·.1)) "")
  | choice loaders => do
    match ← firstSource name loaders with
    | some found => pure found
    | none =>
      let known ← namesOfAll loaders
      throw (notFound name known (toString loaders.length ++ " loaders"))
  | bare inner => source name inner
  | custom _ answer _ => fun w => (answer name w, w)

/-- The text that the first loader gives that knows the name. -/
def firstSource (name : String) : List Loader → Work (Option TemplateSource)
  | [] => pure none
  | loader :: loaders => do
    match ← Work.outcome (source name loader) with
    | .ok found => pure (some found)
    | .error fault => if fault.isNotFound then firstSource name loaders else throw fault

end

/-- The name of the kind of loader. -/
def kind : Loader → String
  | directories _ _ _ => "FileSystemLoader"
  | table _ => "DictLoader"
  | choice _ => "ChoiceLoader"
  | bare _ => "Bare"
  | custom kind _ _ => kind

/-- The kind of a loader that may be missing. -/
def kindOf (loader : Option Loader) : String :=
  (loader.map kind).getD "NoneType"

/-- Does the loader list its names? -/
def isListing : Loader → Bool
  | bare _ | custom _ _ none => false
  | _ => true

/-- The loader with a text in its table. -/
def setEntry (name text : String) : Loader → Loader
  | table entries => table (Table.set entries name text)
  | bare inner => bare (setEntry name text inner)
  | loader => loader

end Loader

end Stencil
