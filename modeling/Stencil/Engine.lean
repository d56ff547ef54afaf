import Stencil.Cache
import Stencil.Filter.Registry
import Stencil.Filter.Builtin
import Stencil.Loader
import Stencil.Template

/-!
# Engines

An engine ties everything together: it loads templates by name, remembers those it has read, renders
them, and keeps the pages of templates that come from files. A remembered template is used again as long
as its file has the same time and the filters are the same. Whatever goes wrong with the cache, the page
is rendered all the same.
-/

namespace Stencil

/-- A template that an engine remembers: the time of its file, the stamp of the filters it was read
against, and the number under which it was read. -/
structure Remembered where
  changed : Option Binary64
  stamp : Nat
  template : Template
  serial : Nat

/-- An engine. -/
structure Engine where
  loader : Option Loader
  settings : Settings
  cache : Option Cache
  /-- Could the cache not be opened? It is not tried again. -/
  cacheFailed : Bool
  filters : FilterTable
  memo : List (String × Remembered)
  /-- The number of templates that have been read. -/
  serial : Nat

/-- Work with an engine. -/
abbrev EngineWork := WorkOn Engine

namespace Engine

/-- An engine in which nothing has been read yet. -/
def fresh (loader : Option Loader) (settings : Settings) (cache : Option Cache) : Engine :=
  ⟨loader, settings, cache, false, FilterTable.standard, [], 0⟩

/-- Writes a line of the engine's log. -/
def note (level : LogLevel) (message : String) : Work Unit :=
  Work.note .engine level message

/-- Opens the cache, if there is none yet and it has not failed before. -/
def openCache : EngineWork Unit := do
  let e ← WorkOn.state
  if e.cache.isNone && !e.cacheFailed then
    match ← WorkOn.outcome (Cache.ofSettings e.settings) with
    | .ok c => WorkOn.update fun e => { e with cache := some c }
    | .error (.cacheUnavailable message cause) =>
      note .error ("Template cache disabled: " ++ (Fault.cacheUnavailable message cause).message)
      WorkOn.update fun e => { e with cacheFailed := true }
    | .error fault => throw fault

/-- The cache, which is opened when it is first asked for; none if there is to be none. -/
def cacheInUse : EngineWork (Option Cache) := do
  if (← WorkOn.state).settings.cacheEnabled then
    openCache
    return (← WorkOn.state).cache
  else pure none

/-- Work with a cache of the engine. -/
def withCache {α : Type} (c : Cache) (work : CacheWork α) : EngineWork α :=
  WorkOn.onPart c (fun c e => { e with cache := some c }) work

/-- The text of a template. -/
def load (name : String) : EngineWork TemplateSource := do
  match (← WorkOn.state).loader with
  | some loader => loader.source name
  | none => throw .noLoader

/-- Reads a template with the engine's filters and settings. -/
def readTemplate (e : Engine) (name filename : Option String) (source : String) : Except Fault Template :=
  Template.read e.filters e.settings.autoescape e.settings.minify ⟨name, filename⟩ source

/-- A template from a text. It is not remembered. -/
def fromText (source : String) (name : Option String) : EngineWork Template := do
  match (← WorkOn.state).readTemplate name none source with
  | .ok template => pure template
  | .error fault => throw fault

/-- Does the remembered template stand for a source read now? -/
def isCurrent (e : Engine) (source : TemplateSource) (r : Remembered) : Bool :=
  source.changed.isSome && r.changed = source.changed && r.stamp = e.filters.stamp

/-- The template of a source: the remembered one if it is current, else read anew. -/
def templateFor (name : String) (source : TemplateSource) : EngineWork Remembered := do
  let e ← WorkOn.state
  match (e.memo.lookup name).filter (e.isCurrent source) with
  | some r => pure r
  | none =>
    match e.readTemplate (some name) source.filename source.text with
    | .error fault => throw fault
    | .ok template =>
      let r : Remembered := ⟨source.changed, e.filters.stamp, template, e.serial⟩
      WorkOn.update fun e => { e with memo := Table.set e.memo name r, serial := e.serial + 1 }
      pure r

/-- The template of the given name. -/
def template (name : String) : EngineWork Remembered := do
  templateFor name (← load name)

/-- The cache and the key for the page that a source gives for data, if there are both. An object in the data that
refuses to be written may end the work. -/
def pageKey (name : String) (source : TemplateSource) (data : Scope) : EngineWork (Option (Cache × String)) := do
  match source.changed with
  | none => pure none
  | some changed =>
    match ← cacheInUse with
    | none => pure none
    | some c =>
      let path := (nonEmpty? source.filename).getD name
      match Cache.key path (.float changed) (.map data) (← WorkOn.state).settings.room with
      | .ok key => pure (some (c, key))
      | .error fault =>
        if fault.isUsualOfData then
          note .warning ("Cannot derive a cache key for '" ++ name ++ "', rendering uncached: " ++ fault.message)
          pure none
        else throw fault

/-- The page that the cache has, if it has one. -/
def cachedPage (name : String) : Option (Cache × String) → EngineWork (Option String)
  | none => pure none
  | some (c, key) => do
    match ← WorkOn.outcome (withCache c (Cache.get key)) with
    | .ok page => pure (some page)
    | .error (.cacheMiss _ _) => pure none
    | .error fault =>
      if fault.isDiskFault || fault.isValueFault then
        note .warning ("Template cache read failed for '" ++ name ++ "', rendering: " ++ fault.message)
        pure none
      else throw fault

/-- Keeps a page in the cache. -/
def keepPage (page : String) (key : String) : EngineWork Unit := do
  match (← WorkOn.state).cache with
  | some c =>
    let _ ← withCache c (Cache.store key page)
  | none => pure ()

/-- The page that the template of a source gives for data. -/
def renderSource (name : String) (source : TemplateSource) (data : Scope) : EngineWork String := do
  let r ← templateFor name source
  match (r.template.render data []).1 with
  | .ok page => pure page
  | .error fault => throw fault

/-- The page that the template of the given name gives: from the cache, or rendered and then kept. -/
def render (name : String) (args : List Value) (named : List (String × Value)) : EngineWork String := do
  match Template.mergeArguments args named with
  | .error fault => throw fault
  | .ok data =>
    let source ← load name
    let key ← pageKey name source data
    match ← cachedPage name key with
    | some page => pure page
    | none =>
      let page ← renderSource name source data
      match key with
      | some (_, key) => keepPage page key
      | none => pure ()
      pure page

/-- Forgets all templates and removes all kept pages. Were all of them removed? -/
def clear : EngineWork Bool := do
  WorkOn.update fun e => { e with memo := [] }
  match ← cacheInUse with
  | some c => c.clear
  | none => pure true

/-- Changes the table of filters. -/
def changeFilters (f : FilterTable → Except Fault FilterTable) : EngineWork Unit := do
  match f (← WorkOn.state).filters with
  | .ok filters => WorkOn.update fun e => { e with filters := filters }
  | .error fault => throw fault

/-- The engine in messages. -/
def inspect (e : Engine) : String :=
  "<Environment loader=" ++ Loader.kindOf e.loader ++ " cache="
    ++ (e.cache.map (·.inspect)).getD "None" ++ ">"

end Engine

end Stencil
