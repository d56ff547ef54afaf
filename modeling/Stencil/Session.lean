import Stencil.Engine
import Stencil.Filter.Samples

/-!
# Sessions

A session drives an engine and a cache on a small disk of its own, command by command. Every command
answers with a reply or a fault and with the lines that it wrote to the log. The cache of the session may
be shared with its engine. Bad weather lasts for one command.
-/

namespace Stencil

/-- What a session can be asked to do. -/
inductive Command where
  | makeEngine (fields : List (String × Value)) (shareCache : Bool)
  | setLoader (loader : Option Loader)
  | render (name : String) (args : List Value) (named : List (String × Value))
  | template (name : String)
  /-- Keeps the template of the given name under an identifier. -/
  | hold (id name : String)
  /-- Keeps a template from a text under an identifier. -/
  | inline (id source : String) (name : Option String)
  | renderHeld (id : String) (args : List Value) (named : List (String × Value))
  | clearEngine
  | engineCache
  | engineStats
  | engineText
  | setFilter (name : String) (candidate : FilterCandidate)
  | eraseFilter (name : String)
  | updateFilters (added named : List (String × FilterCandidate))
  | listFilters (asked : List String)
  | applyFilter (name : String) (value : Value)
  | source (name : String)
  | listTemplates
  | setText (name text : String)
  | openCache (fields : List (String × Value))
  | store (key content : String)
  | get (key : String)
  | hasValid (key : String)
  | clearCache
  | cacheStats
  | pathFor (key : String)
  | keyFor (path : String) (changed data : Value)
  | write (path : String) (content : List UInt8) (changed : Option Binary64)
  | makeDirectory (path : String)
  | delete (path : String)
  /-- Gives all entries in a directory another content and leaves their times. -/
  | overwriteEntries (path : String) (content : List UInt8)
  | listNames (path : String)
  | showFile (path : String)
  | advance (seconds : Binary64)

/-- What a command answers. -/
inductive Reply where
  | nothing
  | text (s : String)
  | flag (b : Bool)
  | count (n : Nat)
  | names (names : Option (List String))
  | stats (stats : Option CacheStats)
  | value (v : Value)
  | source (s : TemplateSource)
  /-- A template, and whether it is the very one that was answered for its name before. -/
  | template (t : Template) (same : Bool)
  /-- The names of the filters, the table as it is shown, and which of the asked names it has. -/
  | filters (names : List String) (shown : String) (has : List Bool)
  | opened (cache : Cache)

/-- A session. -/
structure Session where
  engine : Engine
  /-- The cache that was opened last. -/
  cache : Option Cache
  /-- Does the engine use that cache? -/
  shared : Bool
  /-- The templates that are kept under identifiers. -/
  held : List (String × Template)
  /-- The numbers of the templates that were answered last for each name. -/
  answered : List (String × Nat)

/-- Work with a session. -/
abbrev SessionWork := WorkOn Session

namespace Session

/-- A session with the given loader and settings. -/
def fresh (loader : Option Loader) (settings : Settings) : Session :=
  ⟨.fresh loader settings none, none, false, [], []⟩

/-- The session after its engine has changed. -/
def putEngine (e : Engine) (s : Session) : Session :=
  { s with engine := e, cache := if s.shared then e.cache else s.cache }

/-- The session after its cache has changed. -/
def putCache (c : Cache) (s : Session) : Session :=
  { s with cache := some c, engine := if s.shared then { s.engine with cache := some c } else s.engine }

/-- Work with the engine. -/
def withEngine {α : Type} (work : EngineWork α) : SessionWork α := do
  WorkOn.onPart (← WorkOn.state).engine putEngine work

/-- Work with the cache, if one is open. -/
def withCache {α : Type} (work : CacheWork α) : SessionWork α := do
  match (← WorkOn.state).cache with
  | some c => WorkOn.onPart c putCache work
  | none => throw (.badArgument "no cache is open")

/-- A result that may be a fault. -/
def ofExcept {α : Type} : Except Fault α → SessionWork α
  | .ok a => pure a
  | .error fault => throw fault

/-- A change of the disk that comes from outside: it knows no weather and never fails. -/
def onDisk (f : Disk → Binary64 → Except DiskFault Disk) : Work Unit :=
  modify fun w =>
    match f w.disk w.clock with
    | .ok disk => { w with disk := disk }
    | .error _ => w

/-- The template of the given name as an answer. -/
def answerTemplate (name : String) : SessionWork Reply := do
  let r ← withEngine (Engine.template name)
  let same := (← WorkOn.state).answered.lookup name = some r.serial
  WorkOn.update fun s => { s with answered := Table.set s.answered name r.serial }
  pure (.template r.template same)

/-- Renders a template that is kept under an identifier. -/
def renderHeld (id : String) (args : List Value) (named : List (String × Value)) : SessionWork Reply := do
  match (← WorkOn.state).held.lookup id with
  | none => throw (.missingKey id)
  | some template =>
    let data ← ofExcept (Template.ownArguments args named)
    return .text (← ofExcept (template.render data []).1)

/-- A new engine with the loader of the old one. -/
def makeEngine (settings : Settings) (shareCache : Bool) (s : Session) : Session :=
  let cache := if shareCache then s.cache else none
  { s with
    engine := { Engine.fresh s.engine.loader settings cache with serial := s.engine.serial }
    shared := cache.isSome }

/-- Writes other bytes to all entries of a directory. How many are there? -/
def overwriteEntries (path : DiskPath) (content : List UInt8) : SessionWork Reply := do
  let w ← (MonadState.get : Work World)
  match w.disk.locate path with
  | .error _ => pure (.count 0)
  | .ok place =>
    let entries := w.disk.nodes.filterMap fun (p, node) =>
      if node.isFile && p.dropLast = place && Cache.isEntryName (p.getLast?.getD "") then
        some (p, DiskNode.file content node.changed)
      else none
    onDisk fun d _ => .ok (entries.foldl (fun d (p, node) => d.put p node) d)
    pure (.count entries.length)

/-- The names in a directory, if the path denotes one. -/
def listNames (d : Disk) (path : DiskPath) : Option (List String) :=
  match d.isDirectory path with
  | .ok true => (d.names path).toOption
  | _ => none

/-- The answer about the filters of an engine. -/
def describeFilters (t : FilterTable) (asked : List String) : Reply :=
  .filters t.names t.inspect (asked.map t.names.contains)

/-- Carries out a command. -/
def perform : Command → SessionWork Reply
  | .makeEngine fields shareCache => do
    let settings ← ofExcept (Settings.ofFields fields)
    WorkOn.update (makeEngine settings shareCache)
    return .text (← WorkOn.state).engine.inspect
  | .setLoader loader => do
    WorkOn.update fun s => { s with engine := { s.engine with loader := loader } }
    pure .nothing
  | .render name args named => return .text (← withEngine (Engine.render name args named))
  | .template name => answerTemplate name
  | .hold id name => do
    let r ← withEngine (Engine.template name)
    WorkOn.update fun s => { s with held := Table.set s.held id r.template }
    pure .nothing
  | .inline id source name => do
    let template ← withEngine (Engine.fromText source name)
    WorkOn.update fun s => { s with held := Table.set s.held id template }
    pure (.text template.inspect)
  | .renderHeld id args named => renderHeld id args named
  | .clearEngine => return .flag (← withEngine Engine.clear)
  | .engineCache => do
    let cache ← withEngine Engine.cacheInUse
    pure (.text ((cache.map (·.inspect)).getD "None"))
  | .engineStats => do
    match ← withEngine Engine.cacheInUse with
    | some c => return .stats (some (← c.stats))
    | none => pure (.stats none)
  | .engineText => return .text (← WorkOn.state).engine.inspect
  | .setFilter name candidate => do
    withEngine (Engine.changeFilters (·.set name candidate))
    pure .nothing
  | .eraseFilter name => do
    withEngine (Engine.changeFilters (·.erase name))
    pure .nothing
  | .updateFilters added named => do
    withEngine (Engine.changeFilters (·.update added named))
    pure .nothing
  | .listFilters asked => return describeFilters (← WorkOn.state).engine.filters asked
  | .applyFilter name value => do
    let f ← ofExcept ((← WorkOn.state).engine.filters.find name)
    return .value (← ofExcept (f value))
  | .source name => do
    match (← WorkOn.state).engine.loader with
    | some loader => return .source (← loader.source name)
    | none => throw (.unsupported (Loader.kindOf none) "get_source")
  | .listTemplates => do
    let loader := (← WorkOn.state).engine.loader
    match loader.filter (·.isListing) with
    | some listing => return .names (some (← listing.names))
    | none => throw (.unsupported (Loader.kindOf loader) "list_templates")
  | .setText name text => do
    WorkOn.update fun s =>
      { s with engine := { s.engine with loader := s.engine.loader.map (·.setEntry name text) } }
    pure .nothing
  | .openCache fields => do
    let settings ← ofExcept (Settings.ofFields fields)
    let c ← Cache.ofSettings settings
    WorkOn.update fun s => { s with cache := some c, shared := false }
    pure (.opened c)
  | .store key content => return .flag (← withCache (Cache.store key content))
  | .get key => return .text (← withCache (Cache.get key))
  | .hasValid key => return .flag (← withCache do (← WorkOn.state).hasValid key)
  | .clearCache => return .flag (← withCache do (← WorkOn.state).clear)
  | .cacheStats => return .stats (some (← withCache do (← WorkOn.state).stats))
  | .pathFor key => return .text (← withCache do return ((← WorkOn.state).pathFor key).text)
  | .keyFor path changed data => return .text (← ofExcept (Cache.key path changed data))
  | .write path content changed => do
    onDisk fun d clock => d.write clock (.read path) content (changed.getD clock)
    pure .nothing
  | .makeDirectory path => do
    onDisk fun d clock => .ok (d.makeDirectories clock (.read path)).2
    pure .nothing
  | .delete path => do
    onDisk fun d _ => (d.locate (.read path)).map d.dropTree
    pure .nothing
  | .overwriteEntries path content => overwriteEntries (.read path) content
  | .listNames path => return .names (listNames (← (MonadState.get : Work World)).disk (.read path))
  | .showFile path => return .text (← Work.readRaw (.read path))
  | .advance seconds => do
    (modify fun w => { w with clock := w.clock.add seconds } : Work Unit)
    pure .nothing

/-- The state of the session and its world after a command in the given weather, with the answer and the
lines of the log, first line first. -/
def step (weather : Weather) (command : Command) (s : Session) (w : World) :
    Except Fault Reply × List LogLine × Session × World :=
  let (result, s, w) := perform command (s, { w with weather := weather, log := [] })
  (result, w.log.reverse, s, { w with weather := .calm, log := [] })

end Session

end Stencil
