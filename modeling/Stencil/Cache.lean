import Stencil.Cache.Key
import Stencil.Disk.Work
import Stencil.Settings

/-!
# The page cache

Rendered pages are kept in a directory, one file a page, named by the page's key. A file's time is the
time at which the page was stored; a page that is as old as the cache's lifetime is stale and is removed
when it is next looked up. A page is written to a temporary file first, which then takes the place of the
entry as a whole.
-/

namespace Stencil

/-- A cache: its directory, the lifetime of its pages in seconds (zero for ever), and how many pages were
found, not found and stored. -/
structure Cache where
  directory : DiskPath
  ttl : Nat
  hits : Nat
  misses : Nat
  stores : Nat
  deriving DecidableEq

/-- The counts of a cache, and how many pages of how many bytes are in its directory. -/
structure CacheStats where
  hits : Nat
  misses : Nat
  stores : Nat
  files : Nat
  bytes : Nat
  deriving DecidableEq

/-- Work with a cache. -/
abbrev CacheWork := WorkOn Cache

namespace Cache

/-- How the names of entries begin. -/
def entryBeginning : String := "template_"

/-- How the names of entries end. -/
def entryEnding : String := ".html"

/-- How many characters of a key the log shows. -/
def shownKey : Nat := 12

/-- The start of a key, for the log. -/
def shortKey (key : String) : String :=
  String.ofList (key.toList.take shownKey)

/-- The path of the entry for a key. -/
def pathFor (c : Cache) (key : String) : DiskPath :=
  c.directory.join (.read (entryBeginning ++ key ++ entryEnding))

/-- Is a page that was stored at `stored` still fresh at `now`? -/
def isFreshAt (ttl : Nat) (now stored : Binary64) : Bool :=
  ttl = 0 || (now.sub stored).isBelow ttl

/-- Writes a line of the cache's log. -/
def note (level : LogLevel) (message : String) : Work Unit :=
  Work.note .cache level message

/-- Is the entry fresh? Pages that live for ever are not looked at. -/
def isFresh (c : Cache) (entry : DiskPath) : Work Bool := do
  if c.ttl = 0 then pure true
  else
    let node ← Work.inspect entry
    return isFreshAt c.ttl (← get).clock node.changed

/-- Removes a file; a failure goes to the log, with `what` in front. Was it removed? -/
def removeNoting (what : String) (entry : DiskPath) : Work Bool := do
  match ← Work.outcome (Work.remove entry) with
  | .ok () => pure true
  | .error fault =>
    note .error (what ++ " " ++ entry.text ++ ": " ++ fault.message)
    pure false

/-- Is there a fresh entry for the key? A stale one is removed. -/
def hasValid (c : Cache) (key : String) : Work Bool := do
  let entry := c.pathFor key
  match ← Work.outcome (c.isFresh entry) with
  | .ok true => pure true
  | .ok false =>
    note .debug ("Removing stale cache entry " ++ entry.name)
    let _ ← removeNoting "Failed to delete stale cache file" entry
    pure false
  | .error fault => if fault.isMissingFile then pure false else throw fault

/-- Counts a page that was not found. -/
def countMiss : CacheWork Unit :=
  WorkOn.update fun c => { c with misses := c.misses + 1 }

/-- The page for a key. An entry that is no text is removed and counts as not found. -/
def get (key : String) : CacheWork String := do
  let c ← WorkOn.state
  if ← c.hasValid key then
    let entry := c.pathFor key
    match ← WorkOn.outcome (Work.readText .utf8 entry) with
    | .ok text =>
      WorkOn.update fun c => { c with hits := c.hits + 1 }
      note .debug ("Cache hit " ++ shortKey key)
      pure text
    | .error (.undecodable message) =>
      note .warning ("Discarding corrupt cache entry " ++ entry.name ++ ": " ++ message)
      Work.remove entry
      countMiss
      throw (.cacheMiss key (some (Fault.undecodable message).kind))
    | .error fault =>
      if fault.isMissingFile then
        countMiss
        throw (.cacheMiss key none)
      else throw fault
  else
    countMiss
    note .debug ("Cache miss " ++ shortKey key)
    throw (.cacheMiss key none)

/-- The name of a temporary file. -/
def temporaryName (n : Nat) : String :=
  ".template_" ++ toString n ++ ".tmp"

/-- A name for a temporary file that is not taken yet. -/
def freshName (taken : List String) : String :=
  (((List.range (taken.length + 1)).map temporaryName).find? (!taken.contains ·)).getD (temporaryName 0)

/-- The path of a temporary file in the cache's directory, as the directory is by name alone. -/
def temporaryPath (c : Cache) (d : Disk) : DiskPath :=
  let place := c.directory.resolve d.working
  (DiskPath.ofPlace d.working place).child (freshName (d.namesAt place))

/-- Writes a page to an empty temporary file and puts that in the place of the entry. -/
def fill (temporary entry : DiskPath) (content : String) : Work Unit := do
  Work.append temporary (← Work.encode content)
  Work.replace temporary entry

/-- The failure to write an entry, for the log. -/
def noteUnwritten (entry : DiskPath) (fault : Fault) : Work Unit :=
  note .error ("Failed to write template cache " ++ entry.text ++ ": " ++ fault.message)

/-- Stores the page for a key. Was it stored? A page that has no bytes is a fault, which leaves the temporary file. -/
def store (key content : String) : CacheWork Bool := do
  let c ← WorkOn.state
  let entry := c.pathFor key
  let temporary := c.temporaryPath (← (MonadState.get : Work World)).disk
  match ← WorkOn.outcome (Work.createFile temporary) with
  | .error fault =>
    noteUnwritten entry fault
    pure false
  | .ok () =>
    match ← WorkOn.outcome (fill temporary entry content) with
    | .error fault =>
      if fault.isDiskFault then
        noteUnwritten entry fault
        Work.remove temporary
        pure false
      else throw fault
    | .ok () =>
      WorkOn.update fun c => { c with stores := c.stores + 1 }
      pure true

/-- Those of the paths that look like files. -/
def onlyFiles : List DiskPath → Work (List DiskPath)
  | [] => pure []
  | path :: paths => do
    if ← Work.isFile path then return path :: (← onlyFiles paths) else onlyFiles paths

/-- Does the name of an entry begin like this? -/
def isEntryName (name : String) : Bool :=
  entryBeginning.toList.isPrefixOf name.toList

/-- The paths of all entries. -/
def listEntries (c : Cache) : Work (List DiskPath) := do
  let names ← Work.names c.directory
  onlyFiles ((names.filter isEntryName).map c.directory.child)

/-- The paths of all entries; a failure goes to the log. -/
def entries (c : Cache) : Work (List DiskPath) := do
  match ← Work.outcome c.listEntries with
  | .ok paths => pure paths
  | .error fault =>
    note .error ("Failed to list template cache " ++ c.directory.text ++ ": " ++ fault.message)
    pure []

/-- Removes files. Were all of them removed? -/
def removeAll : List DiskPath → Work Bool
  | [] => pure true
  | path :: paths => do
    let removed ← removeNoting "Failed to delete cache file" path
    let others ← removeAll paths
    pure (removed && others)

/-- Removes all entries. Were all of them removed? -/
def clear (c : Cache) : Work Bool := do
  removeAll (← c.entries)

/-- The number and the size of files; those that have vanished do not count. -/
def measure : List DiskPath → Work (Nat × Nat)
  | [] => pure (0, 0)
  | path :: paths => do
    match ← Work.outcome (Work.inspect path) with
    | .ok node =>
      let (files, bytes) ← measure paths
      pure (files + 1, bytes + node.size)
    | .error fault => if fault.isMissingFile then measure paths else throw fault

/-- The counts of the cache and the size of its directory. -/
def stats (c : Cache) : Work CacheStats := do
  let (files, bytes) ← measure (← c.entries)
  return ⟨c.hits, c.misses, c.stores, files, bytes⟩

/-- Makes the directory of a new cache, and clears it in development. -/
def prepare (c : Cache) (development : Bool) : Work Cache := do
  match ← Work.outcome (Work.makeDirectories c.directory) with
  | .error fault =>
    throw (.cacheUnavailable
      ("Unable to create template cache directory: " ++ c.directory.text ++ " (" ++ fault.message ++ ")")
      (some fault.kind))
  | .ok () =>
    if ← Work.isWritable c.directory then
      if development then
        let _ ← c.clear
      pure c
    else
      throw (.cacheUnavailable ("Template cache directory is not writable: " ++ c.directory.text) none)

/-- Opens a cache. -/
def ofSettings (s : Settings) : Work Cache :=
  let c : Cache := ⟨s.cacheDirectory, s.cacheTtl, 0, 0, 0⟩
  if c.directory.hasNull then throw .nullCharacter else c.prepare s.development

/-- The cache in messages. -/
def inspect (c : Cache) : String :=
  "<TemplateCache " ++ c.directory.text ++ " ttl=" ++ toString c.ttl ++ ">"

end Cache

end Stencil
