import Stencil.CommandLine

/-!
# The program

The part of the disk that a run may look at is loaded, the run takes place on what was loaded, and its
changes are brought back to the disk. Of the files below the search path only those that the run may read
are loaded with their content.
-/

namespace Stencil.CommandLine

/-- How the program is called. -/
def usageText : String :=
  "usage: curly render NAME --search-path DIRECTORY [--data FILE] [--no-cache] [--cache-dir DIRECTORY]\n"
    ++ "                    [--ttl SECONDS] [--development] [--no-autoescape] [--minify] [--error-page]\n"
    ++ "                    [-v]\n"
    ++ "       curly clear-cache [--cache-dir DIRECTORY] [-v]\n"

/-- How many directories deep a search path is looked at. -/
def greatestDepth : Nat := 64

/-- A time of the disk as a number of seconds. -/
def secondsOf (t : IO.FS.SystemTime) : Binary64 :=
  let nanoseconds : Int := t.sec * 1000000000 + t.nsec.toNat
  .ofDecimal (nanoseconds < 0) nanoseconds.natAbs (-9)

/-- A place as the disk writes it. -/
def placeText (place : List String) : String :=
  "/" ++ "/".intercalate place

/-- What stands at a place of the disk; a file without its content. -/
def nodeAt? (place : List String) : IO (Option DiskNode) := do
  try
    let facts ← ((← IO.currentDir) / placeText place).metadata
    match facts.type with
    | .dir => return some (.directory (secondsOf facts.modified))
    | .file => return some (.file [] (secondsOf facts.modified))
    | _ => return none
  catch _ => return none

/-- The names in a directory; none if it cannot be looked into. -/
def namesAt (place : List String) : IO (List String) := do
  try
    let entries ← ((← IO.currentDir) / placeText place).readDir
    return entries.toList.map (·.fileName)
  catch _ => return []

/-- Everything below a place, down to the given depth. -/
def nodesBelow : (depth : Nat) → List String → IO (List (List String × DiskNode))
  | 0, _ => return []
  | depth + 1, place => do
    let found ← (← namesAt place).mapM fun name => do
      let inner := place ++ [name]
      match ← nodeAt? inner with
      | none => return []
      | some node =>
        if node.isFile then return [(inner, node)]
        else return (inner, node) :: (← nodesBelow depth inner)
    return found.flatten

/-- The disk with what stands at a place and on the way to it. -/
def withWay (d : Disk) (place : List String) : IO Disk := do
  let mut d := d
  for way in (List.range place.length).map fun n => place.take (n + 1) do
    if let some node ← nodeAt? way then
      d := d.put way node
  return d

/-- The disk with everything that is at a path and below it. -/
def withTree (d : Disk) (path : DiskPath) : IO Disk := do
  let place := path.resolve d.working
  let d ← withWay d place
  return (← nodesBelow greatestDepth place).foldl (fun d (p, node) => d.put p node) d

/-- The disk with the content of the file at a place, if there is one that can be read. -/
def withContent (d : Disk) (place : List String) : IO Disk := do
  match d.node? place with
  | some (.file _ changed) =>
    try
      let bytes ← IO.FS.readBinFile (placeText place)
      return d.put place (.file bytes.toList changed)
    catch _ => return d
  | _ => return d

/-- The directories and the files that a request needs. -/
def needs (settings : Settings) (request : Request) : List DiskPath × List DiskPath :=
  match request.job with
  | .clearCache => ([settings.cacheDirectory], [])
  | .render name searchPath data _ =>
    (settings.cacheDirectory :: searchPath,
      data.toList ++ searchPath.map (·.join (Loader.relativePath name "")))

/-- What a request needs of the disk. -/
def loadDisk (settings : Settings) (request : Request) : IO Disk := do
  let working := (DiskPath.read (← IO.currentDir).toString).names
  let (directories, files) := needs settings request
  let mut d ← withWay ⟨working, []⟩ working
  for path in directories do
    d ← withTree d path
  for path in files do
    let place := path.resolve working
    d ← withContent (← withWay d place) place
  let cache := settings.cacheDirectory.resolve working
  for name in d.namesAt cache do
    d ← withContent d (cache ++ [name])
  return d

/-- The time now, by the clock of the disk. -/
def readClock : IO Binary64 :=
  IO.FS.withTempFile fun _ path => do
    return secondsOf (← path.metadata).modified

/-- Brings the changes between two states of a disk to the real one. -/
def saveChanges (before after : Disk) : IO Unit := do
  for (place, node) in before.nodes do
    if node.isFile && (after.node? place).isNone then
      IO.FS.removeFile (placeText place)
  for (place, node) in after.nodes do
    if before.node? place ≠ some node then
      match node with
      | .directory _ => IO.FS.createDirAll (placeText place)
      | .file content _ =>
        let aside := placeText (place.dropLast ++ ["." ++ place.getLast?.getD "" ++ ".tmp"])
        IO.FS.createDirAll (placeText place.dropLast)
        IO.FS.writeBinFile aside (.mk content.toArray)
        IO.FS.rename aside (placeText place)

/-- The disk that a run starts with; one that does not begin needs none. -/
def startDisk (environment : List (String × String)) (args : List String) : IO Disk := do
  match read args with
  | .error _ => return ⟨[], []⟩
  | .ok request =>
    match request.settings environment with
    | .error _ => return ⟨[], []⟩
    | .ok settings => loadDisk settings request

/-- Runs the program with the variables of the environment. -/
def runOnDisk (args : List String) : IO Ending := do
  let environment ← Settings.variableNames.filterMapM fun name => do
    return (← IO.getEnv name).map (name, ·)
  let before : World := ⟨← startDisk environment args, ← readClock, .calm, 0, []⟩
  let (ending, after) := run .calm environment args before
  saveChanges before.disk after.disk
  return ending

end Stencil.CommandLine

/-- The program. -/
def main (args : List String) : IO UInt32 := do
  match ← Stencil.CommandLine.runOnDisk args with
  | .usage .help =>
    IO.print Stencil.CommandLine.usageText
    return 0
  | .usage stop =>
    IO.eprint Stencil.CommandLine.usageText
    return stop.exit.toUInt32
  | .finished exit output errors =>
    IO.print output
    IO.eprint errors
    return exit.toUInt32
  | .fault fault =>
    IO.eprintln (fault.kind ++ ": " ++ fault.message)
    return 1
