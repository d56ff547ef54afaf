import Stencil.Disk
import Stencil.Disk.Weather
import Stencil.Fault
import Stencil.Text.Decoding

/-!
# Work on a disk

A piece of work runs against a world: a disk, a clock, the weather, and the log that it writes. It may
fail at any operation, but leaves a world in any case; what it did before stays done.
-/

namespace Stencil

/-- How important a line of the log is. -/
inductive LogLevel where
  | debug
  | warning
  | error
  deriving DecidableEq

/-- The name of a level. -/
def LogLevel.name : LogLevel → String
  | debug => "DEBUG"
  | warning => "WARNING"
  | error => "ERROR"

/-- Who writes a line of the log. -/
inductive LogSource where
  | cache
  | engine
  deriving DecidableEq

/-- The name under which a source writes. -/
def LogSource.name : LogSource → String
  | cache => "curly.cache.template_cache"
  | engine => "curly.environment.core"

/-- A line of the log. -/
structure LogLine where
  level : LogLevel
  source : LogSource
  message : String
  deriving DecidableEq

/-- What work runs against. -/
structure World where
  disk : Disk
  clock : Binary64
  weather : Weather
  /-- How many operations there have been. -/
  tick : Nat
  /-- The lines of the log, last first. -/
  log : List LogLine

/-- A piece of work: it may fail, but leaves a world in any case. -/
abbrev Work := ExceptT Fault (StateM World)

namespace Work

/-- Writes a line of the log. -/
def note (source : LogSource) (level : LogLevel) (message : String) : Work Unit :=
  modify fun w => { w with log := ⟨level, source, message⟩ :: w.log }

/-- What the work gives or the fault it ends with, without failing. -/
def outcome {α : Type} (work : Work α) : Work (Except Fault α) :=
  fun w => let (result, w) := work w; (.ok result, w)

/-- An operation on the disk. If the weather strikes, the disk stays as it is. -/
def operate {α : Type} (operation : Operation) (p : DiskPath)
    (act : World → Except DiskFault α × Disk) : Work α :=
  fun w =>
    let after := { w with tick := w.tick + 1 }
    match w.weather.strike w.tick operation p with
    | some strike => (.error (.disk strike.fault), after)
    | none =>
      let (result, disk) := act w
      (result.mapError .disk, { after with disk := disk })

/-- A question to the disk. -/
def ask {α : Type} (operation : Operation) (p : DiskPath) (question : Disk → Except DiskFault α) : Work α :=
  operate operation p fun w => (question w.disk, w.disk)

/-- A change of the disk, given the time. -/
def change (operation : Operation) (p : DiskPath)
    (act : Disk → Binary64 → Except DiskFault Disk) : Work Unit :=
  operate operation p fun w => w.disk.outcome (act w.disk w.clock)

/-- A question that fails only for reasons other than absence; absence answers `otherwise`. -/
def askPresence (p : DiskPath) (question : Disk → Except DiskFault Bool) (otherwise : Bool) : Work Bool := do
  match ← outcome (ask .probe p question) with
  | .ok answer => pure answer
  | .error (.disk fault) => if fault.isAbsence then pure otherwise else throw (.disk fault)
  | .error fault => throw fault

/-- Does the path look like a file? -/
def isFile (p : DiskPath) : Work Bool := do
  if (← get).weather.ghost p then pure true else askPresence p (·.isFile p) false

/-- Does the path denote a directory? -/
def isDirectory (p : DiskPath) : Work Bool :=
  askPresence p (·.isDirectory p) false

/-- What a path denotes, for its size and its time. -/
def inspect (p : DiskPath) : Work DiskNode :=
  ask .inspect p (·.find p)

/-- The names in a directory, in order. -/
def names (p : DiskPath) : Work (List String) :=
  ask .list p (·.names p)

/-- The text of a file, with every line end read as a line feed. -/
def readText (encoding : Encoding) (p : DiskPath) : Work String := do
  let bytes ← ask .read p (·.read p)
  match encoding.decode bytes with
  | .ok chars => pure (String.ofList (readNewlines chars))
  | .error fault => throw (.undecodable (fault.message encoding.name))

/-- The text of a file in UTF-8, with its line ends as they are. -/
def readRaw (p : DiskPath) : Work String := do
  let bytes ← ask .read p (·.read p)
  match Encoding.utf8.decode bytes with
  | .ok chars => pure (String.ofList chars)
  | .error fault => throw (.undecodable (fault.message Encoding.utf8.name))

/-- Makes a directory and those above it, as far as they are not there. -/
def makeDirectories (p : DiskPath) : Work Unit :=
  operate .makeDirectories p fun w => w.disk.makeDirectories w.clock p

/-- May files be made in a directory? -/
def isWritable (p : DiskPath) : Work Bool := do
  match ← outcome (ask .checkAccess p (·.isDirectory p)) with
  | .ok answer => pure answer
  | .error _ => pure false

/-- Makes an empty file where nothing is yet. -/
def createFile (p : DiskPath) : Work Unit :=
  change .createTemporary p fun d clock => d.createFile clock p

/-- The bytes of a text in UTF-8. -/
def encode (content : String) : Work (List UInt8) := do
  match (← get).weather.broken content with
  | some message => throw (.unencodable message)
  | none => pure (Utf8.encode content.toList)

/-- Adds bytes to the end of a file. If the weather strikes, some of them may have been added. -/
def append (p : DiskPath) (bytes : List UInt8) : Work Unit := fun w =>
  match w.weather.strike w.tick .append p with
  | some strike =>
    let after := { w with tick := w.tick + 1 }
    match w.disk.append w.clock p (bytes.take strike.written) with
    | .ok disk => (.error (.disk strike.fault), { after with disk := disk })
    | .error _ => (.error (.disk strike.fault), after)
  | none => change .append p (fun d clock => d.append clock p bytes) w

/-- Gives a file another path, over a file that may be there. -/
def replace (source target : DiskPath) : Work Unit :=
  change .replace target fun d _ => d.replace source target

/-- Removes a file, unless there is none. -/
def remove (p : DiskPath) : Work Unit :=
  change .remove p fun d _ =>
    match d.remove p with
    | .error (.failed .missing _ _) => .ok d
    | result => result

end Work

/-- A piece of work that also keeps a state of its own, which remains in any case. -/
abbrev WorkOn (σ : Type) := ExceptT Fault (StateM (σ × World))

namespace WorkOn

/-- Work that leaves the state alone. -/
def ofWork {σ α : Type} (work : Work α) : WorkOn σ α :=
  fun (s, w) => let (result, w) := work w; (result, s, w)

instance {σ : Type} : MonadLift Work (WorkOn σ) := ⟨ofWork⟩

/-- The state. -/
def state {σ : Type} : WorkOn σ σ :=
  fun (s, w) => (.ok s, s, w)

/-- Changes the state. -/
def update {σ : Type} (f : σ → σ) : WorkOn σ Unit :=
  fun (s, w) => (.ok (), f s, w)

/-- What the work gives or the fault it ends with, without failing. -/
def outcome {σ α : Type} (work : WorkOn σ α) : WorkOn σ (Except Fault α) :=
  fun s => let (result, s) := work s; (.ok result, s)

/-- Work on a part of the state. -/
def onPart {σ τ α : Type} (part : σ) (put : σ → τ → τ) (work : WorkOn σ α) : WorkOn τ α :=
  fun (t, w) => let (result, s, w) := work (part, w); (result, put s t, w)

/-- Work with a state of its own that starts as given and is forgotten in the end. -/
def startingAt {σ α : Type} (start : σ) (work : WorkOn σ α) : Work α :=
  fun w => let (result, _, w) := work (start, w); (result, w)

end WorkOn

end Stencil
