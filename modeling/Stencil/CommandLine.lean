import Stencil.CommandLine.Arguments
import Stencil.Engine
import Stencil.Html.ErrorPage
import Stencil.Json.Reader

/-!
# The command line

A run renders one template with the data of a file, or removes all kept pages. Its settings come from the
variables of the environment, and options change them. The page goes to the first output; the log and the
reason of a failure go to the second one. A run ends with 0 if all went well, with 1 if the template or
the cache failed, and with 2 if it could not begin.
-/

namespace Stencil.CommandLine

/-- What a run leaves: its exit code, what it writes on the first output, and the reason of a failure. -/
structure Outcome where
  exit : Nat
  output : String
  reason : String
  deriving DecidableEq

namespace Outcome

/-- All went well. -/
def success (output : String) : Outcome :=
  ⟨0, output, ""⟩

/-- The template or the cache failed. -/
def failure (reason : String) : Outcome :=
  ⟨1, "", reason ++ "\n"⟩

/-- The run could not begin. -/
def rejection (reason : String) : Outcome :=
  ⟨2, "", "error: " ++ reason ++ "\n"⟩

end Outcome

/-- The data that a text writes as a JSON object; `path` is where the text is from. -/
def dataOf (path : DiskPath) (text : String) : Except Fault Scope :=
  match Json.read text with
  | .error message => .error (.badSetting message)
  | .ok v =>
    match v.entries? with
    | some entries => .ok entries
    | none =>
      .error (.badSetting (path.text ++ ": render data must be a JSON object, got " ++ v.typeName))

/-- The data for a rendering: those of a file, or none. -/
def loadData : Option DiskPath → Work Scope
  | none => pure []
  | some path => do
    match dataOf path (← Work.readText .utf8 path) with
    | .ok data => pure data
    | .error fault => throw fault

/-- How a fault of a rendering is reported: by a page about it or by its short form. -/
def reportFault (errorPage : Bool) (fault : Fault) : Outcome :=
  if errorPage then ⟨1, Html.errorPage fault Html.defaultTitle, ""⟩ else .failure fault.compact

/-- Renders a template of some directories. -/
def render (settings : Settings) (name : String) (searchPath : List DiskPath) (data : Option DiskPath)
    (errorPage : Bool) : Work Outcome := do
  match ← Work.outcome (loadData data) with
  | .error fault =>
    if fault.isDiskFault || fault.isValueFault then
      pure (.rejection ("cannot read data: " ++ fault.message))
    else throw fault
  | .ok data =>
    let engine := Engine.fresh (some (.directories searchPath .utf8 "")) settings none
    match ← Work.outcome (WorkOn.startingAt engine (Engine.render name [.map data] [])) with
    | .ok page => pure (.success page)
    | .error fault => if fault.isTemplateFault then pure (reportFault errorPage fault) else throw fault

/-- Removes all kept pages. The cache is not cleared a second time in development. -/
def clearCache (settings : Settings) : Work Outcome := do
  match ← Work.outcome (Cache.ofSettings { settings with development := false }) with
  | .error fault => if fault.isTemplateFault then pure (.failure fault.compact) else throw fault
  | .ok cache =>
    if ← cache.clear then
      pure (.success ("Cleared " ++ cache.directory.text ++ "\n"))
    else
      pure (.failure ("error: some entries in " ++ cache.directory.text ++ " could not be removed"))

/-- The settings of a run: those of the variables, changed as the request demands. -/
def Request.settings (request : Request) (environment : List (String × String)) : Except Fault Settings :=
  Settings.ofVariables environment >>= (·.override request.changes)

/-- Does what a request asks for. -/
def perform (environment : List (String × String)) (request : Request) : Work Outcome := do
  match request.settings environment with
  | .error fault => if fault.isValueFault then pure (.rejection fault.message) else throw fault
  | .ok settings =>
    match request.job with
    | .render name searchPath data errorPage => render settings name searchPath data errorPage
    | .clearCache => clearCache settings

/-- Is a line of the log shown? -/
def isShown (verbose : Bool) (line : LogLine) : Bool :=
  verbose || line.level ≠ .debug

/-- A line of the log as it is written. -/
def logText (line : LogLine) : String :=
  line.level.name ++ " " ++ line.source.name ++ ": " ++ line.message ++ "\n"

/-- How a run ends. -/
inductive Ending where
  /-- The usage is shown, on request or because the arguments make no sense. -/
  | usage (stop : Stop)
  | finished (exit : Nat) (output errors : String)
  | fault (fault : Fault)

/-- The exit code of a run that shows its usage. -/
def Stop.exit : Stop → Nat
  | .help => 0
  | .misuse => 2

/-- The end of a run with the given arguments and variables in the given weather, and the world after it. -/
def run (weather : Weather) (environment : List (String × String)) (args : List String) (w : World) :
    Ending × World :=
  match read args with
  | .error stop => (.usage stop, w)
  | .ok request =>
    let (result, after) := perform environment request { w with weather := weather, log := [] }
    let world := { after with weather := .calm, log := [] }
    match result with
    | .error fault => (.fault fault, world)
    | .ok outcome =>
      let lines := (after.log.reverse.filter (isShown request.verbose)).map logText
      (.finished outcome.exit outcome.output (String.join lines ++ outcome.reason), world)

end Stencil.CommandLine
