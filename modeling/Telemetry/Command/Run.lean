import Telemetry.Command.Invocation
import Telemetry.Document.File
import Telemetry.Export.Creation
import Telemetry.Export.Delivery
import Telemetry.Log.Setup

/-!
# Running the program

* `Command.Program`: the name of the program in its log, and the plugins linked into it.
* `Command.Surroundings`: the environment and the files that a run sees.
* `Command.Outcome`: what a run prints, logs and complains about, and its exit status.
* `Command.run`: the outcome of a list of arguments.
* `Outcome.shown`: the lines that a run prints, those of its log among them.
-/

namespace Telemetry.Command

/-- A program. -/
structure Program where
  /-- The name of the program in its log. -/
  name : String := "otk_cli"
  registrations : List PluginRegistration := []

/-- What a run sees of the world. -/
structure Surroundings where
  env : Lookup
  file : String → Except Document.FileFault Bytes

/-- What a run prints: an event for the log, or lines of its own. -/
inductive Line where
  | event (e : Log.Event)
  | text (s : String)
  deriving DecidableEq

/-- How a run ends. -/
structure Outcome where
  lines : List Line := []
  complaint : Option String := none
  /-- The exit status: zero for success. -/
  status : Nat := 0
  deriving DecidableEq

/-- The exit status of a run that failed. -/
def failureStatus : Nat := 1

/-- The exit status of arguments that make no sense. -/
def usageStatus : Nat := 2

/-- The events of a journal. -/
def eventsOf (journal : List Notice) : List Line :=
  journal.filterMap fun
    | .logged e => some (.event e)
    | _ => none

/-- A JSON text, on one line or on indented ones. -/
def jsonLine (pretty : Bool) (t : Tree) : Line :=
  .text (if pretty then t.toPrettyJson 0 else t.toJson)

/-- The store at the start of a run. -/
def Program.store (p : Program) : Store :=
  { catalogue := { registrations := p.registrations, linked := [{}] } }

/-- The loader of the plugins that are linked into the program. -/
def linkedPlugins : Provider.Loader := .linked 0

/-! ## Validating -/

/-- The event that a variable is not set. -/
def unsetReference (name : String) : Log.Event :=
  ⟨.debug, "otk_config::document", "unset environment reference", [("variable", .quoted name)]⟩

/-- What a document amounts to. -/
def summary (exporters : List String) (fileFormat : String) (resources : Nat) : Tree :=
  .node [("exporters", .list (exporters.map .text)), ("file_format", .text fileFormat),
    ("resources", .int resources)]

/-- The complaint about a document that cannot be read. -/
def unreadable (path : String) (fault : Document.Fault) : String :=
  "failed to parse " ++ path ++ ": " ++ fault.message ++
    (match fault.source with
      | some reason => ": " ++ reason
      | none => "")

/-- The complaint about a document whose exporters cannot be made. -/
def unresolved (path : String) (fault : ConfigFault) : String :=
  "failed to resolve metric exporters in " ++ path ++ ": " ++ fault.message

/-- The complaint about resources that were not closed. -/
def unreleased (faults : List CloseFault) : String :=
  "failed to release resources: " ++ joined "; " (faults.map CloseFault.message)

/-- Makes the exporters of a configuration, describes them and closes them again. -/
def resolve (p : Program) (path : String) (pretty : Bool) (c : Configuration) : Outcome :=
  let (made, s) := p.store.createAll c linkedPlugins
  let resources := s.resources.length
  let (faults, closed) := s.closeAll
  let events := eventsOf closed.journal
  match made with
  | .error fault => ⟨events, some (unresolved path fault), failureStatus⟩
  | .ok numbers =>
    if faults.isEmpty then
      let exporters := numbers.filterMap fun n => (s.exporters[n]?).map Exporter.describe
      { lines := events ++ [jsonLine pretty (summary exporters c.fileFormat resources)] }
    else ⟨events, some (unreleased faults), failureStatus⟩

/-- Reads a document and resolves its exporters. -/
def validate (p : Program) (w : Surroundings) (path : String) (pretty : Bool) : Outcome :=
  let contents := w.file path
  let unset := (Document.unsetNamesInFile path contents w.env).map fun name =>
    Line.event (unsetReference name)
  match Document.readFile Configuration.ofTree path contents w.env with
  | .error fault => ⟨unset, some (unreadable path fault), failureStatus⟩
  | .ok c =>
    let outcome := resolve p path pretty c
    { outcome with lines := unset ++ outcome.lines }

/-! ## Listing -/

/-- Lists the methods of compression. -/
def compressors (p : Program) (pretty : Bool) : Outcome :=
  let (methods, s) := p.store.supported linkedPlugins
  let methods := Compression.noMethod :: methods
  { lines := eventsOf s.journal ++
      [jsonLine pretty (.node [("compression", .list (methods.map .text))])] }

/-- The event that plugins go by the names of built-in exporters. -/
def shadowedPlugins (p : Program) (names : List String) : Log.Event :=
  ⟨.warn, p.name ++ "::commands::providers",
    "plugins named after built-in exporters are never used", [("shadowed", .texts names)]⟩

/-- Lists the exporters. -/
def providers (p : Program) (pretty : Bool) : Outcome :=
  let (entries, s) := p.store.load .exporter linkedPlugins
  let found : List ExporterProvider := Provider.providers .exporter entries
  let names := (found.map ExporterProvider.name).mergeSort fun a b => decide (a ≤ b)
  let shadowed := names.filter ExporterNode.isBuiltin
  let warning := if shadowed.isEmpty then [] else [Line.event (shadowedPlugins p shadowed)]
  let builtin := [ExporterNode.consoleKey, ExporterNode.otlpKey]
  { lines := eventsOf s.journal ++ warning ++
      [jsonLine pretty (.node [("builtin", .list (builtin.map .text)),
        ("plugins", .list (names.map .text))])] }

/-! ## Running -/

/-- The outcome of an invocation. -/
def perform (p : Program) (w : Surroundings) : Invocation → Outcome
  | .validate path pretty => validate p w path pretty
  | .compressors pretty => compressors p pretty
  | .providers pretty => providers p pretty
  | .version => { lines := [.text (programName ++ " " ++ programVersion)] }
  | .help topic => { lines := topic.page.map .text }

/-- The complaint about arguments that make no sense. -/
def misused : String := "error: invalid arguments\n\n" ++ joined "\n" (Topic.usage .program)

/-- The outcome of a list of arguments. -/
def run (p : Program) (w : Surroundings) (arguments : List String) : Outcome :=
  match Invocation.ofArguments? arguments with
  | some i => perform p w i
  | none => { complaint := some misused, status := usageStatus }

/-- The file that a list of arguments asks to read. -/
def fileAsked? (arguments : List String) : Option String :=
  match Invocation.ofArguments? arguments with
  | some (.validate path _) => some path
  | _ => none

/-- The lines that are shown; `time` is what stands before an event. -/
def Outcome.shown (o : Outcome) (setup : Log.Setup) (time : String) : List String :=
  o.lines.filterMap fun
    | .event e => setup.line? time e
    | .text s => some s

end Telemetry.Command
