import Telemetry.Configuration.Otlp

/-!
# Exporter nodes

* `ExporterNode`: the OTLP exporter with its settings, the console exporter, or a plugin with its
  name and its configuration.
* `ExporterNode.ofTree`, `ExporterNode.write`: a node is a map with one entry, whose name is its
  key.
* `ExporterNode.canonical`: the node that a document with the same entry denotes.
-/

namespace Telemetry

/-- An exporter of a document. -/
inductive ExporterNode where
  | otlp (settings : OtlpSettings)
  | console
  | named (name : String) (config : Entries)
  deriving DecidableEq

namespace ExporterNode

/-- The key of the OTLP exporter. -/
def otlpKey : String := "otlp"

/-- The key of the console exporter. -/
def consoleKey : String := "console"

/-- Whether a key belongs to a built-in exporter. -/
def isBuiltin (key : String) : Bool := key == otlpKey || key == consoleKey

/-- The key under which a node is written. -/
def key : ExporterNode → String
  | .otlp _ => otlpKey
  | .console => consoleKey
  | .named name _ => name

/-- The settings of the console exporter, of which there are none. -/
def consoleOfTree : Tree → Shaped Unit :=
  Shape.record "ConsoleModel" 0 (fun _ => .ok ()) (fun _ => .ok ())

/-- Puts a fault below a key. -/
def under {α : Type} (key : String) : Shaped α → Shaped α
  | .ok a => .ok a
  | .error fault => .error (.under key fault)

/-- The node of a key and what stands under it; nothing is as good as an empty map. -/
def ofEntry (key : String) (body : Tree) : Shaped ExporterNode :=
  let body := match body with
    | .null => .node []
    | t => t
  if key = otlpKey then (under otlpKey (OtlpSettings.ofTree body)).map .otlp
  else if key = consoleKey then (under consoleKey (consoleOfTree body)).map fun _ => .console
  else match body with
    | .node config => .ok (.named key config)
    | _ => .error (.unstructured key)

/-- The exporter that a tree denotes. -/
def ofTree : Tree → Shaped ExporterNode
  | .node [(key, body)] => ofEntry key body
  | .node entries => .error (.entryCount entries.length)
  | t => .error (.wrongType t .map)

/-- The exporter as a tree. -/
def write (layout : Layout) : ExporterNode → Tree
  | .otlp settings => .node [(otlpKey, settings.write layout)]
  | .console => .node [(consoleKey, .node [])]
  | .named name config => .node [(name, .node config)]

/-- Whether a node is a plugin under the key of a built-in exporter. -/
def shadowsBuiltin : ExporterNode → Bool
  | .named name _ => isBuiltin name
  | _ => false

/-- The node that a document denotes which holds this one: a plugin under the key of a built-in
exporter becomes that exporter. -/
def canonical : ExporterNode → Shaped ExporterNode
  | .named name config =>
    if isBuiltin name then ofTree (.node [(name, .node config)]) else .ok (.named name config)
  | node => .ok node

end ExporterNode

end Telemetry
