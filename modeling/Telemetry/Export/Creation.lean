import Telemetry.Configuration.Model
import Telemetry.Export.Store
import Telemetry.Text.Blank

/-!
# Making exporters

* `Otlp.Plan.ofView` …: what the settings of an OTLP node make.
* `Store.createOtlp`, `Store.createConsole`, `Store.loadComponent`: exporters of the built-in kinds
  and of plugins.
* `Store.createExporter`: the exporter of a node, which is added to the resources; the channel of an
  OTLP exporter comes before it. Plugins never take the place of built-in exporters.
* `Store.createAll`: the exporters of a configuration, in order, up to the first fault.
-/

namespace Telemetry

/-! ## Plans of OTLP exporters -/

namespace Otlp

/-- The header of an entry. -/
def headerOf (p : Properties) : Except ConfigFault (String × String) :=
  match p.text? "name", p.text? "value" with
  | some name, some value => .ok (name, value)
  | _, _ => .error .incompleteHeader

/-- The pieces of a list of pairs that are not blank, without the blanks around them. -/
def pairsOf (list : String) : List (List Char) :=
  ((splitOnChar ',' list.toList).map trimBlank).filter fun pair => pair != []

/-- The header of a pair. -/
def headerOfPair (pair : List Char) : Except ConfigFault (String × String) :=
  match splitFirst? '=' pair with
  | some (name, value) => .ok (String.ofList (trimBlank name), String.ofList (trimBlank value))
  | none => .error (.malformedHeader (String.ofList pair))

/-- The headers of a view: the entries of `headers`, then the pairs of `headers_list`. -/
def headersOf (p : Properties) : Except ConfigFault (List (String × String)) := do
  let entries ← ((p.structuredList? "headers").getD []).mapM headerOf
  let pairs ← (((p.text? "headers_list").map pairsOf).getD []).mapM headerOfPair
  pure (entries ++ pairs)

/-- The aggregations that follow from a choice for histograms. -/
def histogramSelector : HistogramChoice → AggregationSelector
  | .explicitBuckets => ({} : AggregationSelector).set .histogram .defaultExplicit
  | .exponentialBuckets => ({} : AggregationSelector).set .histogram .defaultExponential

namespace Plan

/-- Sets the protocol. -/
def withProtocol (view : Properties) (p : Plan) : Except ConfigFault Plan :=
  match view.text? "protocol" with
  | none => .ok p
  | some name =>
    match Protocol.ofName? name with
    | some protocol => .ok { p with protocol }
    | none => .error (.unsupportedProtocol name)

/-- Sets protocol, endpoint and headers. -/
def withAddress (view : Properties) (p : Plan) : Except ConfigFault Plan := do
  let p ← withProtocol view p
  let headers ← headersOf view
  pure { p with endpoint := (view.text? "endpoint").getD p.endpoint, headers }

/-- Sets the timeout. -/
def withTimeout (view : Properties) (p : Plan) : Except ConfigFault Plan :=
  match view.integer? "timeout" with
  | none => .ok p
  | some n =>
    match view.millis? "timeout" with
    | some timeout => .ok { p with timeout }
    | none => .error (.negativeTimeout n.toInt)

/-- Sets the files of keys and certificates. A client has both a key and a certificate or none. -/
def withTls (view : Properties) (p : Plan) : Except ConfigFault Plan :=
  let certificate := view.text? "certificate"
  match view.text? "client_key", view.text? "client_certificate" with
  | some key, some cert => .ok { p with tls := ⟨certificate, some key, some cert⟩ }
  | none, none => .ok { p with tls := ⟨certificate, none, none⟩ }
  | _, _ => .error .incompleteClientTls

/-- Sets the temporalities. -/
def withTemporality (view : Properties) (p : Plan) : Except ConfigFault Plan :=
  match view.text? "temporality_preference" with
  | none => .ok p
  | some preference =>
    match TemporalitySelector.ofPreference? preference with
    | some temporality => .ok { p with temporality }
    | none => .error (.unknownTemporality preference)

/-- Sets the aggregation of histograms. -/
def withHistogram (view : Properties) (p : Plan) : Except ConfigFault Plan :=
  match view.text? "default_histogram_aggregation" with
  | none => .ok p
  | some name =>
    match HistogramChoice.ofName? name with
    | some choice => .ok { p with aggregation := histogramSelector choice }
    | none => .error (.unknownHistogram name)

/-- Sets what comes after the compressor. -/
def withRest (view : Properties) (p : Plan) : Except ConfigFault Plan := do
  let p ← withTimeout view p
  let p ← withTls view p
  let p ← withTemporality view p
  withHistogram view p

end Plan

end Otlp

namespace Store

/-- The plan that a view describes, its compressor found through the loader of the view. -/
def planOtlp (view : Properties) (s : Store) : Except ConfigFault Otlp.Plan × Store :=
  match Otlp.Plan.withAddress view {} with
  | .error fault => (.error fault, s)
  | .ok plan =>
    match view.text? "compression" with
    | none => (plan.withRest view, s)
    | some method =>
      match s.resolve view.loader method with
      | (.error fault, s) => (.error (.compression fault), s)
      | (.ok compressor, s) => ({ plan with compressor }.withRest view, s)

/-- Adds an OTLP exporter with a channel of its own, which becomes a resource. -/
def addOtlp (plan : Otlp.Plan) (s : Store) : Nat × Store :=
  let (channel, s) := s.addChannel {}
  (s.push (.channel channel)).addExporter (.otlp { plan, channel })

/-- Makes the OTLP exporter that a view describes. -/
def createOtlp (view : Properties) (s : Store) : Except ConfigFault Nat × Store :=
  match s.planOtlp view with
  | (.error fault, s) => (.error fault, s)
  | (.ok plan, s) =>
    let (number, s) := s.addOtlp plan
    (.ok number, s)

/-- Makes a console exporter, whatever its view. -/
def createConsole (_view : Properties) (s : Store) : Except ConfigFault Nat × Store :=
  let (number, s) := s.addExporter (.console {})
  (.ok number, s)

/-- The name of exporters as components. -/
def exporterComponent : String := "otk_exporter::MetricExporter"

/-- The event that a provider is looked for. -/
def resolvingProvider (name : String) (candidates : Nat) : Log.Event :=
  ⟨.debug, "otk_config::component", "resolving component provider",
    [("capability", .quoted exporterComponent), ("name", .quoted name),
      ("candidates", .count candidates)]⟩

/-- Makes the exporter of a plugin. The first provider that goes by the name is asked. -/
def loadComponent (name : String) (config : Entries) (loader : Provider.Loader) (s : Store) :
    Except ConfigFault Nat × Store :=
  let (entries, s) := s.load .exporter loader
  let providers : List ExporterProvider := Provider.providers .exporter entries
  let s := s.log (resolvingProvider name providers.length)
  match providers.find? fun p => p.name == name with
  | none => (.error (.noProvider exporterComponent name), s)
  | some provider =>
    let (compressors, s) := s.compressors loader
    let (outcome, events) := provider.create ⟨config, loader⟩ compressors
    let s := (s.note (.asked provider.name)).logAll events
    match outcome with
    | .error fault => (.error fault, s)
    | .ok e =>
      let (number, s) := s.addExporter (.plugin e)
      (.ok number, s)

/-- Makes the exporter of a node in its canonical form. -/
def createCanonical (node : ExporterNode) (loader : Provider.Loader) (s : Store) :
    Except ConfigFault Nat × Store :=
  match node with
  | .otlp settings =>
    match Properties.ofTree settings.toTree loader with
    | .error fault => (.error fault, s)
    | .ok view => s.createOtlp view
  | .console => s.createConsole (.empty loader)
  | .named name config => s.loadComponent name config loader

/-- The event that an exporter was made. -/
def exporterCreated (key : String) : Log.Event :=
  ⟨.debug, "otk_exporter::factory", "metric exporter created", [("exporter", .quoted key)]⟩

/-- Makes the exporter of a node and adds it to the resources. -/
def createExporter (node : ExporterNode) (loader : Provider.Loader) (s : Store) :
    Except ConfigFault Nat × Store :=
  match node.canonical with
  | .error fault => (.error (.shape fault), s)
  | .ok canonical =>
    match s.createCanonical canonical loader with
    | (.error fault, s) => (.error fault, s)
    | (.ok number, s) => (.ok number, (s.log (exporterCreated node.key)).push (.exporter number))

/-- Makes the exporters of nodes, up to the first fault. -/
def createEach (loader : Provider.Loader) :
    List ExporterNode → Store → Except ConfigFault (List Nat) × Store
  | [], s => (.ok [], s)
  | node :: rest, s =>
    match s.createExporter node loader with
    | (.error fault, s) => (.error fault, s)
    | (.ok number, s) =>
      match createEach loader rest s with
      | (.error fault, s) => (.error fault, s)
      | (.ok numbers, s) => (.ok (number :: numbers), s)

end Store

/-- The exporters of a meter provider: those of its periodic readers. -/
def MeterProvider.exporters (p : MeterProvider) : List ExporterNode :=
  p.readers.filterMap fun r => r.periodic.map PeriodicReader.exporter

namespace Store

/-- The event that a configuration is disabled. -/
def disabledSkipped : Log.Event :=
  ⟨.info, "otk_exporter::factory", "sdk disabled; skipping metric exporters", []⟩

/-- Makes the exporters of a configuration; a disabled one has none. -/
def createAll (c : Configuration) (loader : Provider.Loader) (s : Store) :
    Except ConfigFault (List Nat) × Store :=
  match c.meterProvider with
  | none => (.ok [], s)
  | some p =>
    if c.disabled = some true then (.ok [], s.log disabledSkipped)
    else createEach loader p.exporters s

end Store

end Telemetry
