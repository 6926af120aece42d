import Telemetry.Configuration.Exporter

/-!
# Configuration documents

* `Configuration`: the part of a document that concerns metrics: the meter provider with its
  readers, each with the exporter it pushes to.
* `Configuration.ofTree`, `Configuration.write`: reading and writing them.
-/

namespace Telemetry

/-- A reader that exports at intervals. -/
structure PeriodicReader where
  /-- Milliseconds between exports. -/
  interval : Option Int64
  /-- Milliseconds that an export may take. -/
  timeout : Option Int64
  exporter : ExporterNode
  deriving DecidableEq

/-- A reader of metrics. -/
structure MetricReader where
  periodic : Option PeriodicReader
  deriving DecidableEq

/-- The meter provider. -/
structure MeterProvider where
  readers : List MetricReader
  deriving DecidableEq

/-- A configuration document. -/
structure Configuration where
  fileFormat : String
  disabled : Option Bool
  meterProvider : Option MeterProvider
  deriving DecidableEq

namespace PeriodicReader

/-- The name of this record in messages. -/
def title : String := "PeriodicMetricReaderModel"

/-- The periodic reader that a tree denotes. -/
def ofTree : Tree → Shaped PeriodicReader :=
  Shape.record title 3
    (fun e => do
      let exporter ← Shape.present ExporterNode.ofTree (e.get? "exporter")
      let interval ← Shape.optional Shape.integer (e.get? "interval")
      let timeout ← Shape.optional Shape.integer (e.get? "timeout")
      let exporter ← Shape.required (.missingField "exporter") exporter
      pure ⟨interval, timeout, exporter⟩)
    (fun items => do
      let interval ← Shape.optional Shape.integer items[0]?
      let timeout ← Shape.optional Shape.integer items[1]?
      let exporter ← Shape.present ExporterNode.ofTree items[2]?
      let exporter ← Shape.required (.tooShort 2 title 3) exporter
      pure ⟨interval, timeout, exporter⟩)

/-- A periodic reader as a tree. -/
def write (layout : Layout) (r : PeriodicReader) : Tree :=
  layout
    (optionalField "interval" (r.interval.map fun n => .int n.toInt) ++
      optionalField "timeout" (r.timeout.map fun n => .int n.toInt) ++
      [("exporter", r.exporter.write layout)])

end PeriodicReader

namespace MetricReader

/-- The reader that a tree denotes. -/
def ofTree : Tree → Shaped MetricReader :=
  Shape.record "MetricReaderModel" 1
    (fun e => do pure ⟨← Shape.optional PeriodicReader.ofTree (e.get? "periodic")⟩)
    (fun items => do pure ⟨← Shape.optional PeriodicReader.ofTree items[0]?⟩)

/-- A reader as a tree. -/
def write (layout : Layout) (r : MetricReader) : Tree :=
  layout (optionalField "periodic" (r.periodic.map (PeriodicReader.write layout)))

end MetricReader

namespace MeterProvider

/-- The readers of a meter provider, of which there may be none. -/
def readersOf (t : Option Tree) : Shaped (List MetricReader) := do
  pure ((← Shape.present (Shape.list MetricReader.ofTree) t).getD [])

/-- The meter provider that a tree denotes. -/
def ofTree : Tree → Shaped MeterProvider :=
  Shape.record "MeterProviderModel" 1
    (fun e => do pure ⟨← readersOf (e.get? "readers")⟩)
    (fun items => do pure ⟨← readersOf items[0]?⟩)

/-- A meter provider as a tree, without the list of its readers if that is empty. -/
def write (layout : Layout) (p : MeterProvider) : Tree :=
  layout
    (if p.readers.isEmpty then []
      else [("readers", .list (p.readers.map (MetricReader.write layout)))])

end MeterProvider

namespace Configuration

/-- The name of this record in messages. -/
def title : String := "OpenTelemetryConfigurationModel"

/-- The configuration that a tree denotes. -/
def ofTree : Tree → Shaped Configuration :=
  Shape.record title 3
    (fun e => do
      let disabled ← Shape.optional Shape.bool (e.get? "disabled")
      let fileFormat ← Shape.present Shape.text (e.get? "file_format")
      let meterProvider ← Shape.optional MeterProvider.ofTree (e.get? "meter_provider")
      let fileFormat ← Shape.required (.missingField "file_format") fileFormat
      pure ⟨fileFormat, disabled, meterProvider⟩)
    (fun items => do
      let fileFormat ← Shape.present Shape.text items[0]?
      let fileFormat ← Shape.required (.tooShort 0 title 3) fileFormat
      let disabled ← Shape.optional Shape.bool items[1]?
      let meterProvider ← Shape.optional MeterProvider.ofTree items[2]?
      pure ⟨fileFormat, disabled, meterProvider⟩)

/-- A configuration as a tree. -/
def write (layout : Layout) (c : Configuration) : Tree :=
  layout
    ([("file_format", .text c.fileFormat)] ++
      optionalField "disabled" (c.disabled.map .bool) ++
      optionalField "meter_provider" (c.meterProvider.map (MeterProvider.write layout)))

/-- A configuration as a tree whose entries are in the order of their names. -/
def toTree (c : Configuration) : Tree := c.write Tree.ofPairs

end Configuration

/-- An exporter node as a tree whose entries are in the order of their names. -/
def ExporterNode.toTree (n : ExporterNode) : Tree := n.write Tree.ofPairs

/-- OTLP settings as a tree whose entries are in the order of their names. -/
def OtlpSettings.toTree (m : OtlpSettings) : Tree := m.write Tree.ofPairs

end Telemetry
