import Telemetry.Bytes.Base64
import Telemetry.Export.Fault
import Telemetry.Metric
import Telemetry.Temporality
import Telemetry.Tree

/-!
# Requests of the OTLP exporter

* `Request.tree`: the tree of a request that carries metrics. Integers of 64 bits are texts in it,
  byte strings are in base 64, and entries are in the order of their names. Histograms have no
  place in it.
* `Request`: what is sent: the body with where it goes and how.
-/

namespace Telemetry

mutual

/-- The tree of an attribute value: a node that names its kind. -/
def Attribute.Value.requestTree : Attribute.Value → Tree
  | .text s => .node [("stringValue", .text s)]
  | .bool b => .node [("boolValue", .bool b)]
  | .long n => .node [("intValue", .text (toString n.toInt))]
  | .double x => .node [("doubleValue", .double x)]
  | .list items =>
    .node [("arrayValue", .node [("values", .list (Attribute.Value.requestTrees items))])]
  | .entries pairs =>
    .node [("kvlistValue", .node [("values", .list (Attribute.Value.requestEntries pairs))])]
  | .bytes b => .node [("bytesValue", .text b.toBase64)]

/-- The trees of attribute values. -/
def Attribute.Value.requestTrees : List Attribute.Value → List Tree
  | [] => []
  | v :: vs => v.requestTree :: Attribute.Value.requestTrees vs

/-- The trees of named values. -/
def Attribute.Value.requestEntries : List (String × Attribute.Value) → List Tree
  | [] => []
  | (k, v) :: rest =>
    .node [("key", .text k), ("value", v.requestTree)] :: Attribute.Value.requestEntries rest

end

/-- The tree of an attribute. -/
def Attribute.requestTree (a : Attribute) : Tree :=
  .node [("key", .text a.key), ("value", a.value.requestTree)]

/-- The tree of a point. -/
def Point.requestTree (p : Point) : Tree :=
  .node [("asDouble", .double p.value), ("attributes", .list (p.attributes.map (·.requestTree))),
    ("startTimeUnixNano", .text (toString p.start.toNat)),
    ("timeUnixNano", .text (toString p.time.toNat))]

/-- The tree of a metric: a gauge, or a sum with its temporality. -/
def Metric.requestTree (temporality : TemporalitySelector) (m : Metric) :
    Except ExportFault Tree :=
  let points := Tree.list (m.points.map Point.requestTree)
  match m.instrument with
  | .histogram => .error (.unsupportedInstrument m.name .histogram)
  | .gauge | .observableGauge =>
    .ok (.node [("description", .text m.description), ("gauge", .node [("dataPoints", points)]),
      ("name", .text m.name), ("unit", .text m.unit)])
  | instrument =>
    .ok (.node [("description", .text m.description), ("name", .text m.name),
      ("sum", .node [("aggregationTemporality", .int (temporality.select instrument).number),
        ("dataPoints", points), ("isMonotonic", .bool instrument.isMonotonic)]),
      ("unit", .text m.unit)])

/-- What is sent to a collector. -/
structure Request where
  endpoint : String
  /-- Names and values of headers, in order. -/
  headers : List (String × String)
  contentType : String
  contentEncoding : Option String
  /-- Milliseconds. -/
  timeout : Nat
  body : Bytes
  deriving DecidableEq

namespace Request

/-- The name of the scope of all metrics. -/
def scopeName : String := "otk"

/-- The tree of a request around the trees of its metrics. -/
def wrap (metrics : List Tree) : Tree :=
  .node [("resourceMetrics", .list [.node [
    ("resource", .node [("attributes", .list [])]),
    ("scopeMetrics", .list [.node [
      ("metrics", .list metrics),
      ("scope", .node [("name", .text scopeName)])]])]])]

/-- The tree of a request that carries metrics. -/
def tree (temporality : TemporalitySelector) (metrics : List Metric) : Except ExportFault Tree :=
  (metrics.mapM (Metric.requestTree temporality)).map wrap

end Request

end Telemetry
