import Telemetry.Export.Store
import Telemetry.Json.Writer

/-!
# Exporting and closing

* `Store.export`: exports metrics through an exporter.
* `Store.shutdown`, `Store.close`, `Store.closeChannel`: what ends exporters and channels. Ending
  twice is no fault.
* `Store.closeAll`: closes all resources in the order in which they were added, whichever fail, and
  drops them.
-/

namespace Telemetry

namespace Store

/-! ## Exporting -/

/-- The body of a request that carries metrics: its JSON text, compressed if the plan says so. -/
def bodyOf (plan : Otlp.Plan) (metrics : List Metric) : Except ExportFault Bytes := do
  let tree ← Request.tree plan.temporality metrics
  let text := Bytes.ofString tree.toJson
  match plan.compressor with
  | some c => (c.compress text).mapError .compression
  | none => pure text

/-- The request that carries a body. -/
def requestOf (plan : Otlp.Plan) (body : Bytes) : Request where
  endpoint := plan.endpoint
  headers := plan.headers
  contentType := Otlp.contentType
  contentEncoding := plan.encoding
  timeout := plan.timeout
  body := body

/-- The event that a channel keeps a request instead of delivering it any further. -/
def keeping (r : Request) : Log.Event :=
  ⟨.trace, "otk_exporter::otlp::channel", "dropping export request",
    [("endpoint", .plain r.endpoint), ("bytes", .count r.body.length)]⟩

/-- Sends a request through a channel. -/
def send (number : Nat) (r : Request) (s : Store) : Except ExportFault Unit × Store :=
  match (s.channel number).send r with
  | (.ok (), c) => (.ok (), (s.log (keeping r)).setChannel number c)
  | (.error fault, c) => (.error fault, s.setChannel number c)

/-- The event that metrics are about to be sent. -/
def exporting (plan : Otlp.Plan) (metrics : List Metric) (body : Bytes) : Log.Event :=
  ⟨.debug, "otk_exporter::otlp::exporter", "exporting metrics",
    [("endpoint", .plain plan.endpoint), ("protocol", .quoted plan.protocol.name),
      ("metrics", .count metrics.length), ("bytes", .count body.length)]⟩

/-- Exports metrics through an OTLP exporter. -/
def exportOtlp (e : OtlpExporter) (metrics : List Metric) (s : Store) :
    Except ExportFault Unit × Store :=
  if e.isShutdown then (.error .shutdown, s)
  else match bodyOf e.plan metrics with
    | .error fault => (.error fault, s)
    | .ok body =>
      (s.log (exporting e.plan metrics body)).send e.channel (requestOf e.plan body)

/-- The target of the events of exported points. -/
def exportTarget : String := "otk.export"

/-- The event of a point. -/
def pointEvent (m : Metric) (p : Point) : Log.Event :=
  ⟨.info, exportTarget, "metric",
    [("metric", .plain m.name), ("instrument", .quoted m.instrument.name), ("unit", .plain m.unit),
      ("value", .double p.value),
      ("attributes",
        .plain (joined ", " (p.attributes.map fun a => a.key ++ "=" ++ a.value.render)))]⟩

/-- The events of all points of metrics. -/
def pointEvents (metrics : List Metric) : List Log.Event :=
  metrics.flatMap fun m => m.points.map (pointEvent m)

/-- Exports metrics through a console exporter: each point is logged. -/
def exportConsole (e : ConsoleExporter) (metrics : List Metric) (s : Store) :
    Except ExportFault Unit × Store :=
  if e.isShutdown then (.error .shutdown, s) else (.ok (), s.logAll (pointEvents metrics))

/-- Exports metrics through an exporter. -/
def «export» (number : Nat) (metrics : List Metric) (s : Store) :
    Except ExportFault Unit × Store :=
  match s.exporters[number]? with
  | some (.otlp e) => s.exportOtlp e metrics
  | some (.console e) => s.exportConsole e metrics
  | _ => (.ok (), s)

/-- Exports what an exporter still holds, which is nothing. -/
def flush (_number : Nat) (s : Store) : Except ExportFault Unit × Store := (.ok (), s)

/-! ## Closing -/

/-- Closes a channel. -/
def closeChannel (number : Nat) (s : Store) : Store :=
  if (s.channel number).isClosed then s
  else
    (s.setChannel number { s.channel number with isClosed := true }).log
      ⟨.debug, "otk_exporter::otlp::channel", "http channel closed", []⟩

/-- Shuts an exporter down, and closes the channel of an OTLP exporter. -/
def shutdown (number : Nat) (s : Store) : Except ExportFault Unit × Store :=
  match s.exporters[number]? with
  | some (.otlp e) =>
    if e.isShutdown then
      (.ok (), s.log
        ⟨.debug, "otk_exporter::otlp::exporter", "otlp metric exporter already shut down", []⟩)
    else
      (.ok (), (s.setExporter number (.otlp { e with isShutdown := true })).closeChannel e.channel)
  | some (.console e) =>
    if e.isShutdown then
      (.ok (), s.log
        ⟨.debug, "otk_exporter::logging", "logging metric exporter already shut down", []⟩)
    else (.ok (), s.setExporter number (.console { e with isShutdown := true }))
  | _ => (.ok (), s)

/-- The fault of closing an exporter that could not be shut down. -/
def closeFault (name : String) : Except ExportFault Unit → Except CloseFault Unit
  | .ok () => .ok ()
  | .error fault => .error ⟨name, fault.message⟩

/-- Closes an exporter. -/
def close (number : Nat) (s : Store) : Except CloseFault Unit × Store :=
  match s.exporters[number]? with
  | some (.plugin e) =>
    match e.closeFault with
    | some fault => (.error fault, s)
    | none => (.ok (), s)
  | some (.otlp _) =>
    let (outcome, s) := s.shutdown number
    (closeFault "OtlpHttpMetricExporter" outcome, s)
  | some (.console _) =>
    let (outcome, s) := s.shutdown number
    (closeFault "LoggingMetricExporter" outcome, s)
  | none => (.ok (), s)

/-- Closes a resource. -/
def closeResource (r : Resource) (s : Store) : Except CloseFault Unit × Store :=
  let s := s.note (.closed r)
  match r with
  | .channel number => (.ok (), s.closeChannel number)
  | .exporter number => s.close number
  | .external name (some reason) => (.error ⟨name, reason⟩, s)
  | .external _ none => (.ok (), s)

/-- The event that a resource was not closed. -/
def closeFailed (fault : CloseFault) : Log.Event :=
  ⟨.warn, "otk_config::resources", "resource failed to close", [("err", .plain fault.message)]⟩

/-- Closes resources one after the other, and gives what failed. -/
def closeEach : List Resource → Store → List CloseFault × Store
  | [], s => ([], s)
  | r :: rest, s =>
    match s.closeResource r with
    | (.ok (), s) => closeEach rest s
    | (.error fault, s) =>
      let (faults, s) := closeEach rest (s.log (closeFailed fault))
      (fault :: faults, s)

/-- Closes all resources, and gives what failed. -/
def closeAll (s : Store) : List CloseFault × Store :=
  closeEach s.resources { s with resources := [] }

end Store

end Telemetry
