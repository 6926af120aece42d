import Telemetry.Aggregation
import Telemetry.Compression.Compressor
import Telemetry.Export.Request
import Telemetry.Properties

/-!
# Exporters

* `describeMillis`: a number of milliseconds as descriptions show it, in seconds from one second on.
* `Otlp.Plan`: everything an OTLP exporter is built from but its channel.
* `Channel`: the connection that an OTLP exporter sends through.
* `Exporter`: the three kinds of exporters with their states, and their descriptions.
-/

namespace Telemetry

/-- A number below a thousand as the three digits after a point, without trailing zeros. -/
def thousandths (n : Nat) : List Char :=
  let digits := digitChars n
  ((List.replicate (3 - digits.length) '0' ++ digits).reverse.dropWhile (· == '0')).reverse

/-- A duration in milliseconds: `0ns`, `250ms`, `1.5s`, `10s`. -/
def describeMillis (ms : Nat) : String :=
  if ms = 0 then "0ns"
  else if ms < 1000 then String.ofList (digitChars ms ++ ['m', 's'])
  else
    let rest := thousandths (ms % 1000)
    String.ofList (digitChars (ms / 1000) ++ (if rest.isEmpty then [] else '.' :: rest) ++ ['s'])

namespace Otlp

/-- The protocol that the transport is told. Bodies are JSON in any case. -/
inductive Protocol where
  | protobuf
  | json
  deriving DecidableEq

namespace Protocol

/-- The name of a protocol. -/
def name : Protocol → String
  | .protobuf => "http/protobuf"
  | .json => "http/json"

/-- The protocol of a name. -/
def ofName? (s : String) : Option Protocol :=
  if s = name .protobuf then some .protobuf
  else if s = name .json then some .json
  else none

end Protocol

/-- The files of keys and certificates. -/
structure TlsPaths where
  certificate : Option String := none
  clientKey : Option String := none
  clientCertificate : Option String := none
  deriving DecidableEq

/-- What an OTLP exporter is built from. -/
structure Plan where
  endpoint : String := "http://localhost:4318/v1/metrics"
  protocol : Protocol := .protobuf
  /-- Names and values of headers, in order. -/
  headers : List (String × String) := []
  compressor : Option Compressor := none
  /-- Milliseconds. -/
  timeout : Nat := 10000
  tls : TlsPaths := {}
  temporality : TemporalitySelector := .alwaysCumulative
  aggregation : AggregationSelector := {}

/-- The content type of all bodies. -/
def contentType : String := "application/json"

namespace Plan

/-- The encoding of bodies, if they are compressed. -/
def encoding (p : Plan) : Option String := p.compressor.map Compressor.encoding

/-- The description of an exporter built from a plan. -/
def describe (p : Plan) : String :=
  "OtlpHttpMetricExporter \x7b endpoint: " ++ quoted p.endpoint ++ ", protocol: " ++
    quoted p.protocol.name ++ ", content_type: " ++ quoted contentType ++ ", compression: " ++
    quoted (p.encoding.getD Compression.noMethod) ++ ", timeout: " ++ describeMillis p.timeout ++
    ", temporality: " ++ p.temporality.name ++ " \x7d"

end Plan

end Otlp

/-- What delivers requests: it keeps the last one, or fails each one. -/
inductive Transport where
  | recording (last : Option Request)
  | failing (reason : String)
  deriving DecidableEq

/-- The connection of OTLP exporters. -/
structure Channel where
  transport : Transport := .recording none
  isClosed : Bool := false
  deriving DecidableEq

namespace Channel

/-- The last request that was delivered. -/
def last (c : Channel) : Option Request :=
  match c.transport with
  | .recording last => last
  | .failing _ => none

/-- Sends a request, unless the channel is closed. -/
def send (c : Channel) (r : Request) : Except ExportFault Unit × Channel :=
  if c.isClosed then (.error .shutdown, c)
  else match c.transport with
    | .recording _ => (.ok (), { c with transport := .recording (some r) })
    | .failing reason => (.error (.transport reason), c)

end Channel

/-- An OTLP exporter: its plan, the number of its channel, and whether it is shut down. -/
structure OtlpExporter where
  plan : Otlp.Plan
  channel : Nat
  isShutdown : Bool := false

/-- A console exporter, which logs what it exports. -/
structure ConsoleExporter where
  temporality : TemporalitySelector := .alwaysCumulative
  isShutdown : Bool := false
  deriving DecidableEq

/-- An exporter made by a plugin. -/
structure PluginExporter where
  /-- The name of the provider that made it. -/
  provider : String
  view : Properties
  encoding : Option String
  /-- What closing it fails with, if it fails. -/
  closeFault : Option CloseFault

/-- An exporter. -/
inductive Exporter where
  | otlp (e : OtlpExporter)
  | console (e : ConsoleExporter)
  | plugin (e : PluginExporter)

namespace Exporter

/-- The description of an optional text. -/
def describeOption : Option String → String
  | some s => "Some(" ++ quoted s ++ ")"
  | none => "None"

/-- The description of an exporter. -/
def describe : Exporter → String
  | .otlp e => e.plan.describe
  | .console e =>
    "LoggingMetricExporter \x7b temporality: " ++ e.temporality.name ++ ", shutdown: " ++
      (if e.isShutdown then "true" else "false") ++ " \x7d"
  | .plugin e =>
    "PluginExporter \x7b provider: " ++ quoted e.provider ++ ", config: " ++ e.view.describe ++
      ", encoding: " ++ describeOption e.encoding ++ " \x7d"

/-- The temporality that an exporter wants for an instrument. -/
def temporality : Exporter → Instrument → Temporality
  | .otlp e, i => e.plan.temporality.select i
  | .console e, i => e.temporality.select i
  | .plugin _, _ => .delta

/-- The aggregation that an exporter wants for an instrument. -/
def aggregation : Exporter → Instrument → Aggregation
  | .otlp e, i => e.plan.aggregation.select i
  | _, _ => .default

end Exporter

end Telemetry
