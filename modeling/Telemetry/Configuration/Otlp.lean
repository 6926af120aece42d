import Telemetry.Configuration.Shape

/-!
# Settings of the OTLP exporter

* `OtlpSettings`: the eleven settings, each of which may be absent. A setting is changed by a record
  update such as `[m with timeout := some 5]` in braces, or by `OtlpSettings.set`.
* `OtlpSettings.ofTree`, `OtlpSettings.write`: reading them from a tree and writing them.
-/

namespace Telemetry

/-- A header: its name and its value. -/
structure Header where
  name : String
  value : String
  deriving DecidableEq

/-- The aggregation of histograms unless a view says otherwise. -/
inductive HistogramChoice where
  | explicitBuckets
  | exponentialBuckets
  deriving DecidableEq

namespace HistogramChoice

/-- The name of a choice in documents. -/
def name : HistogramChoice → String
  | .explicitBuckets => "explicit_bucket_histogram"
  | .exponentialBuckets => "base2_exponential_bucket_histogram"

/-- The choice of a name. -/
def ofName? (s : String) : Option HistogramChoice :=
  if s = name .explicitBuckets then some .explicitBuckets
  else if s = name .exponentialBuckets then some .exponentialBuckets
  else none

/-- The choice that a text in a document names. -/
def ofText (s : String) : Shaped HistogramChoice :=
  match ofName? s with
  | some c => .ok c
  | none => .error (.unknownVariant s [name .explicitBuckets, name .exponentialBuckets])

/-- The choice that a tree denotes: its name, or a node with its name and nothing under it. -/
def ofTree : Tree → Shaped HistogramChoice
  | .text s => ofText s
  | .node [(key, body)] => do
    let choice ← ofText key
    if body = .null then .ok choice else .error (.wrongType body .unit)
  | .node entries => .error (.wrongValue (.node entries) .singleEntry)
  | t => .error (.wrongType t .textOrMap)

end HistogramChoice

namespace Header

/-- The header that a tree denotes. -/
def ofTree : Tree → Shaped Header :=
  Shape.record "NameStringValuePairModel" 2
    (fun entries => do
      let name ← Shape.present Shape.text (entries.get? "name")
      let value ← Shape.present Shape.text (entries.get? "value")
      let name ← Shape.required (.missingField "name") name
      let value ← Shape.required (.missingField "value") value
      pure ⟨name, value⟩)
    (fun items => do
      let missing (n : Nat) : ShapeFault := .tooShort n "NameStringValuePairModel" 2
      let name ← Shape.required (missing 0) (← Shape.present Shape.text items[0]?)
      let value ← Shape.required (missing 1) (← Shape.present Shape.text items[1]?)
      pure ⟨name, value⟩)

/-- A header as a tree. -/
def write (layout : Layout) (h : Header) : Tree :=
  layout [("name", .text h.name), ("value", .text h.value)]

end Header

/-- The settings of an OTLP exporter. Absent ones leave the exporter's defaults. -/
structure OtlpSettings where
  protocol : Option String := none
  endpoint : Option String := none
  headers : Option (List Header) := none
  /-- Pairs `key=value` between commas, which follow the headers. -/
  headersList : Option String := none
  compression : Option String := none
  /-- Milliseconds. -/
  timeout : Option Int64 := none
  certificate : Option String := none
  clientKey : Option String := none
  clientCertificate : Option String := none
  temporalityPreference : Option String := none
  defaultHistogramAggregation : Option HistogramChoice := none
  deriving DecidableEq, Inhabited

namespace OtlpSettings

/-- The number of settings. -/
def size : Nat := 11

/-- The settings under their names. -/
def ofEntries (e : Entries) : Shaped OtlpSettings := do
  let certificate ← Shape.optional Shape.text (e.get? "certificate")
  let clientCertificate ← Shape.optional Shape.text (e.get? "client_certificate")
  let clientKey ← Shape.optional Shape.text (e.get? "client_key")
  let compression ← Shape.optional Shape.text (e.get? "compression")
  let defaultHistogramAggregation ←
    Shape.optional HistogramChoice.ofTree (e.get? "default_histogram_aggregation")
  let endpoint ← Shape.optional Shape.text (e.get? "endpoint")
  let headers ← Shape.optional (Shape.list Header.ofTree) (e.get? "headers")
  let headersList ← Shape.optional Shape.text (e.get? "headers_list")
  let protocol ← Shape.optional Shape.text (e.get? "protocol")
  let temporalityPreference ← Shape.optional Shape.text (e.get? "temporality_preference")
  let timeout ← Shape.optional Shape.integer (e.get? "timeout")
  pure { protocol, endpoint, headers, headersList, compression, timeout, certificate, clientKey,
         clientCertificate, temporalityPreference, defaultHistogramAggregation }

/-- The settings in their order. -/
def ofItems (items : List Tree) : Shaped OtlpSettings := do
  let protocol ← Shape.optional Shape.text items[0]?
  let endpoint ← Shape.optional Shape.text items[1]?
  let headers ← Shape.optional (Shape.list Header.ofTree) items[2]?
  let headersList ← Shape.optional Shape.text items[3]?
  let compression ← Shape.optional Shape.text items[4]?
  let timeout ← Shape.optional Shape.integer items[5]?
  let certificate ← Shape.optional Shape.text items[6]?
  let clientKey ← Shape.optional Shape.text items[7]?
  let clientCertificate ← Shape.optional Shape.text items[8]?
  let temporalityPreference ← Shape.optional Shape.text items[9]?
  let defaultHistogramAggregation ← Shape.optional HistogramChoice.ofTree items[10]?
  pure { protocol, endpoint, headers, headersList, compression, timeout, certificate, clientKey,
         clientCertificate, temporalityPreference, defaultHistogramAggregation }

/-- The settings that a tree denotes. -/
def ofTree : Tree → Shaped OtlpSettings := Shape.record "OtlpMetricModel" size ofEntries ofItems

/-- The settings that are present, with their names. -/
def fields (layout : Layout) (m : OtlpSettings) : List (String × Tree) :=
  optionalField "protocol" (m.protocol.map .text) ++
  optionalField "endpoint" (m.endpoint.map .text) ++
  optionalField "headers" (m.headers.map fun hs => .list (hs.map (Header.write layout))) ++
  optionalField "headers_list" (m.headersList.map .text) ++
  optionalField "compression" (m.compression.map .text) ++
  optionalField "timeout" (m.timeout.map fun n => .int n.toInt) ++
  optionalField "certificate" (m.certificate.map .text) ++
  optionalField "client_key" (m.clientKey.map .text) ++
  optionalField "client_certificate" (m.clientCertificate.map .text) ++
  optionalField "temporality_preference" (m.temporalityPreference.map .text) ++
  optionalField "default_histogram_aggregation"
    (m.defaultHistogramAggregation.map fun c => .text c.name)

/-- The settings as a tree. -/
def write (layout : Layout) (m : OtlpSettings) : Tree := layout (m.fields layout)

/-! ## Setting by setting -/

/-- A setting with its value. -/
inductive Setting where
  | protocol (s : String)
  | endpoint (s : String)
  | headers (hs : List Header)
  | headersList (s : String)
  | compression (s : String)
  | timeout (n : Int64)
  | certificate (s : String)
  | clientKey (s : String)
  | clientCertificate (s : String)
  | temporalityPreference (s : String)
  | defaultHistogramAggregation (c : HistogramChoice)
  deriving DecidableEq

/-- Gives a setting its value; an earlier one gives way. -/
def set (m : OtlpSettings) : Setting → OtlpSettings
  | .protocol s => { m with protocol := some s }
  | .endpoint s => { m with endpoint := some s }
  | .headers hs => { m with headers := some hs }
  | .headersList s => { m with headersList := some s }
  | .compression s => { m with compression := some s }
  | .timeout n => { m with timeout := some n }
  | .certificate s => { m with certificate := some s }
  | .clientKey s => { m with clientKey := some s }
  | .clientCertificate s => { m with clientCertificate := some s }
  | .temporalityPreference s => { m with temporalityPreference := some s }
  | .defaultHistogramAggregation c => { m with defaultHistogramAggregation := some c }

end OtlpSettings

end Telemetry
