import Telemetry.Compression.Compressor
import Telemetry.Configuration.Shape
import Telemetry.Metric

/-!
# Faults of exporters

* `ConfigFault`: why a configuration makes no exporter.
* `ExportFault`: why metrics were not exported.
* `CloseFault`: why a resource was not closed.
-/

namespace Telemetry

/-- Why a configuration makes no exporter. -/
inductive ConfigFault where
  /-- The tree is no node; this is what it is. -/
  | unstructured (kind : String)
  /-- A map has a key that is no text. -/
  | keyNotText
  | shape (fault : ShapeFault)
  | noProvider (capability name : String)
  | unsupportedProtocol (protocol : String)
  | incompleteHeader
  | malformedHeader (pair : String)
  | compression (fault : CompressionFault)
  | negativeTimeout (millis : Int)
  | incompleteClientTls
  | unknownTemporality (preference : String)
  | unknownHistogram (choice : String)
  /-- A plugin refused; this is what it says. -/
  | plugin (message : String)
  deriving DecidableEq

/-- The wording of a fault. -/
def ConfigFault.message : ConfigFault → String
  | .unstructured kind => "expected a structured node, found " ++ kind
  | .keyNotText => "failed to read configuration node: key must be a string"
  | .shape fault => fault.message
  | .noProvider capability name =>
    "No component provider detected for " ++ capability ++ " with name \x22" ++ name ++ "\x22."
  | .unsupportedProtocol protocol => "Unsupported protocol \x22" ++ protocol ++ "\x22."
  | .incompleteHeader => "headers entries must have a name and a value"
  | .malformedHeader pair =>
    "Invalid headers_list entry \x22" ++ pair ++ "\x22, expected key=value"
  | .compression fault => fault.message
  | .negativeTimeout millis => "timeout must be non-negative, found " ++ toString millis
  | .incompleteClientTls => "client_key and client_certificate must be set together"
  | .unknownTemporality preference => "Unrecognized aggregation temporality: " ++ preference
  | .unknownHistogram choice => "Unrecognized default histogram aggregation: " ++ choice
  | .plugin message => message

/-- Why metrics were not exported. -/
inductive ExportFault where
  | shutdown
  /-- The request could not be written. -/
  | unwritable (reason : String)
  | compression (fault : CompressionFault)
  | unsupportedInstrument (metric : String) (instrument : Instrument)
  | transport (reason : String)
  deriving DecidableEq

/-- The wording of a fault. -/
def ExportFault.message : ExportFault → String
  | .shutdown => "exporter is shut down"
  | .unwritable reason => "failed to encode export request: " ++ reason
  | .compression fault => fault.message
  | .unsupportedInstrument metric instrument =>
    "metric \x22" ++ metric ++ "\x22 is a " ++ instrument.name ++
      "; only number points can be exported"
  | .transport reason => "transport failed: " ++ reason

/-- Why a resource was not closed. -/
structure CloseFault where
  resource : String
  reason : String
  deriving DecidableEq

/-- The wording of a fault. -/
def CloseFault.message (f : CloseFault) : String :=
  "failed to close " ++ f.resource ++ ": " ++ f.reason

end Telemetry
