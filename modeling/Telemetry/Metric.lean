import Telemetry.Attribute.Value

/-!
# Metrics

* `Instrument`: the kinds of instruments that measure.
* `Metric`: a collected stream of points of one instrument.
-/

namespace Telemetry

/-- The kind of an instrument. -/
inductive Instrument where
  | counter
  | upDownCounter
  | histogram
  | observableCounter
  | observableUpDownCounter
  | observableGauge
  | gauge
  deriving DecidableEq

namespace Instrument

/-- All kinds of instruments. -/
def all : List Instrument :=
  [.counter, .upDownCounter, .histogram, .observableCounter, .observableUpDownCounter,
    .observableGauge, .gauge]

/-- The name of a kind of instrument. -/
def name : Instrument → String
  | .counter => "counter"
  | .upDownCounter => "up_down_counter"
  | .histogram => "histogram"
  | .observableCounter => "observable_counter"
  | .observableUpDownCounter => "observable_up_down_counter"
  | .observableGauge => "observable_gauge"
  | .gauge => "gauge"

/-- Whether the sums of an instrument never fall. -/
def isMonotonic : Instrument → Bool
  | .counter | .observableCounter | .histogram => true
  | _ => false

end Instrument

/-- A point: a value with its times and attributes. -/
structure Point where
  attributes : List Attribute := []
  /-- Nanoseconds since 1970. -/
  start : UInt64 := 0
  /-- Nanoseconds since 1970. -/
  time : UInt64 := 0
  value : Binary64
  deriving DecidableEq

/-- A stream of points. -/
structure Metric where
  name : String
  description : String := ""
  unit : String := ""
  instrument : Instrument
  points : List Point := []
  deriving DecidableEq

end Telemetry
