import Telemetry.Metric

/-!
# Temporality

* `Temporality`: whether a stream reports totals or changes.
* `TemporalitySelector`: the temporality of each kind of instrument.
-/

namespace Telemetry

/-- Whether a stream reports totals since the start or changes since the last report. -/
inductive Temporality where
  | cumulative
  | delta
  deriving DecidableEq

namespace Temporality

/-- The number of a temporality in requests. -/
def number : Temporality → Nat
  | .delta => 1
  | .cumulative => 2

/-- The name of a temporality. -/
def name : Temporality → String
  | .cumulative => "Cumulative"
  | .delta => "Delta"

end Temporality

/-- A choice of temporalities. -/
inductive TemporalitySelector where
  | alwaysCumulative
  | deltaPreferred
  | lowMemory
  deriving DecidableEq

namespace TemporalitySelector

/-- The name of a choice in descriptions. -/
def name : TemporalitySelector → String
  | .alwaysCumulative => "AlwaysCumulative"
  | .deltaPreferred => "DeltaPreferred"
  | .lowMemory => "LowMemory"

/-- The choice that a configured preference names. -/
def ofPreference? (s : String) : Option TemporalitySelector :=
  if s = "cumulative" then some .alwaysCumulative
  else if s = "delta" then some .deltaPreferred
  else if s = "lowmemory" then some .lowMemory
  else none

/-- The temporality of an instrument. Preferring changes leaves the counters that go up and down
cumulative; saving memory reports changes for synchronous monotonic instruments only. -/
def select : TemporalitySelector → Instrument → Temporality
  | .alwaysCumulative, _ => .cumulative
  | .deltaPreferred, .upDownCounter => .cumulative
  | .deltaPreferred, .observableUpDownCounter => .cumulative
  | .deltaPreferred, _ => .delta
  | .lowMemory, .counter => .delta
  | .lowMemory, .histogram => .delta
  | .lowMemory, _ => .cumulative

end TemporalitySelector

end Telemetry
