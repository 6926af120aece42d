import Telemetry.Decimal.Style
import Telemetry.Metric
import Telemetry.Text.Quoted

/-!
# Aggregations

* `Aggregation`: how the measurements of an instrument are combined.
* `AggregationSelector`: the aggregation of each kind of instrument; one that was never set is the
  default.
-/

namespace Telemetry

/-- How measurements are combined. -/
inductive Aggregation where
  /-- As the kind of instrument has it. -/
  | default
  | drop
  | sum
  | lastValue
  | explicitBuckets (boundaries : List Binary64)
  | exponentialBuckets (maxBuckets : UInt32) (maxScale : Int32)
  deriving DecidableEq

namespace Aggregation

/-- The boundaries of explicit buckets unless others are given. -/
def defaultBoundaries : List Binary64 :=
  ([0, 5, 10, 25, 50, 75, 100, 250, 500, 750, 1000, 2500, 5000, 7500, 10000] : List Int).map
    Binary64.ofInt

/-- Explicit buckets with the boundaries they have unless others are given. -/
def defaultExplicit : Aggregation := .explicitBuckets defaultBoundaries

/-- Exponential buckets with the limits they have unless others are given. -/
def defaultExponential : Aggregation := .exponentialBuckets 160 20

/-- The description of an aggregation. -/
def describe : Aggregation → String
  | .default => "DefaultAggregation"
  | .drop => "DropAggregation"
  | .sum => "SumAggregation"
  | .lastValue => "LastValueAggregation"
  | .explicitBuckets boundaries =>
    "ExplicitBucketHistogramAggregation\x7b" ++ "boundaries=" ++
      bracketed (boundaries.map (Binary64.render .inspect)) ++ "\x7d"
  | .exponentialBuckets maxBuckets maxScale =>
    "Base2ExponentialHistogramAggregation\x7b" ++ "maxBuckets=" ++ toString maxBuckets.toNat ++
      ",maxScale=" ++ toString maxScale.toInt ++ "\x7d"

end Aggregation

/-- The aggregations of instruments; the one set last comes first. -/
structure AggregationSelector where
  overrides : List (Instrument × Aggregation) := []
  deriving DecidableEq

namespace AggregationSelector

/-- Sets the aggregation of an instrument. -/
def set (s : AggregationSelector) (i : Instrument) (a : Aggregation) : AggregationSelector :=
  ⟨(i, a) :: s.overrides.filter fun (other, _) => other != i⟩

/-- The aggregation of an instrument. -/
def select (s : AggregationSelector) (i : Instrument) : Aggregation :=
  (s.overrides.lookup i).getD .default

end AggregationSelector

end Telemetry
