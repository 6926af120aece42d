import Mathlib
import Telemetry.Export.Request
import Telemetry.Proofs.Bytes.Base64
import Telemetry.Proofs.Configuration.Shape

/-!
# Reading requests back

* `Stream`: what a request says of a metric. A gauge has no temporality, and of the instrument of a
  sum it tells no more than its temporality and whether it falls.
* `Request.streams?`: the streams that a request carries.
* `Request.tree_eq_ok`: a request is made of the streams of its metrics.
* `Request.streams?_wrap`: if all doubles are finite, these are read back.
* **`tree_eq_tree_iff`**: two requests are the same if and only if their metrics are.
-/

namespace Telemetry

/-! ## Streams -/

/-- How a metric is reported: as a gauge, or as a sum. -/
inductive Reporting where
  | gauge
  | sum (temporality : Temporality) (isMonotonic : Bool)
  deriving DecidableEq

/-- What a request says of a metric. -/
structure Stream where
  name : String
  description : String
  unit : String
  points : List Point
  reporting : Reporting
  deriving DecidableEq

/-- Whether an instrument is a gauge. -/
def Instrument.isGauge : Instrument → Bool
  | .gauge | .observableGauge => true
  | _ => false

/-- How the metrics of an instrument are reported. -/
def Instrument.reporting (selector : TemporalitySelector) (i : Instrument) : Reporting :=
  if i.isGauge then .gauge else .sum (selector.select i) i.isMonotonic

/-- What a request says of a metric that is no histogram. -/
def Metric.stream (selector : TemporalitySelector) (m : Metric) : Stream :=
  ⟨m.name, m.description, m.unit, m.points, m.instrument.reporting selector⟩

/-- The tree of a stream. -/
def Stream.requestTree (s : Stream) : Tree :=
  let points := Tree.list (s.points.map Point.requestTree)
  match s.reporting with
  | .gauge =>
    .node [("description", .text s.description), ("gauge", .node [("dataPoints", points)]),
      ("name", .text s.name), ("unit", .text s.unit)]
  | .sum temporality isMonotonic =>
    .node [("description", .text s.description), ("name", .text s.name),
      ("sum", .node [("aggregationTemporality", .int temporality.number),
        ("dataPoints", points), ("isMonotonic", .bool isMonotonic)]),
      ("unit", .text s.unit)]

theorem Metric.requestTree_eq_ok (selector : TemporalitySelector) {m : Metric}
    (h : m.instrument ≠ .histogram) :
    m.requestTree selector = .ok (m.stream selector).requestTree := by
  obtain ⟨name, description, unit, instrument, points⟩ := m
  cases instrument with
  | histogram => exact absurd rfl h
  | _ => rfl

/-- **A request is made of the streams of its metrics.** -/
theorem Request.tree_eq_ok (selector : TemporalitySelector) {ms : List Metric}
    (h : ∀ m ∈ ms, m.instrument ≠ .histogram) : Request.tree selector ms =
      .ok (wrap ((ms.map (Metric.stream selector)).map Stream.requestTree)) := by
  rw [Request.tree, map_eq_ok]
  refine ⟨_, mapM_eq_ok.2 ?_, rfl⟩
  rw [List.map_map, List.forall₂_map_right_iff, List.forall₂_same]
  exact fun m hm => Metric.requestTree_eq_ok selector (h m hm)

/-! ## Reading back -/

mutual

/-- The attribute value that a tree tells. -/
def Attribute.Value.ofRequestTree? : Tree → Option Attribute.Value
  | .node [("stringValue", .text s)] => some (.text s)
  | .node [("boolValue", .bool b)] => some (.bool b)
  | .node [("intValue", .text s)] => s.toInt?.map fun n => .long (Int64.ofInt n)
  | .node [("doubleValue", .number (.double x))] => some (.double x)
  | .node [("arrayValue", .node [("values", .list items)])] =>
    (Attribute.Value.ofRequestTrees? items).map .list
  | .node [("kvlistValue", .node [("values", .list items)])] =>
    (Attribute.Value.ofRequestEntries? items).map .entries
  | .node [("bytesValue", .text s)] => (Bytes.ofBase64Chars? s.toList).map .bytes
  | _ => none

/-- The attribute values that trees tell. -/
def Attribute.Value.ofRequestTrees? : List Tree → Option (List Attribute.Value)
  | [] => some []
  | t :: ts => do
    let v ← Attribute.Value.ofRequestTree? t
    let vs ← Attribute.Value.ofRequestTrees? ts
    pure (v :: vs)

/-- The named values that trees tell. -/
def Attribute.Value.ofRequestEntries? : List Tree → Option (List (String × Attribute.Value))
  | [] => some []
  | .node [("key", .text k), ("value", t)] :: ts => do
    let v ← Attribute.Value.ofRequestTree? t
    let rest ← Attribute.Value.ofRequestEntries? ts
    pure ((k, v) :: rest)
  | _ => none

end

/-- The attribute that a tree tells. -/
def Attribute.ofRequestTree? : Tree → Option Attribute
  | .node [("key", .text key), ("value", t)] =>
    (Attribute.Value.ofRequestTree? t).map fun value => ⟨key, value⟩
  | _ => none

/-- The point that a tree tells. -/
def Point.ofRequestTree? : Tree → Option Point
  | .node [("asDouble", .number (.double value)), ("attributes", .list attributes),
      ("startTimeUnixNano", .text start), ("timeUnixNano", .text time)] => do
    let attributes ← attributes.mapM Attribute.ofRequestTree?
    let start ← start.toNat?
    let time ← time.toNat?
    pure ⟨attributes, .ofNat start, .ofNat time, value⟩
  | _ => none

/-- The temporality of a number. -/
def Temporality.ofNumber? : Int → Option Temporality
  | 1 => some .delta
  | 2 => some .cumulative
  | _ => none

/-- The stream that a tree tells. -/
def Stream.ofRequestTree? : Tree → Option Stream
  | .node [("description", .text description), ("gauge", .node [("dataPoints", .list points)]),
      ("name", .text name), ("unit", .text unit)] => do
    let points ← points.mapM Point.ofRequestTree?
    pure ⟨name, description, unit, points, .gauge⟩
  | .node [("description", .text description), ("name", .text name),
      ("sum", .node [("aggregationTemporality", .number (.int temporality)),
        ("dataPoints", .list points), ("isMonotonic", .bool isMonotonic)]),
      ("unit", .text unit)] => do
    let points ← points.mapM Point.ofRequestTree?
    let temporality ← Temporality.ofNumber? temporality
    pure ⟨name, description, unit, points, .sum temporality isMonotonic⟩
  | _ => none

/-- The streams that a request carries. -/
def Request.streams? : Tree → Option (List Stream)
  | .node [("resourceMetrics", .list [.node [("resource", _),
      ("scopeMetrics", .list [.node [("metrics", .list metrics), ("scope", _)]])]])] =>
    metrics.mapM Stream.ofRequestTree?
  | _ => none

/-! ## Doubles -/

mutual

/-- The doubles in an attribute value, at every depth. -/
def Attribute.Value.doubles : Attribute.Value → List Binary64
  | .double x => [x]
  | .list items => Attribute.Value.doublesOfItems items
  | .entries pairs => Attribute.Value.doublesOfEntries pairs
  | _ => []

/-- The doubles in attribute values. -/
def Attribute.Value.doublesOfItems : List Attribute.Value → List Binary64
  | [] => []
  | v :: vs => v.doubles ++ Attribute.Value.doublesOfItems vs

/-- The doubles in named values. -/
def Attribute.Value.doublesOfEntries : List (String × Attribute.Value) → List Binary64
  | [] => []
  | (_, v) :: rest => v.doubles ++ Attribute.Value.doublesOfEntries rest

end

/-- The doubles of a point: its value and those in its attributes. -/
def Point.doubles (p : Point) : List Binary64 :=
  p.value :: p.attributes.flatMap fun a => a.value.doubles

/-- All doubles are finite. -/
def AllFinite (xs : List Binary64) : Prop := ∀ x ∈ xs, x.isFinite = true

instance (xs : List Binary64) : Decidable (AllFinite xs) :=
  inferInstanceAs (Decidable (∀ x ∈ xs, x.isFinite = true))

theorem allFinite_append {xs ys : List Binary64} :
    AllFinite (xs ++ ys) ↔ AllFinite xs ∧ AllFinite ys := List.forall_mem_append

theorem Tree.double_of_isFinite {x : Binary64} (h : x.isFinite = true) :
    Tree.double x = .number (.double x) := if_pos h

/-! ## Round trips -/

namespace Attribute

mutual

/-- **An attribute value is read back**, however deep it is. -/
theorem Value.ofRequestTree?_requestTree :
    (v : Value) → AllFinite v.doubles → Value.ofRequestTree? v.requestTree = some v
  | .text s, _ => rfl
  | .bool b, _ => rfl
  | .long n, _ => by
    rw [Value.requestTree, Value.ofRequestTree?, Int.toString_eq_repr, Int.toInt?_repr,
      Option.map_some, Int64.ofInt_toInt]
  | .double x, h => by
    rw [Value.requestTree, Tree.double_of_isFinite (h x List.mem_cons_self), Value.ofRequestTree?]
  | .list items, h => by
    rw [Value.requestTree, Value.ofRequestTree?, Value.ofRequestTrees?_requestTrees items h]
    rfl
  | .entries pairs, h => by
    rw [Value.requestTree, Value.ofRequestTree?, Value.ofRequestEntries?_requestEntries pairs h]
    rfl
  | .bytes b, _ => by
    rw [Value.requestTree, Value.ofRequestTree?, Bytes.toBase64, String.toList_ofList,
      Bytes.ofBase64Chars?_base64Chars]
    rfl

theorem Value.ofRequestTrees?_requestTrees : (vs : List Value) →
    AllFinite (Value.doublesOfItems vs) → Value.ofRequestTrees? (Value.requestTrees vs) = some vs
  | [], _ => rfl
  | v :: vs, h => by
    obtain ⟨hv, hvs⟩ := allFinite_append.1 h
    rw [Value.requestTrees, Value.ofRequestTrees?, Value.ofRequestTree?_requestTree v hv,
      Value.ofRequestTrees?_requestTrees vs hvs]
    rfl

theorem Value.ofRequestEntries?_requestEntries : (pairs : List (String × Value)) →
    AllFinite (Value.doublesOfEntries pairs) →
      Value.ofRequestEntries? (Value.requestEntries pairs) = some pairs
  | [], _ => rfl
  | (k, v) :: rest, h => by
    obtain ⟨hv, hrest⟩ := allFinite_append.1 h
    rw [Value.requestEntries, Value.ofRequestEntries?, Value.ofRequestTree?_requestTree v hv,
      Value.ofRequestEntries?_requestEntries rest hrest]
    rfl

end

theorem ofRequestTree?_requestTree {a : Attribute} (h : AllFinite a.value.doubles) :
    ofRequestTree? a.requestTree = some a := by
  rw [requestTree, ofRequestTree?, Value.ofRequestTree?_requestTree a.value h]
  rfl

end Attribute

theorem mapM_map_eq_self {α β : Type} {read : β → Option α} {write : α → β} {as : List α}
    (h : ∀ a ∈ as, read (write a) = some a) : (as.map write).mapM read = some as := by
  rw [mapM_map_eq_some (g := id) h, List.map_id]

theorem Point.ofRequestTree?_requestTree {p : Point} (h : AllFinite p.doubles) :
    ofRequestTree? p.requestTree = some p := by
  have hattributes : (p.attributes.map (·.requestTree)).mapM Attribute.ofRequestTree? =
      some p.attributes := by
    refine mapM_map_eq_self fun a ha => Attribute.ofRequestTree?_requestTree fun x hx => ?_
    exact h x (List.mem_cons_of_mem _ (List.mem_flatMap.2 ⟨a, ha, hx⟩))
  rw [requestTree, Tree.double_of_isFinite (h p.value List.mem_cons_self), ofRequestTree?,
    hattributes, Nat.toString_eq_repr, Nat.toString_eq_repr, Nat.toNat?_repr, Nat.toNat?_repr]
  simp only [Option.bind_eq_bind, Option.bind_some, UInt64.ofNat_toNat]
  rfl

theorem Temporality.ofNumber?_number (t : Temporality) : ofNumber? t.number = some t := by
  cases t <;> rfl

theorem Stream.ofRequestTree?_requestTree {s : Stream} (h : ∀ p ∈ s.points, AllFinite p.doubles) :
    ofRequestTree? s.requestTree = some s := by
  have hpoints : (s.points.map Point.requestTree).mapM Point.ofRequestTree? = some s.points :=
    mapM_map_eq_self fun p hp => Point.ofRequestTree?_requestTree (h p hp)
  obtain ⟨name, description, unit, points, reporting⟩ := s
  cases reporting with
  | gauge =>
    rw [requestTree, ofRequestTree?, hpoints]
    rfl
  | sum temporality isMonotonic =>
    rw [requestTree]
    dsimp only [Tree.int]
    rw [ofRequestTree?, hpoints, Temporality.ofNumber?_number]
    rfl

/-- **The streams of a request are read back.** -/
theorem Request.streams?_wrap {ss : List Stream}
    (h : ∀ s ∈ ss, ∀ p ∈ s.points, AllFinite p.doubles) :
    streams? (wrap (ss.map Stream.requestTree)) = some ss := by
  rw [wrap, streams?]
  exact mapM_map_eq_self fun s hs => Stream.ofRequestTree?_requestTree (h s hs)

/-! ## Metrics that a request tells apart -/

/-- A metric that a request can carry without loss: no histogram, and all its doubles are finite. -/
structure Metric.Exportable (m : Metric) : Prop where
  not_histogram : m.instrument ≠ .histogram
  finite : ∀ p ∈ m.points, AllFinite p.doubles

/-- Metrics that differ in no more than the kind of their instruments: both are gauges, or both are
sums of one temporality which fall or do not. -/
structure Metric.Alike (selector : TemporalitySelector) (m n : Metric) : Prop where
  name : m.name = n.name
  description : m.description = n.description
  unit : m.unit = n.unit
  points : m.points = n.points
  instrument : m.instrument.isGauge = true ∧ n.instrument.isGauge = true ∨
    m.instrument.isGauge = false ∧ n.instrument.isGauge = false ∧
      m.instrument.isMonotonic = n.instrument.isMonotonic ∧
        selector.select m.instrument = selector.select n.instrument

theorem Instrument.reporting_eq_iff (selector : TemporalitySelector) (i j : Instrument) :
    i.reporting selector = j.reporting selector ↔ i.isGauge = true ∧ j.isGauge = true ∨
      i.isGauge = false ∧ j.isGauge = false ∧ i.isMonotonic = j.isMonotonic ∧
        selector.select i = selector.select j := by
  unfold reporting
  cases i.isGauge <;> cases j.isGauge <;> simp [and_comm]

theorem Metric.stream_eq_iff (selector : TemporalitySelector) (m n : Metric) :
    m.stream selector = n.stream selector ↔ m.Alike selector n := by
  rw [stream, stream, Stream.mk.injEq, Instrument.reporting_eq_iff]
  constructor
  · rintro ⟨hname, hdescription, hunit, hpoints, hinstrument⟩
    exact ⟨hname, hdescription, hunit, hpoints, hinstrument⟩
  · rintro ⟨hname, hdescription, hunit, hpoints, hinstrument⟩
    exact ⟨hname, hdescription, hunit, hpoints, hinstrument⟩

theorem Metric.map_stream_eq_iff (selector : TemporalitySelector) (ms ns : List Metric) :
    ms.map (stream selector) = ns.map (stream selector) ↔ List.Forall₂ (Alike selector) ms ns := by
  rw [← List.forall₂_eq_eq_eq, List.forall₂_map_left_iff, List.forall₂_map_right_iff]
  simp only [stream_eq_iff]

/-- **Requests lose nothing.** Metrics without histograms whose doubles are finite make the same
request if and only if they are alike. -/
theorem tree_eq_tree_iff (selector : TemporalitySelector) {ms ns : List Metric}
    (hms : ∀ m ∈ ms, m.Exportable) (hns : ∀ n ∈ ns, n.Exportable) :
    (∃ t, Request.tree selector ms = .ok t ∧
      Request.streams? t = some (ms.map (Metric.stream selector))) ∧
    (Request.tree selector ms = Request.tree selector ns ↔
      List.Forall₂ (Metric.Alike selector) ms ns) := by
  have hread : ∀ {ls : List Metric}, (∀ m ∈ ls, m.Exportable) →
      Request.streams? (Request.wrap ((ls.map (Metric.stream selector)).map Stream.requestTree)) =
        some (ls.map (Metric.stream selector)) := by
    refine fun hls => Request.streams?_wrap fun s hs => ?_
    obtain ⟨m, hm, rfl⟩ := List.mem_map.1 hs
    exact (hls m hm).finite
  have htree := Request.tree_eq_ok selector fun m hm => (hms m hm).not_histogram
  refine ⟨⟨_, htree, hread hms⟩, ?_⟩
  rw [htree, Request.tree_eq_ok selector fun n hn => (hns n hn).not_histogram,
    ← Metric.map_stream_eq_iff]
  constructor
  · intro h
    have hstreams := hread hms
    rw [Except.ok.inj h, hread hns] at hstreams
    exact (Option.some.inj hstreams).symm
  · intro h
    rw [h]

/-- A metric with one point, which has a value in a list next to minus zero. -/
def taggedCount (instrument : Instrument) (v : Attribute.Value) : Metric where
  name := "requests"
  instrument
  points := [{ attributes := [⟨"tag", .list [v, .double (.zero true)]⟩, ⟨"tag", .bytes [0xCA, 0xFE]⟩]
               time := 0xFFFFFFFFFFFFFFFF
               value := .zero false }]

/-- Totals of a counter that is observed and of one that counts look the same; a number as an
attribute and its text do not. -/
theorem tree_taggedCount :
    Request.tree .alwaysCumulative [taggedCount .counter (.long 3)] =
      Request.tree .alwaysCumulative [taggedCount .observableCounter (.long 3)] ∧
    Request.tree .alwaysCumulative [taggedCount .counter (.long 3)] ≠
      Request.tree .alwaysCumulative [taggedCount .counter (.text "3")] := by
  have hcounter : ∀ m ∈ [taggedCount .counter (.long 3)], m.Exportable :=
    List.forall_mem_singleton.2 ⟨by decide, by decide⟩
  have hobserved : ∀ m ∈ [taggedCount .observableCounter (.long 3)], m.Exportable :=
    List.forall_mem_singleton.2 ⟨by decide, by decide⟩
  have htext : ∀ m ∈ [taggedCount .counter (.text "3")], m.Exportable :=
    List.forall_mem_singleton.2 ⟨by decide, by decide⟩
  constructor
  · exact (tree_eq_tree_iff _ hcounter hobserved).2.2
      (.cons ⟨rfl, rfl, rfl, rfl, .inr (by decide)⟩ .nil)
  · intro h
    obtain ⟨halike, -⟩ := List.forall₂_cons.1 ((tree_eq_tree_iff _ hcounter htext).2.1 h)
    exact absurd halike.points (by decide)

end Telemetry
