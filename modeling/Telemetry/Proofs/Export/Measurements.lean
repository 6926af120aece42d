import Telemetry.Proofs.Export.Sending

/-!
# Measurements of requests

* `Tree.measured`: the entries of a tree which are named as those that hold a measurement.
* `Point.measurements`: the doubles of a point, each with the name it has in a request.
* `Stream.measured_requestTree`: the tree of a stream has one such entry for each of them.
* **`Request.tree_measured`**: so has a request. The entry is the double itself if that is finite
  and null if it is not; nothing is refused for it (`Request.tree_measured_null`).
-/

namespace Telemetry

/-! ## Entries -/

mutual

/-- The entries of a tree that are named as measurements, at every depth and in order. -/
def Tree.measured : Tree → List (String × Tree)
  | .list items => Tree.measuredInItems items
  | .node entries => Tree.measuredInEntries entries
  | _ => []

/-- Those in the items of a list. -/
def Tree.measuredInItems : List Tree → List (String × Tree)
  | [] => []
  | t :: ts => t.measured ++ Tree.measuredInItems ts

/-- Those in the entries of a node. -/
def Tree.measuredInEntries : List (String × Tree) → List (String × Tree)
  | [] => []
  | (name, t) :: rest =>
    (if name = "asDouble" ∨ name = "doubleValue" then [(name, t)] else []) ++
      (t.measured ++ Tree.measuredInEntries rest)

end

attribute [simp] Tree.measured Tree.measuredInItems Tree.measuredInEntries

/-- The entry of a measurement: a double that is not finite has no number. -/
def measurementEntry : String × Binary64 → String × Tree
  | (name, x) => (name, if x.isFinite then .number (.double x) else .null)

/-- The measurements of a point: its value, and the doubles in its attributes. -/
def Point.measurements (p : Point) : List (String × Binary64) :=
  ("asDouble", p.value) :: p.attributes.flatMap fun a => a.value.doubles.map ("doubleValue", ·)

/-- The measurements of a metric, point by point. -/
def Metric.measurements (m : Metric) : List (String × Binary64) :=
  m.points.flatMap Point.measurements

theorem Tree.measuredInItems_eq (ts : List Tree) :
    measuredInItems ts = ts.flatMap Tree.measured := by
  induction ts with
  | nil => rfl
  | cons t ts ih => rw [measuredInItems, ih, List.flatMap_cons]

theorem Tree.measured_double (x : Binary64) : (Tree.double x).measured = [] := by
  unfold Tree.double
  split_ifs <;> rfl

theorem measurementEntry_eq (name : String) (x : Binary64) :
    measurementEntry (name, x) = (name, .double x) := rfl

theorem measurementEntry_ne_null (e : String × Binary64) :
    (measurementEntry e).2 ≠ .null ↔ e.2.isFinite = true := by
  obtain ⟨name, x⟩ := e
  dsimp only [measurementEntry]
  split_ifs with h <;> simp [h]

/-! ## Attributes -/

namespace Attribute

mutual

/-- **Of an attribute value the doubles are measured**, however deep they are. -/
theorem Value.measured_requestTree : (v : Value) →
    v.requestTree.measured = v.doubles.map fun x => measurementEntry ("doubleValue", x)
  | .text _ | .bool _ | .long _ | .bytes _ => rfl
  | .double x => by
    simp [Value.requestTree, Value.doubles, Tree.measured_double, measurementEntry_eq]
  | .list items => by
    have hitems := Value.measuredInItems_requestTrees items
    simp [Value.requestTree, hitems, Value.doubles]
  | .entries pairs => by
    have hpairs := Value.measuredInItems_requestEntries pairs
    simp [Value.requestTree, hpairs, Value.doubles]

theorem Value.measuredInItems_requestTrees : (vs : List Value) →
    Tree.measuredInItems (Value.requestTrees vs) =
      (Value.doublesOfItems vs).map fun x => measurementEntry ("doubleValue", x)
  | [] => rfl
  | v :: vs => by
    rw [Value.requestTrees, Tree.measuredInItems, Value.measured_requestTree v,
      Value.measuredInItems_requestTrees vs, Value.doublesOfItems, List.map_append]

theorem Value.measuredInItems_requestEntries : (pairs : List (String × Value)) →
    Tree.measuredInItems (Value.requestEntries pairs) =
      (Value.doublesOfEntries pairs).map fun x => measurementEntry ("doubleValue", x)
  | [] => rfl
  | (k, v) :: rest => by
    have hv := Value.measured_requestTree v
    have hrest := Value.measuredInItems_requestEntries rest
    simp [Value.requestEntries, hv, hrest, Value.doublesOfEntries]

end

theorem measured_requestTree (a : Attribute) :
    a.requestTree.measured = a.value.doubles.map fun x => measurementEntry ("doubleValue", x) := by
  have hvalue := Value.measured_requestTree a.value
  simp [requestTree, hvalue]

end Attribute

/-! ## Points, streams and requests -/

theorem Point.measured_requestTree (p : Point) :
    p.requestTree.measured = p.measurements.map measurementEntry := by
  have hattributes : Tree.measuredInItems (p.attributes.map (·.requestTree)) =
      (p.attributes.flatMap fun a => a.value.doubles.map ("doubleValue", ·)).map
        measurementEntry := by
    rw [Tree.measuredInItems_eq, List.flatMap_map, List.map_flatMap]
    simp only [Attribute.measured_requestTree, List.map_map, Function.comp_def]
  simp [requestTree, measurements, hattributes, Tree.measured_double, measurementEntry_eq]

theorem Stream.measured_requestTree (s : Stream) :
    s.requestTree.measured = (s.points.flatMap Point.measurements).map measurementEntry := by
  have hpoints : Tree.measuredInItems (s.points.map Point.requestTree) =
      (s.points.flatMap Point.measurements).map measurementEntry := by
    rw [Tree.measuredInItems_eq, List.flatMap_map, List.map_flatMap]
    simp only [Point.measured_requestTree]
  unfold requestTree
  cases s.reporting with
  | gauge => simp [hpoints]
  | sum temporality isMonotonic => simp [hpoints, Tree.int]

theorem Request.measured_wrap (ts : List Tree) :
    (wrap ts).measured = ts.flatMap Tree.measured := by
  simp [wrap, Tree.measuredInItems_eq]

/-- Metrics are accepted if and only if there is no histogram among them. -/
theorem Request.exists_tree_iff (selector : TemporalitySelector) (ms : List Metric) :
    (∃ t, tree selector ms = .ok t) ↔ ∀ m ∈ ms, m.instrument ≠ .histogram := by
  refine ⟨fun ⟨t, ht⟩ => ?_, fun h => ⟨_, tree_eq_ok selector h⟩⟩
  obtain h | ⟨before, m, after, rfl, hbefore, hm⟩ := Metric.forall_ne_or_exists_histogram ms
  · exact h
  · rw [tree_of_histogram selector hbefore hm] at ht
    cases ht

/-- **Measurements that are finite are sent, and no others.** In place of any other double, infinite
or not a number, the request has null. -/
theorem Request.tree_measured (selector : TemporalitySelector) (ms : List Metric) :
    ((∃ t, tree selector ms = .ok t) ↔ ∀ m ∈ ms, m.instrument ≠ .histogram) ∧
    ∀ t, tree selector ms = .ok t →
      t.measured = (ms.flatMap Metric.measurements).map measurementEntry ∧
      ((∀ e ∈ t.measured, e.2 ≠ .null) ↔
        ∀ e ∈ ms.flatMap Metric.measurements, e.2.isFinite = true) := by
  refine ⟨exists_tree_iff selector ms, fun t ht => ?_⟩
  have hmeasured : t.measured = (ms.flatMap Metric.measurements).map measurementEntry := by
    have htree := tree_eq_ok selector ((exists_tree_iff selector ms).1 ⟨t, ht⟩)
    rw [ht] at htree
    rw [Except.ok.inj htree, measured_wrap, List.flatMap_map, List.flatMap_map, List.map_flatMap]
    simp only [Stream.measured_requestTree]
    rfl
  refine ⟨hmeasured, ?_⟩
  rw [hmeasured, List.forall_mem_map]
  exact forall₂_congr fun e _ => measurementEntry_ne_null e

/-- A gauge with one point and one attribute, of the same value. -/
def twice (x : Binary64) : Metric where
  name := "load"
  instrument := .gauge
  points := [{ attributes := [⟨"peaks", .list [.double x]⟩], value := x }]

/-- What is not a number and what is infinite make the same request, which is accepted and has null
for both measurements. -/
theorem Request.tree_measured_null :
    ∃ t, tree .alwaysCumulative [twice .nan] = .ok t ∧
      tree .alwaysCumulative [twice (.infinity true)] = .ok t ∧
      t.measured = [("asDouble", .null), ("doubleValue", .null)] :=
  ⟨_, rfl, by decide, by decide⟩

end Telemetry
