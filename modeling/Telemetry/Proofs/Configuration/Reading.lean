import Telemetry.Export.Creation
import Telemetry.Proofs.Configuration.Shape
import Telemetry.Proofs.Tree.Outline

/-!
# What readable documents hold

For each record of a configuration, where the values that matter for exporters come from. A field
has a name and a place, as records are given either way (`Tree.field`).

* `ExporterNode.ofTree_eq_ok`: an exporter comes from a node with one entry.
* `Configuration.exporters`: the exporter nodes of a configuration.
* `Configuration.canonical_of_ofTree`: those of one that was read are in their canonical forms.
-/

namespace Telemetry

/-! ## Records -/

theorem PeriodicReader.exporter_of_ofTree {t : Tree} {r : PeriodicReader} (h : ofTree t = .ok r) :
    ∃ x, t.field "exporter" 2 = some x ∧ ExporterNode.ofTree x = .ok r.exporter := by
  rcases Shape.record_eq_ok.1 h with ⟨es, rfl, hr⟩ | ⟨items, rfl, hr, -⟩
  · simp only [bind_eq_ok, pure_eq_ok, Shape.required_eq_ok] at hr
    obtain ⟨_, hx, _, _, _, _, e, rfl, rfl⟩ := hr
    obtain ⟨-, h⟩ | ⟨x, e', hx, he, h⟩ := Shape.present_eq_ok.1 hx
    · cases h
    · cases h
      exact ⟨x, hx, he⟩
  · simp only [bind_eq_ok, pure_eq_ok, Shape.required_eq_ok] at hr
    obtain ⟨_, _, _, _, _, hx, e, rfl, rfl⟩ := hr
    obtain ⟨-, h⟩ | ⟨x, e', hx, he, h⟩ := Shape.present_eq_ok.1 hx
    · cases h
    · cases h
      exact ⟨x, hx, he⟩

theorem MetricReader.periodic_of_ofTree {t : Tree} {r : MetricReader} (h : ofTree t = .ok r) :
    Shape.optional PeriodicReader.ofTree (t.field "periodic" 0) = .ok r.periodic := by
  rcases Shape.record_eq_ok.1 h with ⟨es, rfl, hr⟩ | ⟨items, rfl, hr, -⟩ <;>
    simp only [bind_eq_ok, pure_eq_ok] at hr <;> obtain ⟨o, ho, rfl⟩ := hr <;> exact ho

theorem MeterProvider.readers_of_ofTree {t : Tree} {p : MeterProvider} (h : ofTree t = .ok p) :
    ∃ o, Shape.present (Shape.list MetricReader.ofTree) (t.field "readers" 0) = .ok o ∧
      p.readers = o.getD [] := by
  rcases Shape.record_eq_ok.1 h with ⟨es, rfl, hr⟩ | ⟨items, rfl, hr, -⟩ <;>
    simp only [readersOf, bind_eq_ok, pure_eq_ok] at hr <;> obtain ⟨_, ⟨o, ho, rfl⟩, rfl⟩ := hr <;>
    exact ⟨o, ho, rfl⟩

theorem Configuration.meterProvider_of_ofTree {t : Tree} {c : Configuration}
    (h : ofTree t = .ok c) :
    Shape.optional MeterProvider.ofTree (t.field "meter_provider" 2) = .ok c.meterProvider := by
  rcases Shape.record_eq_ok.1 h with ⟨es, rfl, hr⟩ | ⟨items, rfl, hr, -⟩
  · simp only [bind_eq_ok, pure_eq_ok] at hr
    obtain ⟨_, _, _, _, o, ho, _, _, rfl⟩ := hr
    exact ho
  · simp only [bind_eq_ok, pure_eq_ok] at hr
    obtain ⟨_, _, _, _, _, _, o, ho, rfl⟩ := hr
    exact ho

/-! ## Exporter nodes -/

namespace ExporterNode

theorem isBuiltin_eq_false_iff {key : String} :
    isBuiltin key = false ↔ key ≠ otlpKey ∧ key ≠ consoleKey := by
  simp [isBuiltin]

theorem ofTree_eq_ok {t : Tree} {n : ExporterNode} (h : ofTree t = .ok n) :
    ∃ key body, t = .node [(key, body)] ∧ ofEntry key body = .ok n := by
  unfold ofTree at h
  split at h
  · exact ⟨_, _, rfl, h⟩
  · cases h
  · cases h

/-- **The exporter of an entry.** Its key alone decides of which kind it is; for a plugin null is as
good as no entries. -/
theorem ofEntry_eq_ok {key : String} {body : Tree} {n : ExporterNode}
    (h : ofEntry key body = .ok n) :
    (key = otlpKey ∧ ∃ m, n = .otlp m) ∨ (key = consoleKey ∧ n = .console) ∨
      (isBuiltin key = false ∧ ∃ config, n = .named key config ∧
        (body = .node config ∨ body = .null ∧ config = [])) := by
  unfold ofEntry at h
  split_ifs at h with h₁ h₂
  · obtain ⟨m, -, rfl⟩ := map_eq_ok.1 h
    exact .inl ⟨h₁, m, rfl⟩
  · obtain ⟨-, -, rfl⟩ := map_eq_ok.1 h
    exact .inr (.inl ⟨h₂, rfl⟩)
  · refine .inr (.inr ⟨isBuiltin_eq_false_iff.2 ⟨h₁, h₂⟩, ?_⟩)
    cases body with
    | null =>
      cases h
      exact ⟨[], rfl, .inr ⟨rfl, rfl⟩⟩
    | node config =>
      cases h
      exact ⟨config, rfl, .inl rfl⟩
    | _ => cases h

/-- **What was read is in its canonical form.** -/
theorem canonical_of_ofTree {t : Tree} {n : ExporterNode} (h : ofTree t = .ok n) :
    n.canonical = .ok n := by
  obtain ⟨key, body, rfl, h⟩ := ofTree_eq_ok h
  obtain ⟨-, m, rfl⟩ | ⟨-, rfl⟩ | ⟨hkey, config, rfl, -⟩ := ofEntry_eq_ok h
  · rfl
  · rfl
  · rw [canonical, if_neg (by rw [hkey]; decide)]

/-- The canonical form of a node keeps its key and is no plugin under a built-in one. -/
theorem of_canonical_eq_ok {n m : ExporterNode} (h : n.canonical = .ok m) :
    m.key = n.key ∧ m.shadowsBuiltin = false := by
  cases n with
  | otlp settings =>
    cases h
    exact ⟨rfl, rfl⟩
  | console =>
    cases h
    exact ⟨rfl, rfl⟩
  | named name config =>
    rw [canonical] at h
    split_ifs at h with hname
    · have h : ofEntry name (.node config) = .ok m := h
      obtain ⟨rfl, m, rfl⟩ | ⟨rfl, rfl⟩ | ⟨hkey, -⟩ := ofEntry_eq_ok h
      · exact ⟨rfl, rfl⟩
      · exact ⟨rfl, rfl⟩
      · exact absurd hname (by rw [hkey]; decide)
    · cases h
      exact ⟨rfl, Bool.eq_false_iff.2 hname⟩

end ExporterNode

/-! ## Exporters of a configuration -/

namespace Configuration

/-- The exporter nodes of a configuration, in order. -/
def exporters (c : Configuration) : List ExporterNode :=
  (c.meterProvider.map MeterProvider.exporters).getD []

theorem forall_mem_exporters {c : Configuration} {P : ExporterNode → Prop} :
    (∀ n ∈ c.exporters, P n) ↔
      ∀ p ∈ c.meterProvider, ∀ r ∈ p.readers, ∀ q ∈ r.periodic, P q.exporter := by
  unfold exporters MeterProvider.exporters
  cases c.meterProvider with
  | none => simp
  | some p =>
    simp only [Option.map_some, Option.getD_some, List.mem_filterMap, Option.map_eq_some_iff,
      Option.mem_def, Option.some.injEq, forall_eq']
    constructor
    · intro h r hr q hq
      exact h q.exporter ⟨r, hr, q, hq, rfl⟩
    · rintro h n ⟨r, hr, q, hq, rfl⟩
      exact h r hr q hq

end Configuration

theorem MetricReader.canonical_of_ofTree {t : Tree} {r : MetricReader} (h : ofTree t = .ok r)
    {q : PeriodicReader} (hq : q ∈ r.periodic) : q.exporter.canonical = .ok q.exporter := by
  obtain ⟨-, hr⟩ | ⟨x, q', -, -, hq', hr⟩ := Shape.optional_eq_ok.1 (periodic_of_ofTree h)
  · rw [← hr] at hq
    cases hq
  · obtain rfl : q' = q := Option.some.inj (hr.trans hq)
    obtain ⟨y, -, he⟩ := PeriodicReader.exporter_of_ofTree hq'
    exact ExporterNode.canonical_of_ofTree he

theorem MeterProvider.canonical_of_ofTree {t : Tree} {p : MeterProvider} (h : ofTree t = .ok p)
    {r : MetricReader} (hr : r ∈ p.readers) {q : PeriodicReader} (hq : q ∈ r.periodic) :
    q.exporter.canonical = .ok q.exporter := by
  obtain ⟨o, ho, hp⟩ := readers_of_ofTree h
  rw [hp] at hr
  obtain ⟨-, rfl⟩ | ⟨x, rs, -, hx, rfl⟩ := Shape.present_eq_ok.1 ho
  · cases hr
  · obtain ⟨items, -, hitems⟩ := Shape.list_eq_ok.1 hx
    obtain ⟨i, hi, rfl⟩ := List.mem_iff_getElem.1 hr
    have hi' : i < items.length := hitems.length_eq ▸ hi
    exact MetricReader.canonical_of_ofTree (hitems.get hi' hi) hq

/-- **All exporters of a configuration that was read are in their canonical forms.** -/
theorem Configuration.canonical_of_ofTree {t : Tree} {c : Configuration} (h : ofTree t = .ok c) :
    ∀ n ∈ c.exporters, n.canonical = .ok n := by
  rw [forall_mem_exporters]
  intro p hp r hr q hq
  obtain ⟨-, hc⟩ | ⟨x, p', -, -, hp', hc⟩ := Shape.optional_eq_ok.1 (meterProvider_of_ofTree h)
  · rw [← hc] at hp
    cases hp
  · obtain rfl : p' = p := Option.some.inj (hc.trans hp)
    exact MeterProvider.canonical_of_ofTree hp' hr hq

end Telemetry
