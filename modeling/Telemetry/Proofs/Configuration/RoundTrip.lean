import Telemetry.Proofs.Configuration.Reading
import Telemetry.Proofs.Tree.Entries

/-!
# Writing configurations and reading them back

* `OtlpSettings.ofTree_toTree`: settings are read back as they were.
* `ExporterNode.ofTree_toTree`: an exporter node is read back in its canonical form, with the fault
  of that form if it has none.
* `ReadsBack`: which values can be read back, and as what. It passes through lists and optional
  fields.
* **`ofTree_toTree_eq_ok_iff`**: a configuration can be read back if each of its exporter nodes has
  a canonical form, and then it is the one with these forms; what was read is restored.
-/

namespace Telemetry

/-! ## Simple values -/

theorem fitsSigned_toInt (n : Int64) : fitsSigned 64 n.toInt = true := by
  simp only [fitsSigned, Bool.and_eq_true, decide_eq_true_eq]
  exact ⟨n.le_toInt, n.toInt_lt⟩

namespace Shape

theorem optional_map {α : Type} {read : Tree → Shaped α} (write : α → Tree)
    (hnull : ∀ a, write a ≠ .null) (h : ∀ a, read (write a) = .ok a) (o : Option α) :
    optional read (o.map write) = .ok o := by
  cases o with
  | none => rfl
  | some a => exact optional_eq_ok.2 (.inr ⟨write a, a, rfl, hnull a, h a, rfl⟩)

theorem list_map {α : Type} {read : Tree → Shaped α} {write : α → Tree}
    (h : ∀ a, read (write a) = .ok a) (as : List α) :
    list read (.list (as.map write)) = .ok as := by
  refine list_eq_ok.2 ⟨_, rfl, ?_⟩
  rw [List.forall₂_map_left_iff, List.forall₂_same]
  exact fun a _ => h a

theorem integer_int (n : Int64) : integer (.int n.toInt) = .ok n := by
  rw [Tree.int, integer, if_pos (fitsSigned_toInt n), Int64.ofInt_toInt]

theorem optional_text (o : Option String) : optional text (o.map .text) = .ok o :=
  optional_map .text (fun _ => nofun) (fun _ => rfl) o

theorem optional_integer (o : Option Int64) :
    optional integer (o.map fun n => .int n.toInt) = .ok o :=
  optional_map (fun n => .int n.toInt) (fun _ => nofun) integer_int o

end Shape

theorem HistogramChoice.ofTree_text (c : HistogramChoice) : ofTree (.text c.name) = .ok c := by
  cases c <;> rfl

theorem Header.ofTree_write (h : Header) : ofTree (h.write Tree.ofPairs) = .ok h := rfl

/-! ## OTLP settings -/

/-- **Settings are read back as they were**, each one under its name. -/
theorem OtlpSettings.ofTree_toTree (m : OtlpSettings) : ofTree m.toTree = .ok m := by
  have hheaders := Shape.optional_map (fun hs => .list (hs.map (Header.write Tree.ofPairs)))
    (fun _ => nofun) (Shape.list_map Header.ofTree_write) m.headers
  have hhistogram := Shape.optional_map (fun c : HistogramChoice => .text c.name)
    (fun _ => nofun) HistogramChoice.ofTree_text m.defaultHistogramAggregation
  change ofEntries (Entries.ofPairs (m.fields Tree.ofPairs)) = .ok m
  simp only [ofEntries, fields, Entries.get?_ofPairs_append, Entries.get?_ofPairs_optionalField,
    String.reduceEq, if_false, if_true, Option.or_none, Option.none_or, Shape.optional_text,
    Shape.optional_integer, hheaders, hhistogram]
  rfl

/-! ## Exporter nodes -/

namespace ExporterNode

/-- **A node is read back in its canonical form**, or with the fault that there is none. -/
theorem ofTree_toTree (n : ExporterNode) : ofTree n.toTree = n.canonical := by
  cases n with
  | otlp m =>
    change (under otlpKey (OtlpSettings.ofTree m.toTree)).map otlp = .ok (.otlp m)
    rw [OtlpSettings.ofTree_toTree]
    rfl
  | console => rfl
  | named name config =>
    change ofTree (.node [(name, .node config)]) = _
    rw [canonical]
    split_ifs with h
    · rfl
    · simp only [isBuiltin, Bool.or_eq_true, beq_iff_eq, not_or] at h
      simp only [ofTree, ofEntry, if_neg h.1, if_neg h.2]

/-- The canonical form of a node; the node itself if there is none. -/
def canonicalForm (n : ExporterNode) : ExporterNode := n.canonical.toOption.getD n

theorem canonicalForm_of_canonical {m n : ExporterNode} (h : m.canonical = .ok n) :
    m.canonicalForm = n := by
  rw [canonicalForm, h]
  rfl

end ExporterNode

/-! ## Configurations with canonical nodes -/

/-- The reader with its exporter in canonical form. -/
def PeriodicReader.canonicalForm (r : PeriodicReader) : PeriodicReader :=
  { r with exporter := r.exporter.canonicalForm }

/-- The reader with its exporter in canonical form, if it has a periodic section. -/
def MetricReader.canonicalForm (r : MetricReader) : MetricReader :=
  ⟨r.periodic.map PeriodicReader.canonicalForm⟩

/-- The meter provider with all exporters in canonical form. -/
def MeterProvider.canonicalForm (p : MeterProvider) : MeterProvider :=
  ⟨p.readers.map MetricReader.canonicalForm⟩

/-- The configuration with all exporters in canonical form. -/
def Configuration.canonicalForm (c : Configuration) : Configuration :=
  { c with meterProvider := c.meterProvider.map MeterProvider.canonicalForm }

/-! ## Reading back -/

/-- What is written can be read back where `P` holds, as its image under `g`. -/
def ReadsBack {α β : Type} (read : Tree → Shaped β) (write : α → Tree) (P : α → Prop)
    (g : α → β) : Prop :=
  ∀ a b, read (write a) = .ok b ↔ P a ∧ g a = b

section ReadsBack

variable {α β : Type} {read : Tree → Shaped β} {write : α → Tree} {P : α → Prop} {g : α → β}

theorem ReadsBack.list (h : ReadsBack read write P g) :
    ReadsBack (Shape.list read) (fun as => .list (as.map write)) (fun as => ∀ a ∈ as, P a)
      (List.map g) := by
  intro as bs
  change (as.map write).mapM read = .ok bs ↔ _
  rw [List.mapM_map]
  exact mapM_eq_ok_iff h

theorem ReadsBack.optional (h : ReadsBack read write P g) (hnull : ∀ a, write a ≠ .null)
    (o : Option α) (o' : Option β) :
    Shape.optional read (o.map write) = .ok o' ↔ (∀ a ∈ o, P a) ∧ o.map g = o' := by
  cases o with
  | none => simp [Shape.optional_eq_ok]
  | some a => simp [Shape.optional_eq_ok, hnull, h a, and_assoc]

end ReadsBack

/-! ## Records -/

theorem PeriodicReader.ofTree_write (r : PeriodicReader) : ofTree (r.write Tree.ofPairs) =
    r.exporter.canonical.map fun exporter => { r with exporter } := by
  have h : ExporterNode.ofTree (r.exporter.write Tree.ofPairs) = r.exporter.canonical :=
    ExporterNode.ofTree_toTree r.exporter
  simp only [ofTree, write, Tree.ofPairs, Shape.record, Entries.get?_ofPairs_append,
    Entries.get?_ofPairs_optionalField, Entries.get?_ofPairs_singleton, String.reduceEq, if_false,
    if_true, Option.or_none, Option.none_or, Shape.optional_integer, Shape.present, h]
  cases r.exporter.canonical with
  | ok n => rfl
  | error fault => rfl

theorem MetricReader.ofTree_write (r : MetricReader) : ofTree (r.write Tree.ofPairs) =
    (Shape.optional PeriodicReader.ofTree
      (r.periodic.map (PeriodicReader.write Tree.ofPairs))).map mk := by
  simp only [ofTree, write, Tree.ofPairs, Shape.record, Entries.get?_ofPairs_optionalField, if_true]
  rfl

theorem MeterProvider.ofTree_write (p : MeterProvider) : ofTree (p.write Tree.ofPairs) =
    (Shape.list MetricReader.ofTree
      (.list (p.readers.map (MetricReader.write Tree.ofPairs)))).map mk := by
  simp only [ofTree, write, Tree.ofPairs, Shape.record, readersOf]
  -- without readers the field is left out, and reading none of them gives the same
  cases hp : p.readers with
  | nil => rfl
  | cons r rs =>
    rw [if_neg (by simp), Entries.get?_ofPairs_singleton, if_pos rfl, Shape.present]
    cases Shape.list MetricReader.ofTree
        (.list ((r :: rs).map (MetricReader.write Tree.ofPairs))) with
    | ok readers => rfl
    | error fault => rfl

theorem Configuration.ofTree_toTree (c : Configuration) : ofTree c.toTree =
    (Shape.optional MeterProvider.ofTree
      (c.meterProvider.map (MeterProvider.write Tree.ofPairs))).map
      fun meterProvider => { c with meterProvider } := by
  have hdisabled : Shape.optional Shape.bool (c.disabled.map .bool) = .ok c.disabled :=
    Shape.optional_map .bool (fun _ => nofun) (fun _ => rfl) c.disabled
  simp only [ofTree, toTree, write, Tree.ofPairs, Shape.record, Entries.get?_ofPairs_append,
    Entries.get?_ofPairs_optionalField, Entries.get?_ofPairs_singleton, String.reduceEq, if_false,
    if_true, Option.or_none, Option.none_or, Shape.present, hdisabled]
  rfl

/-! ## Canonical forms -/

theorem PeriodicReader.readsBack : ReadsBack ofTree (write Tree.ofPairs)
    (fun r => ∃ n, r.exporter.canonical = .ok n) canonicalForm := by
  intro r r'
  rw [ofTree_write, map_eq_ok]
  constructor
  · rintro ⟨n, hn, rfl⟩
    exact ⟨⟨n, hn⟩, by rw [canonicalForm, ExporterNode.canonicalForm_of_canonical hn]⟩
  · rintro ⟨⟨n, hn⟩, rfl⟩
    exact ⟨n, hn, by rw [canonicalForm, ExporterNode.canonicalForm_of_canonical hn]⟩

theorem MetricReader.readsBack : ReadsBack ofTree (write Tree.ofPairs)
    (fun r => ∀ q ∈ r.periodic, ∃ n, q.exporter.canonical = .ok n) canonicalForm := by
  intro r r'
  simp only [ofTree_write, map_eq_ok, PeriodicReader.readsBack.optional (fun _ => nofun), and_assoc,
    exists_and_left, exists_eq_left', canonicalForm]

theorem MeterProvider.readsBack : ReadsBack ofTree (write Tree.ofPairs)
    (fun p => ∀ r ∈ p.readers, ∀ q ∈ r.periodic, ∃ n, q.exporter.canonical = .ok n)
    canonicalForm := by
  intro p p'
  simp only [ofTree_write, map_eq_ok, MetricReader.readsBack.list _ _, and_assoc, exists_and_left,
    exists_eq_left', canonicalForm]

theorem Configuration.readsBack : ReadsBack ofTree toTree
    (fun c => ∀ p ∈ c.meterProvider, ∀ r ∈ p.readers, ∀ q ∈ r.periodic,
      ∃ n, q.exporter.canonical = .ok n) canonicalForm := by
  intro c d
  simp only [ofTree_toTree, map_eq_ok, MeterProvider.readsBack.optional (fun _ => nofun), and_assoc,
    exists_and_left, exists_eq_left', canonicalForm]

/-! ## What was read -/

theorem MetricReader.canonicalForm_eq_self {r : MetricReader}
    (h : ∀ q ∈ r.periodic, q.exporter.canonical = .ok q.exporter) : r.canonicalForm = r := by
  have hq : ∀ q ∈ r.periodic, q.canonicalForm = id q := fun q hq => by
    rw [PeriodicReader.canonicalForm, ExporterNode.canonicalForm_of_canonical (h q hq), id]
  rw [canonicalForm, Option.map_congr hq, Option.map_id_fun, id]

theorem Configuration.canonicalForm_eq_self {c : Configuration}
    (h : ∀ n ∈ c.exporters, n.canonical = .ok n) : c.canonicalForm = c := by
  rw [forall_mem_exporters] at h
  have hp : ∀ p ∈ c.meterProvider, p.canonicalForm = id p := fun p hp => by
    have hr : ∀ r ∈ p.readers, r.canonicalForm = id r := fun r hr =>
      MetricReader.canonicalForm_eq_self (h p hp r hr)
    rw [MeterProvider.canonicalForm, List.map_congr_left hr, List.map_id, id]
  rw [canonicalForm, Option.map_congr hp, Option.map_id_fun, id]

/-- **A configuration can be read back if and only if each of its exporter nodes has a canonical
form**, and then it has these forms. -/
theorem ofTree_toTree_eq_ok_iff (c : Configuration) :
    (∀ d, Configuration.ofTree c.toTree = .ok d ↔
      (∀ n ∈ c.exporters, ∃ n', n.canonical = .ok n') ∧ c.canonicalForm = d) ∧
    ∀ t, Configuration.ofTree t = .ok c → Configuration.ofTree c.toTree = .ok c := by
  have hback : ∀ d, Configuration.ofTree c.toTree = .ok d ↔
      (∀ n ∈ c.exporters, ∃ n', n.canonical = .ok n') ∧ c.canonicalForm = d := by
    intro d
    rw [Configuration.readsBack c d, Configuration.forall_mem_exporters]
  refine ⟨hback, fun t ht => ?_⟩
  have hc := Configuration.canonical_of_ofTree ht
  exact (hback c).2 ⟨fun n hn => ⟨n, hc n hn⟩, Configuration.canonicalForm_eq_self hc⟩

end Telemetry
