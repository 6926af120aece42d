import Telemetry.Plugin.Sample
import Telemetry.Proofs.Configuration.RoundTrip
import Telemetry.Proofs.Export.Acceptance
import Telemetry.Proofs.Export.Journal

/-!
# What the exporter of a node depends on

* `Otlp.Plan.ofView_congr`: a plan is made of the entries of a view and of the compressors that were
  found, and of nothing else.
* `Store.Agrees`: two outcomes of making an exporter that are the same but for plugins and journal.
* **`createExporter_of_isBuiltin`**: under the key of a built-in exporter nothing depends on the
  plugins but for the compressors, and for the console exporter not even on these.
* **`createExporter_ofTree_toTree`**: a node makes the same exporter as the node that is read back
  once it was written.
-/

namespace Telemetry

/-! ## Plans -/

namespace Otlp

theorem mapM_headerOf_structuredList? (view : Properties) (name : String) :
    ((view.structuredList? name).getD []).mapM headerOf =
      ((view.get? name >>= Tree.itemsAs? Tree.entries?).getD []).mapM fun es =>
        headerOf ⟨es, view.loader⟩ := by
  unfold Properties.structuredList?
  cases view.get? name >>= Tree.itemsAs? Tree.entries? with
  | none => rfl
  | some nodes => exact List.mapM_map

theorem headersOf_congr (es : Entries) (l₁ l₂ : Provider.Loader) :
    headersOf ⟨es, l₁⟩ = headersOf ⟨es, l₂⟩ := by
  unfold headersOf
  rw [mapM_headerOf_structuredList?, mapM_headerOf_structuredList?]
  rfl

/-- The loader of a view has no part in its plan once the compressors are found. -/
theorem Plan.ofView_congr (found : List Compressor) (es : Entries) (l₁ l₂ : Provider.Loader) :
    ofView found ⟨es, l₁⟩ = ofView found ⟨es, l₂⟩ := by
  unfold ofView withAddress
  rw [headersOf_congr es l₁ l₂]
  rfl

end Otlp

namespace Store

/-! ## Two stores -/

theorem SameObjects.push {s t : Store} (h : s.SameObjects t) (r : Resource) :
    (s.push r).SameObjects (t.push r) :=
  ⟨h.channels, h.exporters, congrArg (· ++ [r]) h.resources⟩

theorem SameObjects.addExporter {s t : Store} (h : s.SameObjects t) (e : Exporter) :
    (s.addExporter e).1 = (t.addExporter e).1 ∧
      (s.addExporter e).2.SameObjects (t.addExporter e).2 :=
  ⟨congrArg List.length h.exporters.symm,
    h.channels, congrArg (· ++ [e]) h.exporters, h.resources⟩

theorem SameObjects.addChannel {s t : Store} (h : s.SameObjects t) (c : Channel) :
    (s.addChannel c).1 = (t.addChannel c).1 ∧
      (s.addChannel c).2.SameObjects (t.addChannel c).2 :=
  ⟨congrArg List.length h.channels.symm,
    congrArg (· ++ [c]) h.channels, h.exporters, h.resources⟩

theorem SameObjects.addOtlp {s t : Store} (h : s.SameObjects t) (plan : Otlp.Plan) :
    (s.addOtlp plan).1 = (t.addOtlp plan).1 ∧ (s.addOtlp plan).2.SameObjects (t.addOtlp plan).2 := by
  obtain ⟨hnumber, hst⟩ := h.addChannel {}
  unfold Store.addOtlp
  dsimp only
  rw [hnumber]
  exact (hst.push _).addExporter _

/-- The same outcome, and the same channels, exporters and resources. -/
structure Agrees (r₁ r₂ : Except ConfigFault Nat × Store) : Prop where
  outcome : r₁.1 = r₂.1
  objects : r₁.2.SameObjects r₂.2

variable {s₁ s₂ : Store} {l₁ l₂ : Provider.Loader}

theorem createOtlp_agrees (h : s₁.SameObjects s₂)
    (hfound : (s₁.compressors l₁).1 = (s₂.compressors l₂).1) (es : Entries) :
    Agrees (s₁.createOtlp ⟨es, l₁⟩) (s₂.createOtlp ⟨es, l₂⟩) := by
  have hplan : (s₁.planOtlp ⟨es, l₁⟩).1 = (s₂.planOtlp ⟨es, l₂⟩).1 := by
    rw [fst_planOtlp, fst_planOtlp, Otlp.Plan.ofView_congr _ es l₁ l₂, hfound]
  have hobjects : (s₁.planOtlp ⟨es, l₁⟩).2.SameObjects (s₂.planOtlp ⟨es, l₂⟩).2 :=
    ((sameObjects_planOtlp _ s₁).symm.trans h).trans (sameObjects_planOtlp _ s₂)
  unfold createOtlp
  generalize s₁.planOtlp ⟨es, l₁⟩ = r₁ at hplan hobjects ⊢
  generalize s₂.planOtlp ⟨es, l₂⟩ = r₂ at hplan hobjects ⊢
  obtain ⟨outcome, t₁⟩ := r₁
  obtain ⟨_, t₂⟩ := r₂
  cases hplan
  cases outcome with
  | error fault => exact ⟨rfl, hobjects⟩
  | ok plan =>
    obtain ⟨hnumber, hadded⟩ := hobjects.addOtlp plan
    exact ⟨congrArg Except.ok hnumber, hadded⟩

theorem createConsole_agrees (h : s₁.SameObjects s₂) (view₁ view₂ : Properties) :
    Agrees (s₁.createConsole view₁) (s₂.createConsole view₂) := by
  obtain ⟨hnumber, hadded⟩ := h.addExporter (.console {})
  exact ⟨congrArg Except.ok hnumber, hadded⟩

/-- The exporter of a node agrees where that of its canonical form does. -/
theorem createExporter_agrees {node : ExporterNode} (h : s₁.SameObjects s₂)
    (hcanonical : ∀ m, node.canonical = .ok m →
      Agrees (s₁.createCanonical m l₁) (s₂.createCanonical m l₂)) :
    Agrees (s₁.createExporter node l₁) (s₂.createExporter node l₂) := by
  unfold createExporter
  cases hm : node.canonical with
  | error fault => exact ⟨rfl, h⟩
  | ok m =>
    obtain ⟨houtcome, hobjects⟩ := hcanonical m hm
    dsimp only
    generalize s₁.createCanonical m l₁ = r₁ at houtcome hobjects ⊢
    generalize s₂.createCanonical m l₂ = r₂ at houtcome hobjects ⊢
    obtain ⟨outcome, t₁⟩ := r₁
    obtain ⟨_, t₂⟩ := r₂
    cases houtcome
    cases outcome with
    | error fault => exact ⟨rfl, hobjects⟩
    | ok number =>
      have hlogged : ∀ e, (t₁.log e).SameObjects (t₂.log e) := fun _ =>
        ⟨hobjects.channels, hobjects.exporters, hobjects.resources⟩
      exact ⟨rfl, (hlogged _).push _⟩

/-! ## Built-in exporters -/

/-- **Plugins have no part in built-in exporters.** Stores and loaders with the same compressors
give the same outcome, and no plugin is asked. -/
theorem createExporter_of_isBuiltin {node : ExporterNode}
    (hkey : ExporterNode.isBuiltin node.key = true) (h : s₁.SameObjects s₂)
    (hfound : node.key = ExporterNode.consoleKey ∨
      (s₁.compressors l₁).1 = (s₂.compressors l₂).1) :
    Agrees (s₁.createExporter node l₁) (s₂.createExporter node l₂) ∧
      (s₁.createExporter node l₁).2.askings = s₁.askings ∧
      (s₂.createExporter node l₂).2.askings = s₂.askings := by
  refine ⟨createExporter_agrees h fun m hm => ?_, askings_createExporter hkey l₁ s₁,
    askings_createExporter hkey l₂ s₂⟩
  obtain ⟨hmkey, hplugin⟩ := ExporterNode.of_canonical_eq_ok hm
  cases m with
  | otlp settings =>
    have hfound : (s₁.compressors l₁).1 = (s₂.compressors l₂).1 := by
      refine hfound.resolve_left fun hconsole => ?_
      have hkeys : ExporterNode.otlpKey = ExporterNode.consoleKey := hmkey.trans hconsole
      exact absurd hkeys (by decide)
    exact createOtlp_agrees h hfound (Entries.ofPairs (settings.fields Tree.ofPairs))
  | console => exact createConsole_agrees h (.empty l₁) (.empty l₂)
  | named name config =>
    rw [← hmkey] at hkey
    exact absurd (hplugin.symm.trans hkey) nofun

/-- Two registries with one compressor, and with plugins that go by the name of the OTLP exporter. -/
def rivals : Store where
  catalogue.registries := [
    ⟨[⟨.compressor, "plain", Sample.compressor "identity" "identity"⟩,
      ⟨.exporter, ExporterNode.otlpKey, Sample.provider ExporterNode.otlpKey Sample.failingKind⟩]⟩,
    ⟨[⟨.exporter, "other", Sample.provider ExporterNode.otlpKey "ok"⟩,
      ⟨.compressor, "same", Sample.compressor "identity" "identity"⟩]⟩]

/-- Neither rival is asked for the exporter of a node under the key of OTLP. -/
theorem createExporter_among_rivals :
    let node := ExporterNode.named ExporterNode.otlpKey [("compression", .text "identity")]
    ExporterNode.isBuiltin node.key = true ∧
      (rivals.compressors (.registry 0)).1 = (rivals.compressors (.registry 1)).1 ∧
      Agrees (rivals.createExporter node (.registry 0))
        (rivals.createExporter node (.registry 1)) ∧
      (rivals.createExporter node (.registry 0)).2.askings = [] ∧
      (rivals.createExporter node (.registry 0)).2.resources = [.channel 0, .exporter 0] := by
  intro node
  have hkey : ExporterNode.isBuiltin node.key = true := by decide
  have hfound : (rivals.compressors (.registry 0)).1 = (rivals.compressors (.registry 1)).1 := rfl
  obtain ⟨hagrees, hasked, -⟩ := createExporter_of_isBuiltin hkey (.refl rivals) (.inr hfound)
  refine ⟨hkey, hfound, hagrees, hasked, ?_⟩
  decide +kernel

/-! ## Nodes that are written and read back -/

/-- **A node makes the same exporter as the node that is read back once it was written.** If none
can be read back, nothing is made. -/
theorem createExporter_ofTree_toTree (node : ExporterNode) (loader : Provider.Loader) (s : Store) :
    match ExporterNode.ofTree node.toTree with
    | .error fault => node.canonical = .error fault ∧
        s.createExporter node loader = (.error (.shape fault), s) ∧
        (ConfigFault.shape fault).message = fault.message
    | .ok read => node.canonical = .ok read ∧ read.canonical = .ok read ∧ read.key = node.key ∧
        s.createExporter node loader = s.createExporter read loader := by
  have hback := ExporterNode.ofTree_toTree node
  cases hread : ExporterNode.ofTree node.toTree with
  | error fault =>
    rw [hread] at hback
    refine ⟨hback.symm, ?_, rfl⟩
    rw [createExporter, ← hback]
  | ok read =>
    rw [hread] at hback
    have hread' := ExporterNode.canonical_of_ofTree hread
    obtain ⟨hkey, -⟩ := ExporterNode.of_canonical_eq_ok hback.symm
    refine ⟨hback.symm, hread', hkey, ?_⟩
    rw [createExporter, createExporter, ← hback, hread', hkey]

end Store

end Telemetry
