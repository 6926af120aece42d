import Telemetry.Proofs.Export.Accounting
import Telemetry.Proofs.Export.Journal
import Telemetry.Proofs.Provider.Loading

/-!
# Which plugin is asked

* `Store.fst_load`, `Store.fst_compressors`: what is found through a loader.
* `Properties.Below`: the views that are reached from a view.
* `Store.Asks`: a provider was asked once, and its answer is the outcome.
* `loadComponent_eq`: what follows from the first provider that goes by the wanted name.
* `asks_loadComponent`: if there is one, then it is asked.
* **`loadComponent_accounts`**: the first provider of the wanted name is asked, in the order of the
  sources of the loader, and no other.
-/

namespace Telemetry

/-! ## Views -/

/-- The views that are reached from a view by going down, any number of times, to a node or to an
item of a list of nodes. -/
inductive Properties.Below : Properties → Properties → Prop
  | refl (p : Properties) : Below p p
  | structured {p q r : Properties} {name : String} :
    p.structured? name = some q → Below q r → Below p r
  | structuredList {p q r : Properties} {name : String} {qs : List Properties} :
    p.structuredList? name = some qs → q ∈ qs → Below q r → Below p r

theorem Properties.loader_of_structured? {p q : Properties} {name : String}
    (h : p.structured? name = some q) : q.loader = p.loader := by
  obtain ⟨entries, -, rfl⟩ := Option.map_eq_some_iff.1 h
  rfl

theorem Properties.loader_of_structuredList? {p q : Properties} {name : String}
    {qs : List Properties} (h : p.structuredList? name = some qs) (hq : q ∈ qs) :
    q.loader = p.loader := by
  obtain ⟨nodes, -, rfl⟩ := Option.map_eq_some_iff.1 h
  obtain ⟨entries, -, rfl⟩ := List.mem_map.1 hq
  rfl

/-- **All views below have the loader of the view.** -/
theorem Properties.Below.loader_eq {p q : Properties} (h : p.Below q) : q.loader = p.loader := by
  induction h with
  | refl => rfl
  | structured hq _ ih => exact ih.trans (loader_of_structured? hq)
  | structuredList hqs hq _ ih => exact ih.trans (loader_of_structuredList? hqs hq)

namespace Store

/-! ## Finding -/

theorem fst_load (k : Capability) (loader : Provider.Loader) (s : Store) :
    (s.load k loader).1 = s.catalogue.found k loader :=
  (Provider.Catalogue.load_accounts s.catalogue k loader).1

theorem held_load (k : Capability) (loader : Provider.Loader) (s : Store) :
    (s.load k loader).2.catalogue.held = s.catalogue.held :=
  (Provider.Catalogue.load_accounts s.catalogue k loader).2

/-- Looking for plugins changes nothing about what is found. -/
theorem Finds.held {s t : Store} (h : s.Finds t) : t.catalogue.held = s.catalogue.held := by
  induction h with
  | refl => rfl
  | load k loader _ ih => exact (held_load k loader _).trans ih
  | log e _ ih => exact ih

/-- What is found depends on what the sources of loaders hold. -/
theorem found_congr {s t : Store} (h : t.catalogue.held = s.catalogue.held) (k : Capability)
    (loader : Provider.Loader) : t.catalogue.found k loader = s.catalogue.found k loader := by
  rw [Provider.Catalogue.found, h]
  rfl

theorem Finds.found {s t : Store} (h : s.Finds t) (k : Capability) (loader : Provider.Loader) :
    t.catalogue.found k loader = s.catalogue.found k loader := found_congr h.held k loader

theorem fst_compressors (loader : Provider.Loader) (s : Store) :
    (s.compressors loader).1 =
      Provider.providers .compressor (s.catalogue.found .compressor loader) := by
  rw [← fst_load]
  rfl

/-- The providers of exporters that are found through a loader. -/
def offered (s : Store) (loader : Provider.Loader) : List ExporterProvider :=
  Provider.providers .exporter (s.catalogue.found .exporter loader)

theorem mem_offered {s : Store} {loader : Provider.Loader} {p : ExporterProvider} :
    p ∈ s.offered loader ↔ ∃ source ∈ loader.sources, ∃ e ∈ s.catalogue.held source,
      e.as? .exporter = some p := by
  have hcapability : ∀ e : Provider.Entry Capability Plugin, e.as? .exporter = some p →
      e.capability = .exporter := by
    intro e he
    by_contra hne
    rw [Provider.Entry.as?, dif_neg hne] at he
    cases he
  unfold offered Provider.providers Provider.Catalogue.found Provider.ofCapability
  simp only [List.mem_filterMap, List.mem_flatMap, List.mem_filter, decide_eq_true_eq]
  constructor
  · rintro ⟨e, ⟨source, hsource, he, -⟩, hp⟩
    exact ⟨source, hsource, e, he, hp⟩
  · rintro ⟨source, hsource, e, he, hp⟩
    exact ⟨e, ⟨source, hsource, he, hcapability e hp⟩, hp⟩

/-! ## Asking -/

/-- A provider was asked for an exporter, once and nobody else, and its answer is the outcome: a
fault, which leaves channels, exporters and resources as they were, or an exporter, which was
added. -/
structure Asks (s : Store) (p : ExporterProvider) (view : Properties)
    (compressors : List Compressor) (r : Except ConfigFault Nat × Store) : Prop where
  askings : r.2.askings = s.askings ++ [p.name]
  answer : match (p.create view compressors).1 with
    | .error fault => r.1 = .error fault ∧ s.SameObjects r.2
    | .ok e => ∃ number, r.1 = .ok number ∧ s.Adds number (.plugin e) [] r.2

variable {s : Store} {name : String} {config : Entries} {loader : Provider.Loader}

/-- The compressors that a provider can look for in its view. -/
def offeredCompressors (s : Store) (loader : Provider.Loader) : List Compressor :=
  Provider.providers .compressor (s.catalogue.found .compressor loader)

/-- The store in which a provider is looked for. -/
def looked (s : Store) (name : String) (loader : Provider.Loader) : Store :=
  (s.load .exporter loader).2.log (resolvingProvider name (s.offered loader).length)

/-- The store in which a provider was asked and has logged events. -/
def asked (s : Store) (provider name : String) (loader : Provider.Loader) (events : List Log.Event) :
    Store :=
  (((s.looked name loader).compressors loader).2.note (.asked provider)).logAll events

theorem finds_looked (s : Store) (name : String) (loader : Provider.Loader) :
    s.Finds (s.looked name loader) := .log _ (.load .exporter loader .refl)

theorem loadComponent_eq (name : String) (config : Entries) (loader : Provider.Loader) (s : Store) :
    s.loadComponent name config loader =
      match (s.offered loader).find? fun p => p.name == name with
      | none => (.error (.noProvider exporterComponent name), s.looked name loader)
      | some p =>
        let (answer, events) := p.create ⟨config, loader⟩ (s.offeredCompressors loader)
        let t := s.asked p.name name loader events
        match answer with
        | .error fault => (.error fault, t)
        | .ok e => (.ok t.exporters.length, (t.addExporter (.plugin e)).2) := by
  have hoffered : Provider.providers .exporter (s.load .exporter loader).1 = s.offered loader := by
    rw [fst_load, offered]
  have hcompressors : ((s.looked name loader).compressors loader).1 = s.offeredCompressors loader := by
    rw [fst_compressors, (finds_looked s name loader).found, offeredCompressors]
  unfold loadComponent
  dsimp only
  rw [hoffered]
  cases (s.offered loader).find? fun p => p.name == name with
  | none => rfl
  | some p =>
    rw [← hcompressors]
    rfl

theorem sameObjects_asked (provider name : String) (loader : Provider.Loader)
    (events : List Log.Event) (s : Store) :
    s.SameObjects (s.asked provider name loader events) := by
  have h := (finds_looked s name loader).load .compressor loader
  exact (h.sameObjects.trans (sameObjects_note _ _)).trans (sameObjects_logAll events _)

theorem askings_asked (provider name : String) (loader : Provider.Loader)
    (events : List Log.Event) (s : Store) :
    (s.asked provider name loader events).askings = s.askings ++ [provider] := by
  have h := (finds_looked s name loader).load .compressor loader
  have hnote : ∀ t : Store, (t.note (.asked provider)).askings = t.askings ++ [provider] :=
    fun t => List.filterMap_append
  rw [asked, (notes_logAll events _).askings, hnote]
  exact congrArg (· ++ [provider]) h.notes.askings

/-- If there is one, the first provider that goes by the wanted name is asked. -/
theorem asks_loadComponent {name : String} {loader : Provider.Loader} {s : Store}
    {p : ExporterProvider} (h : (s.offered loader).find? (fun p => p.name == name) = some p)
    (config : Entries) :
    s.Asks p ⟨config, loader⟩ (s.offeredCompressors loader)
      (s.loadComponent name config loader) := by
  have hsame := fun events => sameObjects_asked p.name name loader events s
  have hasked := fun events => askings_asked p.name name loader events s
  have hloaded := loadComponent_eq name config loader s
  rw [h] at hloaded
  cases hr : p.create ⟨config, loader⟩ (s.offeredCompressors loader) with
  | mk answer events =>
    simp only [hr] at hloaded
    rw [hloaded]
    cases answer with
    | error fault =>
      refine ⟨hasked events, ?_⟩
      rw [hr]
      exact ⟨rfl, hsame events⟩
    | ok e =>
      refine ⟨hasked events, ?_⟩
      rw [hr]
      exact ⟨_, rfl, .of_sameObjects (hsame events) ⟨rfl, rfl, (List.append_nil _).symm⟩⟩

/-- **The first provider of the wanted name is asked, and no other**, with the whole loader behind
its view. Its answer is the outcome. -/
theorem loadComponent_accounts (name : String) (config : Entries) (loader : Provider.Loader)
    (s : Store) :
    (∀ (κ : Type) (π : κ → Type) [DecidableEq κ] (c : Provider.Catalogue κ π) (k : κ),
      (c.load k loader).1 =
          loader.sources.flatMap (fun source => Provider.ofCapability k (c.held source)) ∧
        (c.load k loader).2.1.held = c.held) ∧
    (∀ p ∈ s.offered loader, p.name = name → ∃ before first after,
      s.offered loader = before ++ first :: after ∧ (∀ q ∈ before, q.name ≠ name) ∧
        first.name = name ∧ s.Asks first ⟨config, loader⟩ (s.offeredCompressors loader)
          (s.loadComponent name config loader)) ∧
    (∀ view, Properties.Below ⟨config, loader⟩ view → view.loader = loader) ∧
    ((∀ source ∈ loader.sources, ∀ e ∈ s.catalogue.held source, ∀ p : ExporterProvider,
        e.as? .exporter = some p → p.name ≠ name) ↔
      (s.loadComponent name config loader).1 = .error (.noProvider exporterComponent name) ∧
        (s.loadComponent name config loader).2.askings = s.askings) ∧
    (ConfigFault.noProvider exporterComponent name).message =
      "No component provider detected for otk_exporter::MetricExporter with name \x22" ++ name ++
        "\x22." := by
  have hnobody : (∀ p ∈ s.offered loader, p.name ≠ name) ↔ ∀ source ∈ loader.sources,
      ∀ e ∈ s.catalogue.held source, ∀ p : ExporterProvider, e.as? .exporter = some p →
        p.name ≠ name := by
    simp only [mem_offered, forall_exists_index, and_imp]
    constructor
    · intro h source hsource e he p hp
      exact h p source hsource e he hp
    · intro h p source hsource e he hp
      exact h source hsource e he p hp
  have hnone : (s.offered loader).find? (fun p => p.name == name) = none ↔
      ∀ p ∈ s.offered loader, p.name ≠ name := by
    simp only [List.find?_eq_none, beq_iff_eq, ne_eq]
  refine ⟨fun κ π _ c k => c.load_accounts k loader, ?_, fun _ h => h.loader_eq, ?_, rfl⟩
  · intro p hp hname
    obtain ⟨first, hfirst⟩ := Option.ne_none_iff_exists'.1 fun h => hnone.1 h p hp hname
    obtain ⟨hfound, before, after, hoffered, hbefore⟩ := List.find?_eq_some_iff_append.1 hfirst
    refine ⟨before, first, after, hoffered, fun q hq => ?_, beq_iff_eq.1 hfound,
      asks_loadComponent hfirst config⟩
    simpa using hbefore q hq
  · rw [← hnobody, ← hnone]
    constructor
    · intro h
      rw [loadComponent_eq, h]
      exact ⟨rfl, (finds_looked s name loader).notes.askings⟩
    · rintro ⟨-, hasked⟩
      by_contra hsome
      obtain ⟨first, hfirst⟩ := Option.ne_none_iff_exists'.1 hsome
      rw [(asks_loadComponent hfirst config).askings] at hasked
      exact absurd hasked (by simp)

end Store

end Telemetry
