import Mathlib.Data.List.Forall2
import Telemetry.Command.Run
import Telemetry.Proofs.Bytes.Order
import Telemetry.Proofs.Export.Freshness
import Telemetry.Proofs.Text.Cutting

/-!
# Validating releases what it makes

* `Exporter.Renders`: how an exporter that is not shut down is shown.
* `Store.Releases`: the resources of fresh exporters were closed, once each and in order, and none is
  left.
* `releases_createAll`: closing all releases what was made of a configuration, even if one exporter
  could not be made.
* `Outcome.failed`, `Outcome.succeeded`: how a run ends.
* `validate_status_eq_zero`: when it ends well.
* **`validate_accounts`**: whatever fails, all resources are released, and the exit status says
  whether anything failed.
-/

namespace Telemetry

/-! ## Descriptions -/

namespace Exporter

/-- How an exporter is shown that is not shut down. -/
inductive Renders : Exporter → String → Prop
  | otlp (plan : Otlp.Plan) (channel : Nat) :
    Renders (.otlp ⟨plan, channel, false⟩)
      ("OtlpHttpMetricExporter \x7b endpoint: " ++ quoted plan.endpoint ++ ", protocol: " ++
        quoted plan.protocol.name ++ ", content_type: " ++ quoted "application/json" ++
        ", compression: " ++ quoted ((plan.compressor.map Compressor.encoding).getD "none") ++
        ", timeout: " ++ describeMillis plan.timeout ++
        ", temporality: " ++ plan.temporality.name ++ " \x7d")
  | console (temporality : TemporalitySelector) :
    Renders (.console ⟨temporality, false⟩)
      ("LoggingMetricExporter \x7b temporality: " ++ temporality.name ++ ", shutdown: " ++
        "false" ++ " \x7d")
  | plugin (provider : String) (view : Properties) (encoding : Option String)
      (fault : Option CloseFault) :
    Renders (.plugin ⟨provider, view, encoding, fault⟩)
      ("PluginExporter \x7b provider: " ++ quoted provider ++ ", config: " ++ view.describe ++
        ", encoding: " ++ encoding.elim "None" (fun name => "Some(" ++ quoted name ++ ")") ++
        " \x7d")

theorem renders_describe {e : Exporter} (h : e.isShutdown = false) : e.Renders e.describe := by
  cases e with
  | otlp e =>
    obtain ⟨plan, channel, _⟩ := e
    cases h
    dsimp only [describe, Otlp.Plan.describe, Otlp.Plan.encoding, Otlp.contentType,
      Compression.noMethod]
    exact .otlp plan channel
  | console e =>
    obtain ⟨temporality, _⟩ := e
    cases h
    dsimp only [describe]
    rw [if_neg Bool.false_ne_true]
    exact .console temporality
  | plugin e =>
    obtain ⟨provider, view, encoding, fault⟩ := e
    have hencoding : describeOption encoding =
        encoding.elim "None" fun name => "Some(" ++ quoted name ++ ")" := by
      cases encoding <;> rfl
    dsimp only [describe]
    rw [hencoding]
    exact .plugin provider view encoding fault

end Exporter

namespace Store

/-! ## Releasing -/

/-- Closing all released the resources of fresh exporters: none was closed before, each was closed
once and in order, whichever failed, and none is left. -/
structure Releases (s : Store) (faults : List CloseFault) (closed : Store) : Prop where
  fresh : s.Fresh
  nothing : s.closings = []
  closings : closed.closings = s.resources
  resources : closed.resources = []
  faults_eq : faults = s.resources.filterMap s.failure?

theorem closeResource_eq_ok {r : Resource} {s : Store} :
    (s.closeResource r).1 = .ok () ↔ s.failure? r = none := by
  rw [(closeResource_accounts r s).1]
  cases s.failure? r with
  | none => exact ⟨fun _ => rfl, fun _ => rfl⟩
  | some fault => exact ⟨nofun, nofun⟩

theorem Releases.faults_eq_nil {s closed : Store} {faults : List CloseFault}
    (h : s.Releases faults closed) :
    faults = [] ↔ ∀ r ∈ s.resources, (s.closeResource r).1 = .ok () := by
  simp only [h.faults_eq, List.filterMap_eq_nil_iff, closeResource_eq_ok]

theorem Fresh.renders {s : Store} (h : s.Fresh) :
    List.Forall₂ Exporter.Renders s.exporters (s.exporters.map Exporter.describe) :=
  List.forall₂_map_right_iff.2
    (List.forall₂_same.2 fun e he => e.renders_describe (h.running e he))

end Store

namespace Command

/-- The plugins of a program are there to be linked, and nothing else is. -/
def Program.start (p : Program) : Store where
  catalogue := { registrations := p.registrations, linked := [{}] }

/-- The store at the start of a run has no exporters. -/
theorem Program.store_fresh (p : Program) : p.store.Fresh where
  resources := rfl
  has := nofun
  nodup := .nil
  running := nofun

/-- **Closing all releases what was made**, even if one exporter could not be made. -/
theorem releases_createAll (p : Program) (c : Configuration) (loader : Provider.Loader) :
    (p.store.createAll c loader).2.Releases (p.store.createAll c loader).2.closeAll.1
      (p.store.createAll c loader).2.closeAll.2 := by
  have hnothing : (p.store.createAll c loader).2.closings = [] :=
    Store.closings_createAll c loader p.store
  obtain ⟨hfaults, hclosings, hresources⟩ :=
    Store.closeAll_accounts (p.store.createAll c loader).2
  refine ⟨Store.createAll_fresh c loader p.store_fresh, hnothing, ?_, hresources, hfaults⟩
  rw [hclosings, hnothing]
  rfl

/-! ## Outcomes -/

/-- The event that a notice says was logged. -/
def loggedEvent? : Notice → Option Log.Event
  | .logged e => some e
  | _ => none

/-- The events that were logged. -/
def loggedIn (s : Store) : List Log.Event := s.journal.filterMap loggedEvent?

theorem eventsOf_journal (s : Store) : eventsOf s.journal = (loggedIn s).map .event := by
  unfold eventsOf loggedIn
  rw [List.map_filterMap]
  congr 1
  funext n
  cases n <;> rfl

/-- A run that logged events and failed. -/
def Outcome.failed (logged : List Log.Event) (complaint : String) : Outcome :=
  ⟨logged.map .event, some complaint, 1⟩

/-- A run that logged events, printed a tree and succeeded. -/
def Outcome.succeeded (logged : List Log.Event) (pretty : Bool) (t : Tree) : Outcome :=
  ⟨logged.map .event ++ [.text (if pretty then t.toPrettyJson 0 else t.toJson)], none, 0⟩

/-- A run that logged some events first. -/
def Outcome.after (first : List Log.Event) (o : Outcome) : Outcome :=
  { o with lines := first.map .event ++ o.lines }

theorem Outcome.after_failed (first logged : List Log.Event) (complaint : String) :
    (failed logged complaint).after first = failed (first ++ logged) complaint := by
  unfold after failed
  rw [List.map_append]

theorem Outcome.after_succeeded (first logged : List Log.Event) (pretty : Bool) (t : Tree) :
    (succeeded logged pretty t).after first = succeeded (first ++ logged) pretty t := by
  unfold after succeeded
  rw [List.map_append, List.append_assoc]

section Resolve

variable {p : Program} {c : Configuration} {s : Store} (path : String) (pretty : Bool)

theorem resolve_of_error {fault : ConfigFault}
    (h : p.store.createAll c linkedPlugins = (.error fault, s)) : resolve p path pretty c =
      .failed (loggedIn s.closeAll.2) (unresolved path fault) := by
  unfold resolve
  rw [h, Outcome.failed, ← eventsOf_journal]
  rfl

theorem resolve_of_unreleased {numbers : List Nat}
    (h : p.store.createAll c linkedPlugins = (.ok numbers, s)) (hfaults : s.closeAll.1 ≠ []) :
    resolve p path pretty c =
      .failed (loggedIn s.closeAll.2) (unreleased s.closeAll.1) := by
  unfold resolve
  rw [h, Outcome.failed, ← eventsOf_journal]
  exact if_neg (by rwa [List.isEmpty_iff])

theorem resolve_of_released {numbers : List Nat}
    (h : p.store.createAll c linkedPlugins = (.ok numbers, s)) (hfaults : s.closeAll.1 = []) :
    resolve p path pretty c = .succeeded (loggedIn s.closeAll.2) pretty
      (summary (s.exporters.map Exporter.describe) c.fileFormat
        (c.activeExporters.length +
          c.activeExporters.countP fun n => decide (n.key = "otlp"))) := by
  have hmade := Store.createAll_made h
  unfold resolve
  rw [h, Outcome.succeeded, ← eventsOf_journal]
  refine (if_pos (List.isEmpty_iff.2 hfaults)).trans ?_
  rw [hmade.filterMap_numbers rfl, hmade.length_resources rfl]
  rfl

/-- The exporters of a configuration can be made and released again. -/
theorem resolve_status_eq_zero : (resolve p path pretty c).status = 0 ↔
    ∃ numbers s, p.store.createAll c linkedPlugins = (.ok numbers, s) ∧
      ∀ r ∈ s.resources, (s.closeResource r).1 = .ok () := by
  have hreleases := releases_createAll p c linkedPlugins
  cases hr : p.store.createAll c linkedPlugins with
  | mk made s =>
    rw [hr] at hreleases
    cases made with
    | error fault =>
      rw [resolve_of_error path pretty hr]
      exact ⟨nofun, nofun⟩
    | ok numbers =>
      by_cases hfaults : s.closeAll.1 = []
      · rw [resolve_of_released path pretty hr hfaults]
        exact ⟨fun _ => ⟨numbers, s, rfl, hreleases.faults_eq_nil.1 hfaults⟩, fun _ => rfl⟩
      · rw [resolve_of_unreleased path pretty hr hfaults]
        refine ⟨nofun, ?_⟩
        rintro ⟨_, _, h, hclosed⟩
        cases h
        exact absurd (hreleases.faults_eq_nil.2 hclosed) hfaults

end Resolve

/-! ## Validating -/

section Validate

variable {p : Program} {w : Surroundings} {path : String} (pretty : Bool)

/-- The events of the variables that a document refers to in vain. -/
def unsetEvents (w : Surroundings) (path : String) : List Log.Event :=
  (Document.unsetNamesInFile path (w.file path) w.env).map fun name =>
    ⟨.debug, "otk_config::document", "unset environment reference", [("variable", .quoted name)]⟩

theorem validate_of_error {fault : Document.Fault}
    (h : Document.readFile Configuration.ofTree path (w.file path) w.env = .error fault) :
    validate p w path pretty = .failed (unsetEvents w path) (unreadable path fault) := by
  unfold validate Outcome.failed unsetEvents
  rw [List.map_map]
  dsimp only
  rw [h]
  rfl

theorem validate_of_ok {c : Configuration}
    (h : Document.readFile Configuration.ofTree path (w.file path) w.env = .ok c) :
    validate p w path pretty = (resolve p path pretty c).after (unsetEvents w path) := by
  unfold validate Outcome.after unsetEvents
  rw [List.map_map]
  dsimp only
  rw [h]
  rfl

/-- The document can be read, and its exporters can be made and released again. -/
theorem validate_status_eq_zero : (validate p w path pretty).status = 0 ↔
    ∃ c numbers s, Document.readFile Configuration.ofTree path (w.file path) w.env = .ok c ∧
      p.store.createAll c linkedPlugins = (.ok numbers, s) ∧
        ∀ r ∈ s.resources, (s.closeResource r).1 = .ok () := by
  cases hread : Document.readFile Configuration.ofTree path (w.file path) w.env with
  | error fault =>
    rw [validate_of_error pretty hread]
    refine ⟨nofun, ?_⟩
    rintro ⟨_, _, _, h, -⟩
    cases h
  | ok c =>
    rw [validate_of_ok pretty hread]
    refine (resolve_status_eq_zero path pretty).trans ⟨?_, ?_⟩
    · rintro ⟨numbers, s, h⟩
      exact ⟨c, numbers, s, rfl, h⟩
    · rintro ⟨_, numbers, s, h, h'⟩
      cases h
      exact ⟨numbers, s, h'⟩

end Validate

theorem unreadable_eq (path : String) (fault : Document.Fault) : unreadable path fault =
    "failed to parse " ++ path ++ ": " ++ fault.message ++
      fault.source.elim "" fun reason => ": " ++ reason := by
  unfold unreadable
  cases fault.source <;> rfl

theorem unreleased_eq (faults : List CloseFault) : unreleased faults =
    "failed to release resources: " ++ "; ".intercalate
      (faults.map fun f => "failed to close " ++ f.resource ++ ": " ++ f.reason) := by
  unfold unreleased CloseFault.message
  rw [joined_eq_intercalate]

/-- **Validating releases what it makes, and the exit status says whether anything failed.** Reading
comes first, then making exporters, then closing. -/
theorem validate_accounts (p : Program) (w : Surroundings) (path : String) (pretty : Bool) :
    let o := perform p w (.validate path pretty)
    let read := Document.readFile Configuration.ofTree path (w.file path) w.env
    (o.status = 0 ↔ ∃ c numbers s, read = .ok c ∧
      p.start.createAll c (.linked 0) = (.ok numbers, s) ∧
        ∀ r ∈ s.resources, (s.closeResource r).1 = .ok ()) ∧
    match read with
    | .error fault => o = .failed (unsetEvents w path)
        ("failed to parse " ++ path ++ ": " ++ fault.message ++
          fault.source.elim "" fun reason => ": " ++ reason)
    | .ok c =>
      let s := (p.start.createAll c (.linked 0)).2
      let faults := s.closeAll.1
      let logged := unsetEvents w path ++ loggedIn s.closeAll.2
      s.Releases faults s.closeAll.2 ∧
      match (p.start.createAll c (.linked 0)).1 with
      | .error fault => o = .failed logged
          ("failed to resolve metric exporters in " ++ path ++ ": " ++ fault.message)
      | .ok numbers => p.start.Made c.activeExporters numbers s ∧
        if faults = [] then
          ∃ renderings, List.Forall₂ Exporter.Renders s.exporters renderings ∧
            o = .succeeded logged pretty (.node [("exporters", .list (renderings.map .text)),
              ("file_format", .text c.fileFormat),
              ("resources", .int (c.activeExporters.length +
                c.activeExporters.countP fun n => decide (n.key = "otlp")))])
        else o = .failed logged ("failed to release resources: " ++ "; ".intercalate
          (faults.map fun f => "failed to close " ++ f.resource ++ ": " ++ f.reason)) := by
  intro o read
  refine ⟨validate_status_eq_zero pretty, ?_⟩
  cases hread : read with
  | error fault =>
    have ho : o = .failed (unsetEvents w path) (unreadable path fault) :=
      validate_of_error pretty hread
    rw [ho, unreadable_eq]
  | ok c =>
    have ho : o = (resolve p path pretty c).after (unsetEvents w path) :=
      validate_of_ok pretty hread
    have hreleases : (p.start.createAll c (.linked 0)).2.Releases _ _ :=
      releases_createAll p c (.linked 0)
    -- all is released before it is decided how the run ends
    refine ⟨hreleases, ?_⟩
    cases hr : p.start.createAll c (.linked 0) with
    | mk made s =>
      rw [hr] at hreleases
      cases made with
      | error fault =>
        rw [ho, resolve_of_error path pretty hr, Outcome.after_failed]
        rfl
      | ok numbers =>
        refine ⟨Store.createAll_made hr, ?_⟩
        by_cases hfaults : s.closeAll.1 = []
        · rw [resolve_of_released path pretty hr hfaults, Outcome.after_succeeded] at ho
          exact (if_pos hfaults).mpr ⟨_, hreleases.fresh.renders, ho⟩
        · rw [resolve_of_unreleased path pretty hr hfaults, Outcome.after_failed,
            unreleased_eq] at ho
          exact (if_neg hfaults).mpr ho

/-- A text is read from the bytes of a file that holds it. -/
theorem readFile_ofString {α : Type} (shape : Tree → Shaped α) (path text : String)
    (lookup : Lookup) : Document.readFile shape path (.ok (Bytes.ofString text)) lookup =
      Document.read shape (Document.Format.ofPath path) lookup text := by
  have htext : Document.textOf (.ok (Bytes.ofString text)) = .ok text := by
    simp [Document.textOf, bind, Except.bind, Bytes.toString?_ofString]
  rw [Document.readFile, htext]

/-- A program with the sample plugins. -/
def sampled : Program where
  registrations := Sample.registrations

/-- Every file holds a document with periodic readers for the given exporters. -/
def holding (exporters : List String) : Surroundings where
  env _ := none
  file _ := .ok (Bytes.ofString ("file_format: '1.0'\nmeter_provider:\n readers:\n" ++
    String.join (exporters.map (" - periodic:\n    exporter:\n     " ++ · ++ "\n"))))

/-- The second exporter is that of an unknown provider. -/
def otherSecond : Surroundings := holding ["otlp:", "other:"]

/-- Two exporters of plugins, which both fail to be closed. -/
def bothStuck : Surroundings :=
  holding ["test:\n      close_error: stuck", "twin:\n      close_error: busy"]

/-- The two exporters that are built in. -/
def bothBuiltIn : Surroundings := holding ["console:", "otlp:"]

/-- A second exporter that is not made, two that fail to be closed, and two that are shown. -/
theorem validate_sampled :
    (∃ c logged, Document.readFile Configuration.ofTree "a.yaml" (otherSecond.file "a.yaml")
        otherSecond.env = .ok c ∧
      (sampled.start.createAll c (.linked 0)).2.closeAll.2.closings = [.channel 0, .exporter 0] ∧
      perform sampled otherSecond (.validate "a.yaml" false) = .failed logged
        ("failed to resolve metric exporters in a.yaml: No component provider detected for " ++
          "otk_exporter::MetricExporter with name \"other\".")) ∧
    (∃ logged, perform sampled bothStuck (.validate "a.yaml" false) = .failed logged
      "failed to release resources: failed to close test: stuck; failed to close twin: busy") ∧
    ∃ logged otlp, perform sampled bothBuiltIn (.validate "a.yaml" false) =
      .succeeded logged false (.node
        [("exporters", .list
          [.text "LoggingMetricExporter \x7b temporality: AlwaysCumulative, shutdown: false \x7d",
            .text otlp]),
          ("file_format", .text "1.0"), ("resources", .int 3)]) := by
  refine ⟨?_, ?_, ?_⟩
  · obtain ⟨c, hc⟩ : ∃ c : Configuration, c =
      .ofNodes [some (.otlp {}), some (.named "other" [])] := ⟨_, rfl⟩
    have hread : Document.readFile Configuration.ofTree "a.yaml" (otherSecond.file "a.yaml")
        otherSecond.env = .ok c := by
      rw [otherSecond, holding, readFile_ofString, hc]
      decide +kernel
    have hmade : (sampled.start.createAll c (.linked 0)).1 =
        .error (.noProvider Store.exporterComponent "other") := by
      rw [hc]
      decide +kernel
    have hleft : (sampled.start.createAll c (.linked 0)).2.resources =
        [.channel 0, .exporter 0] := by
      rw [hc]
      decide +kernel
    obtain ⟨-, h⟩ := validate_accounts sampled otherSecond "a.yaml" false
    rw [hread] at h
    obtain ⟨hreleases, h⟩ := h
    rw [hmade] at h
    exact ⟨c, _, hread, hreleases.closings.trans hleft, h⟩
  · obtain ⟨c, hc⟩ : ∃ c : Configuration, c =
      .ofNodes [some (.named "test" [("close_error", .text "stuck")]),
        some (.named "twin" [("close_error", .text "busy")])] := ⟨_, rfl⟩
    have hread : Document.readFile Configuration.ofTree "a.yaml" (bothStuck.file "a.yaml")
        bothStuck.env = .ok c := by
      rw [bothStuck, holding, readFile_ofString, hc]
      decide +kernel
    have hmade : (sampled.start.createAll c (.linked 0)).1 = .ok [0, 1] := by
      rw [hc]
      decide +kernel
    have hfaults : (sampled.start.createAll c (.linked 0)).2.closeAll.1 =
        [⟨"test", "stuck"⟩, ⟨"twin", "busy"⟩] := by
      rw [hc]
      decide +kernel
    obtain ⟨-, h⟩ := validate_accounts sampled bothStuck "a.yaml" false
    rw [hread] at h
    obtain ⟨-, h⟩ := h
    rw [hmade, hfaults] at h
    exact ⟨_, h.2⟩
  · obtain ⟨c, hc⟩ : ∃ c : Configuration, c = .ofNodes [some .console, some (.otlp {})] :=
      ⟨_, rfl⟩
    have hread : Document.readFile Configuration.ofTree "a.yaml" (bothBuiltIn.file "a.yaml")
        bothBuiltIn.env = .ok c := by
      rw [bothBuiltIn, holding, readFile_ofString, hc]
      decide +kernel
    have hmade : (sampled.start.createAll c (.linked 0)).1 = .ok [0, 1] := by
      rw [hc]
      decide +kernel
    have hfaults : (sampled.start.createAll c (.linked 0)).2.closeAll.1 = [] := by
      rw [hc]
      decide +kernel
    have hexporters : (sampled.start.createAll c (.linked 0)).2.exporters =
        [.console ⟨.alwaysCumulative, false⟩, .otlp ⟨{}, 0, false⟩] := by
      rw [hc]
      rfl
    obtain ⟨-, h⟩ := validate_accounts sampled bothBuiltIn "a.yaml" false
    rw [hread] at h
    obtain ⟨-, h⟩ := h
    rw [hmade, hfaults] at h
    obtain ⟨-, renderings, hrenderings, h⟩ := h
    rw [hexporters] at hrenderings
    obtain _ | ⟨⟨_⟩, _ | ⟨hotlp, ⟨⟩⟩⟩ := hrenderings
    have hconsole : "LoggingMetricExporter \x7b temporality: " ++
        TemporalitySelector.alwaysCumulative.name ++ ", shutdown: " ++ "false" ++ " \x7d" =
          "LoggingMetricExporter \x7b temporality: AlwaysCumulative, shutdown: false \x7d" := by
      decide
    rw [hconsole, hc] at h
    exact ⟨_, _, h⟩

end Command

end Telemetry
