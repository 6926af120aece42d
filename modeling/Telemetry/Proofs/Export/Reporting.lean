import Telemetry.Proofs.Export.Journal
import Telemetry.Proofs.Export.Sight
import Telemetry.Proofs.Text.Cutting

/-!
# What console exporters report

* `Store.reports`: the events of exported points that were logged.
* `Metric.Reports`: an event that shows a point of a metric.
* `Store.useAll`: an exporter is used again and again.
* `use_console_reports`: what one use of a console exporter reports.
* **`useAll_console`**: each point is reported once until the exporter is shut down or closed, and
  nothing after that.
-/

namespace Telemetry

/-- An event shows a point of a metric: its metric with instrument and unit, its value and its
attributes. -/
structure Metric.Reports (m : Metric) (p : Point) (e : Log.Event) : Prop where
  target : e.target = "otk.export"
  level : e.level = .info
  message : e.message = "metric"
  names : e.fields.map Prod.fst = ["metric", "instrument", "unit", "value", "attributes"]
  metric : e.fields.lookup "metric" = some (.plain m.name)
  instrument : e.fields.lookup "instrument" = some (.quoted m.instrument.name)
  unit : e.fields.lookup "unit" = some (.plain m.unit)
  value : e.fields.lookup "value" = some (.double p.value)
  attributes : e.fields.lookup "attributes" =
    some (.plain (", ".intercalate (p.attributes.map fun a => a.key ++ "=" ++ a.value.render)))

theorem reports_pointEvent (m : Metric) (p : Point) : m.Reports p (Store.pointEvent m p) where
  target := rfl
  level := rfl
  message := rfl
  names := rfl
  metric := rfl
  instrument := rfl
  unit := rfl
  value := rfl
  attributes := by
    rw [← joined_eq_intercalate]
    rfl

/-- The event of an exported point that a notice is about. -/
def Notice.report? : Notice → Option Log.Event
  | .logged e => if e.target = Store.exportTarget then some e else none
  | _ => none

/-! ## Uses -/

/-- The points that a use hands over, with their metrics, in order. -/
def Use.points : Use → List (Metric × Point)
  | .export metrics => metrics.flatMap fun m => m.points.map fun p => (m, p)
  | _ => []

/-- Whether an exporter goes on after a use: all but two of them leave it open. -/
def Use.leavesOpen : Use → Bool
  | .shutdown | .close => false
  | _ => true

/-- The answer of an exporter that has ended. -/
def Use.refusal : Use → Answer
  | .export _ => .exported (.error .shutdown)
  | u => u.idle

/-- What ends an exporter is never refused, and hands over no points. -/
theorem Use.of_leavesOpen_eq_false {u : Use} (h : u.leavesOpen = false) :
    u.refusal = u.idle ∧ u.points = [] := by
  cases u with
  | shutdown => exact ⟨rfl, rfl⟩
  | close => exact ⟨rfl, rfl⟩
  | _ => cases h

namespace Store

/-- The events of exported points that were logged, in order. -/
def reports (s : Store) : List Log.Event := s.journal.filterMap Notice.report?

/-- Uses an exporter again and again, and gives the answers. -/
def useAll (number : Nat) : List Use → Store → List Answer × Store
  | [], s => ([], s)
  | u :: rest, s =>
    let (answer, s) := s.use number u
    let (answers, s) := useAll number rest s
    (answer :: answers, s)

variable {s : Store} {number : Nat} {e : ConsoleExporter}

theorem reports_logAll_pointEvents (metrics : List Metric) (s : Store) :
    (s.logAll (pointEvents metrics)).reports =
      s.reports ++ (Use.export metrics).points.map fun q => pointEvent q.1 q.2 := by
  have hreport : ∀ q : Metric × Point,
      (Notice.logged (pointEvent q.1 q.2)).report? = some (pointEvent q.1 q.2) := fun _ => rfl
  have hevents : pointEvents metrics =
      (Use.export metrics).points.map fun q => pointEvent q.1 q.2 := by
    simp only [pointEvents, Use.points, List.map_flatMap, List.map_map]
    rfl
  rw [hevents, reports, logAll, List.filterMap_append, List.map_map, List.filterMap_map]
  simp only [Function.comp_def, hreport, List.filterMap_eq_map']
  rfl

theorem reports_shutdown_console (he : s.exporters[number]? = some (.console e)) :
    (s.shutdown number).2.reports = s.reports := by
  rw [shutdown, he]
  dsimp only
  split_ifs
  · exact (notes_note (P := fun n => n.report? = none) rfl s).filterMap_journal fun _ h => h
  · rfl

/-- **What one use reports**: each point that is exported, unless the exporter has ended. -/
theorem use_console_reports (he : s.exporters[number]? = some (.console e)) (u : Use) :
    (s.use number u).2.reports = s.reports ++
      if e.isShutdown then [] else u.points.map fun q => pointEvent q.1 q.2 := by
  have hchannel : s.channelOf? number = none := by
    rw [channelOf?, he]
  have hnone : s.reports ++ (if e.isShutdown then [] else []) = s.reports := by
    rw [ite_self, List.append_nil]
  cases u with
  | «export» metrics =>
    have hexport : s.export number metrics = s.exportConsole e metrics := by
      rw [Store.export, he]
    simp only [use, hexport, exportConsole, Prod.map, id]
    split_ifs
    · exact (List.append_nil _).symm
    · exact reports_logAll_pointEvents metrics s
  | flush => exact hnone.symm
  | shutdown => exact (reports_shutdown_console he).trans hnone.symm
  | close =>
    have hclose : s.close number = (.ok (), (s.shutdown number).2) :=
      close_eq_shutdown fun p hp => by cases he.symm.trans hp
    simp only [use, hclose, Prod.map, id]
    exact (reports_shutdown_console he).trans hnone.symm
  | send r =>
    simp only [use, hchannel]
    exact hnone.symm
  | closeChannel =>
    simp only [use, hchannel]
    exact hnone.symm

/-- What a console exporter answers, and what becomes of it. -/
theorem use_sight_console (e : ConsoleExporter) (u : Use) :
    (Sight.console e).use u = (if e.isShutdown then u.refusal else u.idle,
      .console (if u.leavesOpen then e else { e with isShutdown := true })) := by
  cases u with
  | «export» metrics =>
    cases h : e.isShutdown <;> simp [Sight.use, Use.refusal, Use.idle, Use.leavesOpen, h]
  | _ => simp [Sight.use, Use.refusal, Use.idle, Use.leavesOpen]

theorem use_console_answers (he : s.exporters[number]? = some (.console e)) (u : Use) :
    (s.use number u).1 = (if e.isShutdown then u.refusal else u.idle) ∧
      (s.use number u).2.exporters[number]? =
        some (.console (if u.leavesOpen then e else { e with isShutdown := true })) := by
  obtain ⟨hanswer, hsight⟩ := use_console he u
  rw [use_sight_console] at hanswer hsight
  refine ⟨hanswer, ?_⟩
  obtain ⟨e', he', h⟩ := Option.map_eq_some_iff.1 hsight
  cases e' with
  | console c => rw [he', Sight.console.inj h]
  | otlp o => cases h
  | plugin p => cases h

/-! ## Runs -/

/-- An exporter that has ended reports nothing any more. -/
theorem useAll_of_isShutdown (he : s.exporters[number]? = some (.console e))
    (hdown : e.isShutdown = true) (uses : List Use) :
    (s.useAll number uses).1 = uses.map Use.refusal ∧
      (s.useAll number uses).2.reports = s.reports := by
  induction uses generalizing s with
  | nil => exact ⟨rfl, rfl⟩
  | cons u rest ih =>
    obtain ⟨hanswer, hnext⟩ := use_console_answers he u
    have hreports := use_console_reports he u
    have hsame : (if u.leavesOpen then e else { e with isShutdown := true }) = e := by
      rw [← hdown, ite_self]
    rw [hdown, if_pos rfl] at hanswer hreports
    rw [hsame] at hnext
    obtain ⟨hanswers, hrest⟩ := ih hnext
    refine ⟨?_, ?_⟩
    · rw [useAll, List.map_cons]
      dsimp only
      rw [hanswer, hanswers]
    · exact hrest.trans (hreports.trans (List.append_nil _))

/-- Until an exporter ends it reports what is exported, and answers that all is well. -/
theorem useAll_of_not_isShutdown (he : s.exporters[number]? = some (.console e))
    (hup : e.isShutdown = false) (uses : List Use) :
    (s.useAll number uses).1 = (uses.takeWhile Use.leavesOpen).map Use.idle ++
        (uses.dropWhile Use.leavesOpen).map Use.refusal ∧
      (s.useAll number uses).2.reports = s.reports ++
        ((uses.takeWhile Use.leavesOpen).flatMap Use.points).map
          fun q => pointEvent q.1 q.2 := by
  induction uses generalizing s with
  | nil => exact ⟨rfl, (List.append_nil _).symm⟩
  | cons u rest ih =>
    obtain ⟨hanswer, hnext⟩ := use_console_answers he u
    have hreports := use_console_reports he u
    rw [hup, if_neg Bool.false_ne_true] at hanswer hreports
    cases hopen : u.leavesOpen with
    | true =>
      rw [hopen, if_pos rfl] at hnext
      obtain ⟨hanswers, hrest⟩ := ih hnext
      rw [List.takeWhile_cons_of_pos hopen, List.dropWhile_cons_of_pos hopen, useAll]
      dsimp only
      rw [hanswer, hanswers, hrest, hreports, List.flatMap_cons, List.map_append,
        List.append_assoc]
      exact ⟨rfl, rfl⟩
    | false =>
      have hends : ¬ u.leavesOpen = true := Bool.eq_false_iff.1 hopen
      rw [hopen, if_neg Bool.false_ne_true] at hnext
      obtain ⟨hanswers, hrest⟩ := useAll_of_isShutdown hnext rfl rest
      obtain ⟨hidle, hpoints⟩ := Use.of_leavesOpen_eq_false hopen
      rw [List.takeWhile_cons_of_neg hends, List.dropWhile_cons_of_neg hends, useAll]
      dsimp only
      rw [hanswer, hanswers, hrest, hreports, hpoints, List.map_cons, hidle]
      exact ⟨rfl, rfl⟩

/-- **A console exporter reports each point once until it ends**, and nothing after that: exports
are refused, all other uses succeed. -/
theorem useAll_console (he : s.exporters[number]? = some (.console e))
    (hup : e.isShutdown = false) (uses : List Use) :
    let live := uses.takeWhile Use.leavesOpen
    let ended := uses.dropWhile Use.leavesOpen
    (s.useAll number uses).1 = live.map Use.idle ++ ended.map Use.refusal ∧
      ∃ reported, (s.useAll number uses).2.reports = s.reports ++ reported ∧
        List.Forall₂ (fun q event => q.1.Reports q.2 event) (live.flatMap Use.points) reported := by
  intro live ended
  obtain ⟨hanswers, hreports⟩ := useAll_of_not_isShutdown he hup uses
  refine ⟨hanswers, _, hreports, ?_⟩
  rw [List.forall₂_map_right_iff, List.forall₂_same]
  exact fun q _ => reports_pointEvent q.1 q.2

/-- A histogram with two points, of which one has an attribute. -/
def sizes : Metric where
  name := "sizes"
  instrument := .histogram
  points := [{ value := .ofInt 1 },
    { value := .ofInt 2, attributes := [⟨"kind", .list [.bool true]⟩] }]

/-- Two points are exported before the exporter is closed. They are reported once, and later exports
are refused. -/
theorem useAll_console_closed :
    sharedChannel.exporters[2]? = some (.console {}) ∧
      (sharedChannel.useAll 2 [.export [{ sizes with points := [] }, sizes], .flush, .close,
          .export [sizes], .shutdown]).1 =
        [.exported (.ok ()), .exported (.ok ()), .closed (.ok ()), .exported (.error .shutdown),
          .exported (.ok ())] ∧
      ∃ first second, (sharedChannel.useAll 2 [.export [{ sizes with points := [] }, sizes], .flush,
          .close, .export [sizes], .shutdown]).2.reports = [first, second] ∧
        first.fields.lookup "value" = some (.double (.ofInt 1)) ∧
        second.fields.lookup "attributes" = some (.plain "kind=[true]") := by
  have he : sharedChannel.exporters[2]? = some (.console {}) := rfl
  obtain ⟨hanswers, reported, hreports, hpoints⟩ := useAll_console he rfl
    [.export [{ sizes with points := [] }, sizes], .flush, .close, .export [sizes], .shutdown]
  refine ⟨he, hanswers, ?_⟩
  obtain ⟨first, _, hfirst, hrest, rfl⟩ := List.forall₂_cons_left_iff.1 hpoints
  obtain ⟨second, _, hsecond, hnil, rfl⟩ := List.forall₂_cons_left_iff.1 hrest
  cases hnil
  exact ⟨first, second, hreports, hfirst.value, hsecond.attributes⟩

end Store

end Telemetry
