import Telemetry.Plugin.Sample
import Telemetry.Proofs.Export.Decoding
import Telemetry.Proofs.Export.Ending

/-!
# What exporting comes to

* `Store.fst_send`, `Store.sameObjects_send`: sending a request is up to the channel, and changes
  nothing else.
* `Request.tree_of_histogram`: metrics with a histogram make no request, and the first one is named.
* `Otlp.Plan.Says`, `Otlp.Plan.Packs`: the text of metrics, and what is made of it.
* `Store.Exports`: what exporting comes to, by the first thing that stands in its way.
* **`export_exports`**: exporting comes to just this. Either one request is sent, which carries all
  metrics, or nothing changes.
-/

namespace Telemetry

/-! ## Sending -/

theorem Channel.send_of_recording {c : Channel} {last : Option Request} (hopen : c.isClosed = false)
    (h : c.transport = .recording last) (r : Request) :
    c.send r = (.ok (), { c with transport := .recording (some r) }) := by
  rw [send, hopen, h]
  rfl

theorem Channel.send_of_failing {c : Channel} {reason : String} (hopen : c.isClosed = false)
    (h : c.transport = .failing reason) (r : Request) :
    c.send r = (.error (.transport reason), c) := by
  rw [send, hopen, h]
  rfl

namespace Store

theorem setChannel_channel (number : Nat) (s : Store) :
    s.SameObjects (s.setChannel number (s.channel number)) := by
  refine ⟨?_, rfl, rfl⟩
  change s.channels.set number ((s.channels[number]?).getD {}) = s.channels
  by_cases h : number < s.channels.length
  · rw [List.getElem?_eq_getElem h, Option.getD_some, List.set_getElem_self]
  · rw [List.set_eq_of_length_le (by omega)]

theorem fst_send (number : Nat) (r : Request) (s : Store) :
    (s.send number r).1 = ((s.channel number).send r).1 := by
  unfold send
  obtain ⟨_ | _, c⟩ := (s.channel number).send r <;> rfl

theorem sameObjects_send (number : Nat) (r : Request) (s : Store) :
    (s.setChannel number ((s.channel number).send r).2).SameObjects (s.send number r).2 := by
  unfold send
  obtain ⟨_ | _, c⟩ := (s.channel number).send r <;> exact ⟨rfl, rfl, rfl⟩

end Store

/-! ## Bodies -/

/-- Of several histograms the first one is named. -/
theorem Request.tree_of_histogram (selector : TemporalitySelector) {before after : List Metric}
    {m : Metric} (hbefore : ∀ b ∈ before, b.instrument ≠ .histogram)
    (hm : m.instrument = .histogram) :
    Request.tree selector (before ++ m :: after) =
      .error (.unsupportedInstrument m.name .histogram) := by
  have htrees : before.mapM (Metric.requestTree selector) =
      .ok ((before.map (Metric.stream selector)).map Stream.requestTree) := by
    rw [List.map_map, mapM_eq_ok, List.forall₂_map_right_iff, List.forall₂_same]
    exact fun b hb => Metric.requestTree_eq_ok selector (hbefore b hb)
  have hfault : m.requestTree selector = .error (.unsupportedInstrument m.name .histogram) := by
    rw [Metric.requestTree, hm]
  rw [Request.tree, List.mapM_append, htrees, List.mapM_cons, hfault]
  rfl

theorem Metric.forall_ne_or_exists_histogram (metrics : List Metric) :
    (∀ m ∈ metrics, m.instrument ≠ .histogram) ∨
      ∃ before m after, metrics = before ++ m :: after ∧
        (∀ b ∈ before, b.instrument ≠ .histogram) ∧ m.instrument = .histogram := by
  cases h : metrics.find? fun m => m.instrument == .histogram with
  | none =>
    rw [List.find?_eq_none] at h
    exact .inl (by simpa using h)
  | some m =>
    obtain ⟨hm, before, after, hmetrics, hbefore⟩ := List.find?_eq_some_iff_append.1 h
    exact .inr ⟨before, m, after, hmetrics, by simpa using hbefore, by simpa using hm⟩

namespace Otlp.Plan

/-- The request of a body with its encoding: endpoint, headers and timeout are those of the plan, and
the content type is that of JSON whatever the protocol. -/
def request (plan : Plan) (encoding : Option String) (body : Bytes) : Request where
  endpoint := plan.endpoint
  headers := plan.headers
  contentType := "application/json"
  contentEncoding := encoding
  timeout := plan.timeout
  body

/-- The text is the JSON text of the request of metrics. -/
def Says (plan : Plan) (metrics : List Metric) (text : Bytes) : Prop :=
  ∃ tree, Request.tree plan.temporality metrics = .ok tree ∧ text = Bytes.ofString tree.toJson

/-- What a text is packed into, and the encoding of it. -/
inductive Packs (plan : Plan) (text : Bytes) : Option String → Bytes → Prop
  | plain : plan.compressor = none → Packs plan text none text
  | compressed {z : Compressor} {body : Bytes} :
      plan.compressor = some z → z.compress text = .ok body →
        Packs plan text (some z.encoding) body

theorem Packs.requestOf_eq {plan : Plan} {text body : Bytes} {encoding : Option String}
    (h : plan.Packs text encoding body) :
    Store.requestOf plan body = plan.request encoding body := by
  have hencoding : plan.encoding = encoding := by
    cases h with
    | plain hplain => rw [Plan.encoding, hplain, Option.map_none]
    | compressed hz _ => rw [Plan.encoding, hz, Option.map_some]
  rw [Store.requestOf, hencoding]
  rfl

end Otlp.Plan

namespace Store

theorem bodyOf_of_text {plan : Otlp.Plan} {metrics : List Metric} {text : Bytes}
    (h : plan.Says metrics text) :
    bodyOf plan metrics = match plan.compressor with
      | some z => (z.compress text).mapError .compression
      | none => .ok text := by
  obtain ⟨tree, htree, rfl⟩ := h
  rw [bodyOf, htree]
  rfl

theorem bodyOf_of_packs {plan : Otlp.Plan} {metrics : List Metric} {text body : Bytes}
    {encoding : Option String} (h : plan.Says metrics text) (hp : plan.Packs text encoding body) :
    bodyOf plan metrics = .ok body := by
  rw [bodyOf_of_text h]
  cases hp with
  | plain hplain => rw [hplain]
  | compressed hz hbody =>
    rw [hz]
    dsimp only
    rw [hbody]
    rfl

/-! ## Exporting -/

/-- What exporting metrics comes to, and what becomes of the channel. -/
inductive Exports (e : OtlpExporter) (c : Channel) (metrics : List Metric) :
    Except ExportFault Unit → Channel → Prop
  | shutdown : e.isShutdown = true → Exports e c metrics (.error .shutdown) c
  | histogram {before after : List Metric} {m : Metric} :
      e.isShutdown = false → metrics = before ++ m :: after →
        (∀ b ∈ before, b.instrument ≠ .histogram) → m.instrument = .histogram →
          Exports e c metrics (.error (.unsupportedInstrument m.name .histogram)) c
  | compression {text : Bytes} {z : Compressor} {fault : CompressionFault} :
      e.isShutdown = false → (∀ m ∈ metrics, m.instrument ≠ .histogram) →
        e.plan.Says metrics text → e.plan.compressor = some z → z.compress text = .error fault →
          Exports e c metrics (.error (.compression fault)) c
  | closed {text body : Bytes} {encoding : Option String} :
      e.isShutdown = false → (∀ m ∈ metrics, m.instrument ≠ .histogram) →
        e.plan.Says metrics text → e.plan.Packs text encoding body → c.isClosed = true →
          Exports e c metrics (.error .shutdown) c
  | failed {text body : Bytes} {encoding : Option String} {reason : String} :
      e.isShutdown = false → (∀ m ∈ metrics, m.instrument ≠ .histogram) →
        e.plan.Says metrics text → e.plan.Packs text encoding body → c.isClosed = false →
          c.transport = .failing reason → Exports e c metrics (.error (.transport reason)) c
  | sent {text body : Bytes} {encoding : Option String} {last : Option Request} :
      e.isShutdown = false → (∀ m ∈ metrics, m.instrument ≠ .histogram) →
        e.plan.Says metrics text → e.plan.Packs text encoding body → c.isClosed = false →
          c.transport = .recording last →
            Exports e c metrics (.ok ())
              { c with transport := .recording (some (e.plan.request encoding body)) }

variable {s : Store} {e : OtlpExporter} {metrics : List Metric}

/-- Something comes of exporting, whatever the exporter, the channel and the metrics. -/
theorem exists_exports (e : OtlpExporter) (c : Channel) (metrics : List Metric) :
    ∃ outcome after, Exports e c metrics outcome after := by
  cases hup : e.isShutdown with
  | true => exact ⟨_, _, .shutdown hup⟩
  | false =>
    obtain hms | ⟨before, m, after, hmetrics, hbefore, hm⟩ :=
      Metric.forall_ne_or_exists_histogram metrics
    · obtain ⟨text, htext⟩ : ∃ text, e.plan.Says metrics text :=
        ⟨_, _, Request.tree_eq_ok e.plan.temporality hms, rfl⟩
      have hpacked : ∀ encoding body, e.plan.Packs text encoding body →
          ∃ outcome after, Exports e c metrics outcome after := by
        intro encoding body hpacks
        cases hclosed : c.isClosed with
        | true => exact ⟨_, _, .closed hup hms htext hpacks hclosed⟩
        | false =>
          cases htransport : c.transport with
          | recording last => exact ⟨_, _, .sent hup hms htext hpacks hclosed htransport⟩
          | failing reason => exact ⟨_, _, .failed hup hms htext hpacks hclosed htransport⟩
      cases hz : e.plan.compressor with
      | none => exact hpacked none text (.plain hz)
      | some z =>
        cases hbody : z.compress text with
        | error fault => exact ⟨_, _, .compression hup hms htext hz hbody⟩
        | ok body => exact hpacked (some z.encoding) body (.compressed hz hbody)
    · exact ⟨_, _, .histogram hup hmetrics hbefore hm⟩

/-- What is packed is sent, if the channel lets it through. -/
theorem exportOtlp_of_packs {text body : Bytes} {encoding : Option String}
    (hup : e.isShutdown = false) (htext : e.plan.Says metrics text)
    (hpacks : e.plan.Packs text encoding body) :
    let sent := (s.channel e.channel).send (e.plan.request encoding body)
    (s.exportOtlp e metrics).1 = sent.1 ∧
      (s.setChannel e.channel sent.2).SameObjects (s.exportOtlp e metrics).2 := by
  intro sent
  have hexport : s.exportOtlp e metrics = (s.log (exporting e.plan metrics body)).send e.channel
      (e.plan.request encoding body) := by
    rw [exportOtlp, hup, bodyOf_of_packs htext hpacks, ← hpacks.requestOf_eq]
    rfl
  -- the event that is logged first changes no channel
  have hlogged : (s.setChannel e.channel sent.2).SameObjects
      ((s.log (exporting e.plan metrics body)).setChannel e.channel sent.2) := ⟨rfl, rfl, rfl⟩
  rw [hexport]
  exact ⟨fst_send _ _ _, hlogged.trans (sameObjects_send _ _ _)⟩

/-- Nothing is sent without a body. -/
theorem exportOtlp_of_error {fault : ExportFault} (hup : e.isShutdown = false)
    (h : bodyOf e.plan metrics = .error fault) : s.exportOtlp e metrics = (.error fault, s) := by
  rw [exportOtlp, hup, h]
  rfl

/-- What comes of exporting is the outcome, and what becomes of the channel is all that changes. -/
theorem Exports.exportOtlp_eq {outcome : Except ExportFault Unit} {after : Channel}
    (h : Exports e (s.channel e.channel) metrics outcome after) :
    (s.exportOtlp e metrics).1 = outcome ∧
      (s.setChannel e.channel after).SameObjects (s.exportOtlp e metrics).2 := by
  have hsame : (s.setChannel e.channel (s.channel e.channel)).SameObjects s :=
    (setChannel_channel e.channel s).symm
  cases h with
  | shutdown hdown =>
    rw [exportOtlp, if_pos hdown]
    exact ⟨rfl, hsame⟩
  | @histogram _ after m hup hmetrics hbefore hm =>
    have hbody : bodyOf e.plan metrics = .error (.unsupportedInstrument m.name .histogram) := by
      rw [bodyOf, hmetrics, Request.tree_of_histogram e.plan.temporality hbefore hm]
      rfl
    rw [exportOtlp_of_error hup hbody]
    exact ⟨rfl, hsame⟩
  | @compression _ _ fault hup hms htext hz hfault =>
    have hbody : bodyOf e.plan metrics = .error (.compression fault) := by
      rw [bodyOf_of_text htext, hz]
      dsimp only
      rw [hfault]
      rfl
    rw [exportOtlp_of_error hup hbody]
    exact ⟨rfl, hsame⟩
  | closed hup hms htext hpacks hclosed =>
    have hsent := exportOtlp_of_packs (s := s) hup htext hpacks
    rw [Channel.send_of_isClosed hclosed] at hsent
    exact hsent
  | failed hup hms htext hpacks hopen htransport =>
    have hsent := exportOtlp_of_packs (s := s) hup htext hpacks
    rw [Channel.send_of_failing hopen htransport] at hsent
    exact hsent
  | sent hup hms htext hpacks hopen htransport =>
    have hsent := exportOtlp_of_packs (s := s) hup htext hpacks
    rw [Channel.send_of_recording hopen htransport] at hsent
    exact hsent

theorem Exports.eq_of_error {c after : Channel} {fault : ExportFault}
    (h : Exports e c metrics (.error fault) after) :
    after = c ∧ ∀ reason, fault ≠ .unwritable reason := by
  cases h <;> exact ⟨rfl, nofun⟩

/-- **Exporting is all or nothing.** The first thing that stands in its way is the outcome;
otherwise one request with all metrics goes through. -/
theorem export_exports {number : Nat} (he : s.exporters[number]? = some (.otlp e))
    (hc : e.channel < s.channels.length) (metrics : List Metric) :
    let r := s.export number metrics
    (∀ outcome after, Exports e (s.channel e.channel) metrics outcome after ↔
      outcome = r.1 ∧ after = r.2.channel e.channel) ∧
    (∀ n, n ≠ e.channel → r.2.channel n = s.channel n) ∧
    r.2.exporters = s.exporters ∧
    r.2.resources = s.resources ∧
    (∀ fault, r.1 = .error fault → s.SameObjects r.2) ∧
    ∀ reason, r.1 ≠ .error (.unwritable reason) := by
  intro r
  have hr : r = s.exportOtlp e metrics := by
    change s.export number metrics = _
    rw [Store.export, he]
  have hcomes : ∀ {outcome after}, Exports e (s.channel e.channel) metrics outcome after →
      r.1 = outcome ∧ (s.setChannel e.channel after).SameObjects r.2 := by
    rw [hr]
    exact fun h => h.exportOtlp_eq
  have hafter : ∀ {after}, (s.setChannel e.channel after).SameObjects r.2 →
      r.2.channel e.channel = after := fun h => by
    rw [h.channel, channel_setChannel, if_pos ⟨rfl, hc⟩]
  obtain ⟨outcome, after, h⟩ := exists_exports e (s.channel e.channel) metrics
  obtain ⟨houtcome, hsame⟩ := hcomes h
  refine ⟨fun outcome' after' => ⟨fun h' => ?_, ?_⟩, ?_, hsame.exporters, hsame.resources, ?_, ?_⟩
  · obtain ⟨houtcome', hsame'⟩ := hcomes h'
    exact ⟨houtcome'.symm, (hafter hsame').symm⟩
  · rintro ⟨rfl, rfl⟩
    rw [houtcome, hafter hsame]
    exact h
  · intro n hn
    rw [hsame.channel, channel_setChannel, if_neg fun h => hn h.1.symm]
  · intro fault hfault
    rw [houtcome] at hfault
    subst hfault
    rw [h.eq_of_error.1] at hsame
    exact (setChannel_channel e.channel s).trans hsame
  · intro reason hfault
    rw [houtcome] at hfault
    subst hfault
    exact h.eq_of_error.2 reason rfl

/-- An exporter that compresses and has an open channel, and one with a compressor that fails and a
channel that is closed. -/
def relays : Store where
  channels := [{}, { isClosed := true }]
  exporters := [
    .otlp { plan := { headers := [("tenant", "a"), ("tenant", "b")],
                      compressor := some (Sample.compressor "rev" "reverse") }, channel := 0 },
    .otlp { plan := { compressor := some (Sample.compressor "rev" "fail") }, channel := 1 }]

/-- What goes through the open channel is compressed. The first of two histograms counts for more
than all that would fail later. -/
theorem export_through_relays :
    let jobs : Metric := { name := "jobs", instrument := .upDownCounter }
    let latency : Metric := { name := "latency", instrument := .histogram }
    let size : Metric := { name := "size", instrument := .histogram }
    0 < relays.channels.length ∧ 1 < relays.channels.length ∧
      (∃ tree, Request.tree .alwaysCumulative [jobs] = .ok tree ∧
        (relays.export 0 [jobs]).1 = .ok () ∧
        ((relays.export 0 [jobs]).2.channel 0).last = some {
          endpoint := "http://localhost:4318/v1/metrics"
          headers := [("tenant", "a"), ("tenant", "b")]
          contentType := "application/json"
          contentEncoding := some "rev"
          timeout := 10000
          body := (Bytes.ofString tree.toJson).reverse }) ∧
      (relays.export 1 [jobs, latency, size]).1 =
        .error (.unsupportedInstrument "latency" .histogram) ∧
      relays.SameObjects (relays.export 1 [jobs, latency, size]).2 := by
  intro jobs latency size
  have hzero : 0 < relays.channels.length := by decide
  have hone : 1 < relays.channels.length := by decide
  refine ⟨hzero, hone, ?_, ?_⟩
  · have he : relays.exporters[0]? = some (.otlp _) := rfl
    obtain ⟨hcomes, -⟩ := export_exports he hzero [jobs]
    obtain ⟨tree, htree⟩ : ∃ tree, Request.tree .alwaysCumulative [jobs] = .ok tree := ⟨_, rfl⟩
    obtain ⟨hok, hchannel⟩ := (hcomes _ _).1 (.sent rfl (by decide) ⟨tree, htree, rfl⟩
      (.compressed rfl rfl) rfl rfl)
    exact ⟨tree, htree, hok.symm, hchannel ▸ rfl⟩
  · have he : relays.exporters[1]? = some (.otlp _) := rfl
    obtain ⟨hcomes, -, -, -, hsame, -⟩ := export_exports he hone [jobs, latency, size]
    have hbefore : ∀ b ∈ [jobs], b.instrument ≠ .histogram := by decide
    obtain ⟨hfault, -⟩ := (hcomes _ _).1 (.histogram rfl rfl hbefore rfl)
    exact ⟨hfault.symm, hsame _ hfault.symm⟩

end Store

end Telemetry
