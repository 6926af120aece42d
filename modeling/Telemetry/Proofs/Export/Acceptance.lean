import Telemetry.Proofs.Compression.Resolution
import Telemetry.Proofs.Configuration.Properties
import Telemetry.Proofs.Export.Accounting
import Telemetry.Proofs.Text.Cutting

/-!
# Which settings of OTLP exporters are accepted

* `OtlpSettings.Valid`, `OtlpSettings.Refused`: what settings have to be, and the message for those
  that are not, by the first condition they break.
* `Otlp.Plan.Carries`: what a plan has from settings, each part from its own ones.
* `Checks`: a step that succeeds under a condition. Steps in a row check all of their conditions
  (`Checks.bind`), and along a list the first element that fails decides (`Checks.mapM`).
* `Otlp.Plan.ofView_checks`: the settings of a view are checked, and carried by its plan.
* **`createExporter_otlp`**: an exporter is made of valid settings and carries them; all others are
  refused.
-/

namespace Telemetry

/-! ## Valid settings -/

namespace OtlpSettings

/-- What stands between the commas of the list of headers and is not blank. -/
def segments (m : OtlpSettings) : List (List Char) :=
  match m.headersList with
  | none => []
  | some list => (list.toList.splitOn ',').filter fun segment => segment.any fun c => !isBlank c

/-- The protocol is one of two. -/
def ProtocolValid (m : OtlpSettings) : Prop :=
  ∀ name ∈ m.protocol, name = "http/protobuf" ∨ name = "http/json"

/-- What stands between commas is a pair, or blank. -/
def HeadersListValid (m : OtlpSettings) : Prop := ∀ segment ∈ m.segments, '=' ∈ segment

/-- The method is the one that does not compress, gzip, or that of a compressor that was found. -/
def CompressionValid (found : List Compressor) (m : OtlpSettings) : Prop :=
  ∀ method ∈ m.compression, Compression.Known found method

/-- The timeout is not negative. -/
def TimeoutValid (m : OtlpSettings) : Prop := ∀ n ∈ m.timeout, 0 ≤ n.toInt

/-- A client has both a key and a certificate or none. -/
def ClientTlsValid (m : OtlpSettings) : Prop := m.clientKey.isSome = m.clientCertificate.isSome

/-- The preference is one of three. -/
def TemporalityValid (m : OtlpSettings) : Prop :=
  ∀ preference ∈ m.temporalityPreference,
    preference = "cumulative" ∨ preference = "delta" ∨ preference = "lowmemory"

/-- The conditions on settings, in the order in which they are checked. -/
structure Valid (found : List Compressor) (m : OtlpSettings) : Prop where
  protocol : m.ProtocolValid
  headersList : m.HeadersListValid
  compression : m.CompressionValid found
  timeout : m.TimeoutValid
  clientTls : m.ClientTlsValid
  temporality : m.TemporalityValid

/-- The message of the first condition that settings break. -/
inductive Refused (found : List Compressor) (m : OtlpSettings) : String → Prop
  | protocol {name : String} : ¬ m.ProtocolValid → m.protocol = some name →
      Refused found m ("Unsupported protocol \x22" ++ name ++ "\x22.")
  | headersList {before after : List (List Char)} {segment : List Char} :
      m.ProtocolValid → m.segments = before ++ segment :: after → (∀ s ∈ before, '=' ∈ s) →
        '=' ∉ segment →
          Refused found m ("Invalid headers_list entry \x22" ++
            String.ofList (trimBlank segment) ++ "\x22, expected key=value")
  | compression {known : List String} :
      m.ProtocolValid → m.HeadersListValid → ¬ m.CompressionValid found →
        known.Pairwise (· < ·) →
          (∀ method, method ∈ known ↔ method = "gzip" ∨ ∃ c ∈ found, c.encoding = method) →
            Refused found m ("Unsupported compressionMethod. Compression method must be " ++
              "\x22none\x22 or one of: [" ++ joined "," known ++ "]")
  | timeout {n : Int64} :
      m.ProtocolValid → m.HeadersListValid → m.CompressionValid found →
        ¬ m.TimeoutValid → m.timeout = some n →
          Refused found m ("timeout must be non-negative, found " ++ toString n.toInt)
  | clientTls :
      m.ProtocolValid → m.HeadersListValid → m.CompressionValid found → m.TimeoutValid →
        ¬ m.ClientTlsValid →
          Refused found m "client_key and client_certificate must be set together"
  | temporality {preference : String} :
      m.ProtocolValid → m.HeadersListValid → m.CompressionValid found → m.TimeoutValid →
        m.ClientTlsValid → ¬ m.TemporalityValid → m.temporalityPreference = some preference →
          Refused found m ("Unrecognized aggregation temporality: " ++ preference)

end OtlpSettings

/-- The header of a segment, which is cut at its first `=`. -/
def Otlp.headerOfSegment (segment : List Char) : String × String :=
  (String.ofList (trimBlank (segment.takeWhile (· != '='))),
    String.ofList (trimBlank (segment.dropWhile (· != '=')).tail))

/-- What a plan has from settings: each part is as its own settings say, or as it is without any. -/
structure Otlp.Plan.Carries (found : List Compressor) (m : OtlpSettings) (p : Otlp.Plan) :
    Prop where
  endpoint : p.endpoint = m.endpoint.getD "http://localhost:4318/v1/metrics"
  protocol : p.protocol.name = m.protocol.getD "http/protobuf"
  headers : p.headers = ((m.headers.getD []).map fun h => (h.name, h.value)) ++
    m.segments.map Otlp.headerOfSegment
  compressor : Compression.Names found (m.compression.getD "none") p.compressor
  timeout : (p.timeout : Int) = (m.timeout.map Int64.toInt).getD 10000
  certificate : p.tls.certificate = m.certificate
  clientKey : p.tls.clientKey = m.clientKey
  clientCertificate : p.tls.clientCertificate = m.clientCertificate
  temporality : ∀ i, p.temporality.select i = .delta ↔
    (m.temporalityPreference = some "delta" ∧ i ≠ .upDownCounter ∧ i ≠ .observableUpDownCounter) ∨
      (m.temporalityPreference = some "lowmemory" ∧ (i = .counter ∨ i = .histogram))
  aggregation : ∀ i, p.aggregation.select i = match i, m.defaultHistogramAggregation with
    | .histogram, some .explicitBuckets => .defaultExplicit
    | .histogram, some .exponentialBuckets => .defaultExponential
    | _, _ => .default

/-! ## Checks -/

/-- A step that succeeds where `P` holds, with a result as `Q` has it, and fails elsewhere, with a
message as `R` has it. -/
def Checks {α : Type} (P : Prop) (Q : α → Prop) (R : String → Prop) : Except ConfigFault α → Prop
  | .ok a => P ∧ Q a
  | .error fault => ¬ P ∧ R fault.message

namespace Checks

variable {α β : Type} {P P' : Prop} {Q : α → Prop} {Q' : β → Prop} {R R' : String → Prop}
  {x : Except ConfigFault α} {f : α → Except ConfigFault β}

/-- The message of the first step, `R`, may only be one of the whole, `R'`, where that step fails;
the second step may rely on the first. -/
theorem bind (hx : Checks P Q R x) (hR : ∀ message, ¬ P → R message → R' message)
    (hf : P → ∀ a, Q a → Checks P' Q' R' (f a)) : Checks (P ∧ P') Q' R' (x >>= f) := by
  cases x with
  | error fault => exact ⟨fun h => hx.1 h.1, hR _ hx.1 hx.2⟩
  | ok a =>
    have h := hf hx.1 a hx.2
    change Checks (P ∧ P') Q' R' (f a)
    cases hb : f a with
    | error fault =>
      rw [hb] at h
      exact ⟨fun hp => h.1 hp.2, h.2⟩
    | ok b =>
      rw [hb] at h
      exact ⟨⟨hx.1, h.1⟩, h.2⟩

theorem bind_pure {g : α → β} (hx : Checks P Q R x) :
    Checks P (fun b => ∃ a, Q a ∧ g a = b) R (x >>= fun a => pure (g a)) := by
  cases x with
  | error fault => exact hx
  | ok a => exact ⟨hx.1, a, hx.2, rfl⟩

theorem imp {S : α → Prop} (hx : Checks P Q R x) (hP : P ↔ P') (hQ : P → ∀ a, Q a → S a)
    (hR : ∀ message, ¬ P → R message → R' message) : Checks P' S R' x := by
  cases x with
  | error fault => exact ⟨fun h => hx.1 (hP.2 h), hR _ hx.1 hx.2⟩
  | ok a => exact ⟨hP.1 hx.1, hQ hx.1 a hx.2⟩

/-- Along a list the first element that fails decides. -/
theorem mapM {P : α → Prop} {g : α → β} {R : α → String → Prop}
    (h : ∀ a, Checks (P a) (· = g a) (R a) (f a)) (as : List α) :
    Checks (∀ a ∈ as, P a) (· = as.map g) (fun message => ∃ before a after,
      as = before ++ a :: after ∧ (∀ b ∈ before, P b) ∧ ¬ P a ∧ R a message) (as.mapM f) := by
  induction as with
  | nil => exact ⟨nofun, rfl⟩
  | cons a as ih =>
    have ha := h a
    rw [List.mapM_cons]
    cases hb : f a with
    | error fault =>
      rw [hb] at ha
      exact ⟨fun hall => ha.1 (hall a List.mem_cons_self), [], a, as, rfl, nofun, ha.1, ha.2⟩
    | ok b =>
      rw [hb] at ha
      obtain ⟨ha, rfl⟩ := ha
      cases hbs : as.mapM f with
      | error fault =>
        rw [hbs] at ih
        obtain ⟨hn, before, c, after, rfl, hbefore, hc, hR⟩ := ih
        exact ⟨fun hall => hn fun d hd => hall d (List.mem_cons_of_mem a hd), a :: before, c, after,
          rfl, List.forall_mem_cons.2 ⟨ha, hbefore⟩, hc, hR⟩
      | ok bs =>
        rw [hbs] at ih
        obtain ⟨has, rfl⟩ := ih
        exact ⟨List.forall_mem_cons.2 ⟨ha, has⟩, rfl⟩

end Checks

/-! ## Choices -/

namespace TemporalitySelector

theorem ofPreference?_isSome (preference : String) :
    (ofPreference? preference).isSome = true ↔
      preference = "cumulative" ∨ preference = "delta" ∨ preference = "lowmemory" := by
  rw [ofPreference?]
  split_ifs with hc hd hl <;> simp [*]

/-- Without a preference all instruments report totals. -/
theorem select_eq_delta {preference : Option String} {selector : TemporalitySelector}
    (h : preference.elim (some .alwaysCumulative) ofPreference? = some selector)
    (i : Instrument) : selector.select i = .delta ↔
      (preference = some "delta" ∧ i ≠ .upDownCounter ∧ i ≠ .observableUpDownCounter) ∨
        (preference = some "lowmemory" ∧ (i = .counter ∨ i = .histogram)) := by
  cases preference with
  | none =>
    cases h
    simp [select]
  | some preference =>
    rw [Option.elim_some, ofPreference?] at h
    split_ifs at h with hc hd hl <;> cases h <;> subst preference <;> cases i <;> simp [select]

end TemporalitySelector

theorem Otlp.select_histogramSelector (choice : Option HistogramChoice) (i : Instrument) :
    ((choice.map histogramSelector).getD {}).select i = match i, choice with
      | .histogram, some .explicitBuckets => .defaultExplicit
      | .histogram, some .exponentialBuckets => .defaultExponential
      | _, _ => .default := by
  cases choice with
  | none => cases i <;> rfl
  | some choice => cases choice <;> cases i <;> rfl

/-! ## Headers -/

namespace Otlp

/-- Blanks around a segment do not matter for its header. -/
theorem headerOfPair_checks (segment : List Char) :
    Checks ('=' ∈ segment) (· = headerOfSegment segment)
      (· = "Invalid headers_list entry \x22" ++ String.ofList (trimBlank segment) ++
        "\x22, expected key=value") (headerOfPair (trimBlank segment)) := by
  have hblank : isBlank '=' = false := by decide
  by_cases h : '=' ∈ segment
  · obtain ⟨left, right, hsegment, hleft, hright⟩ := exists_eq_append_trimBlank segment
    obtain ⟨name, value, htrim, hname⟩ :=
      List.eq_append_cons_of_mem ((mem_trimBlank hblank).2 h)
    have hfirst : '=' ∉ left ++ name := fun hmem => by
      obtain hmem | hmem := List.mem_append.1 hmem
      · exact Bool.false_ne_true (hblank.symm.trans (hleft _ hmem))
      · exact hname hmem
    have hparts : segment = (left ++ name) ++ '=' :: (value ++ right) := by
      rw [hsegment, htrim]
      simp only [List.append_assoc, List.cons_append]
    have hheader : headerOfSegment segment =
        (String.ofList (trimBlank name), String.ofList (trimBlank value)) := by
      rw [headerOfSegment, hparts, takeWhile_ne_append hfirst, dropWhile_ne_append hfirst,
        List.tail_cons, trimBlank_append_left hleft, trimBlank_append_right hright]
    rw [headerOfPair, htrim, splitFirst?_append hname, hheader]
    exact ⟨h, rfl⟩
  · rw [headerOfPair, splitFirst?_eq_none (mt (mem_trimBlank hblank).1 h)]
    exact ⟨h, rfl⟩

example : headerOfSegment " a = b=c ".toList = ("a", "b=c") := by decide

variable {view : Properties} {m : OtlpSettings}

theorem mapM_headerOf (h : view.Shows m) :
    ((view.structuredList? "headers").getD []).mapM headerOf =
      .ok ((m.headers.getD []).map fun h => (h.name, h.value)) := by
  rw [h.headers]
  cases m.headers with
  | none => rfl
  | some hs =>
    rw [Option.map_some, Option.getD_some, Option.getD_some, List.mapM_map, mapM_eq_ok,
      List.forall₂_map_right_iff, List.forall₂_same]
    exact fun _ _ => rfl

theorem pairsOf_eq (h : view.Shows m) :
    ((view.text? "headers_list").map pairsOf).getD [] = m.segments.map trimBlank := by
  rw [h.headersList, OtlpSettings.segments]
  cases m.headersList with
  | none => rfl
  | some list =>
    have hany : ∀ s : List Char, (trimBlank s != []) = s.any fun c => !isBlank c := fun s => by
      rw [Bool.eq_iff_iff, bne_iff_ne, Ne, trimBlank_eq_nil]
      simp
    rw [Option.map_some, Option.getD_some, pairsOf, splitOnChar_eq_splitOn, List.filter_map]
    simp only [Function.comp_def, hany]

theorem headersOf_checks (h : view.Shows m) :
    Checks m.HeadersListValid (· = ((m.headers.getD []).map fun h => (h.name, h.value)) ++
        m.segments.map headerOfSegment)
      (fun message => ∃ before segment after, m.segments = before ++ segment :: after ∧
        (∀ s ∈ before, '=' ∈ s) ∧ '=' ∉ segment ∧
          message = "Invalid headers_list entry \x22" ++ String.ofList (trimBlank segment) ++
            "\x22, expected key=value") (headersOf view) := by
  rw [headersOf, mapM_headerOf h, pairsOf_eq h, List.mapM_map]
  have hpairs := Checks.mapM headerOfPair_checks m.segments
  refine hpairs.bind_pure.imp .rfl ?_ fun _ _ => id
  rintro - _ ⟨_, rfl, rfl⟩
  rfl

/-! ## Parts of a plan -/

namespace Plan

theorem withProtocol_checks (h : view.Shows m) (p : Plan) :
    Checks m.ProtocolValid
      (fun q => ∃ protocol : Protocol, protocol.name = m.protocol.getD p.protocol.name ∧
        q = { p with protocol })
      (fun message => ∃ name, m.protocol = some name ∧
        message = "Unsupported protocol \x22" ++ name ++ "\x22.") (withProtocol view p) := by
  unfold withProtocol OtlpSettings.ProtocolValid
  rw [h.protocol]
  cases m.protocol with
  | none => exact ⟨nofun, p.protocol, rfl, rfl⟩
  | some name =>
    by_cases hb : name = "http/protobuf"
    · subst hb
      exact ⟨by simp, .protobuf, rfl, rfl⟩
    by_cases hj : name = "http/json"
    · subst hj
      exact ⟨by simp, .json, rfl, rfl⟩
    have hname : Protocol.ofName? name = none := by
      rw [Protocol.ofName?, Protocol.name, Protocol.name, if_neg hb, if_neg hj]
    dsimp only
    rw [hname]
    exact ⟨by simp [hb, hj], name, rfl, rfl⟩

theorem withTimeout_checks (h : view.Shows m) (p : Plan) :
    Checks m.TimeoutValid
      (fun q => ∃ timeout : Nat, (timeout : Int) = (m.timeout.map Int64.toInt).getD p.timeout ∧
        q = { p with timeout })
      (fun message => ∃ n, m.timeout = some n ∧
        message = "timeout must be non-negative, found " ++ toString n.toInt)
      (withTimeout view p) := by
  unfold withTimeout Properties.millis? OtlpSettings.TimeoutValid
  rw [h.timeout]
  cases m.timeout with
  | none => exact ⟨nofun, p.timeout, rfl, rfl⟩
  | some n =>
    dsimp only
    by_cases hn : 0 ≤ n.toInt
    · rw [if_pos hn]
      exact ⟨by simpa using hn, n.toInt.toNat, Int.toNat_of_nonneg hn, rfl⟩
    · rw [if_neg hn]
      exact ⟨by simpa using hn, n, rfl, rfl⟩

theorem withTls_checks (h : view.Shows m) (p : Plan) :
    Checks m.ClientTlsValid
      (· = { p with tls := ⟨m.certificate, m.clientKey, m.clientCertificate⟩ })
      (· = "client_key and client_certificate must be set together") (withTls view p) := by
  unfold withTls OtlpSettings.ClientTlsValid
  rw [h.certificate, h.clientKey, h.clientCertificate]
  cases m.clientKey with
  | none => cases m.clientCertificate with
    | none => exact ⟨rfl, rfl⟩
    | some cert => exact ⟨nofun, rfl⟩
  | some key => cases m.clientCertificate with
    | none => exact ⟨nofun, rfl⟩
    | some cert => exact ⟨rfl, rfl⟩

theorem withTemporality_checks (h : view.Shows m) (p : Plan) :
    Checks m.TemporalityValid
      (fun q => ∃ temporality, q = { p with temporality } ∧
        m.temporalityPreference.elim (some p.temporality) TemporalitySelector.ofPreference? =
          some temporality)
      (fun message => ∃ preference, m.temporalityPreference = some preference ∧
        message = "Unrecognized aggregation temporality: " ++ preference)
      (withTemporality view p) := by
  unfold withTemporality OtlpSettings.TemporalityValid
  rw [h.temporalityPreference]
  cases m.temporalityPreference with
  | none => exact ⟨nofun, p.temporality, rfl, rfl⟩
  | some preference =>
    simp only [Option.mem_some_iff, forall_eq', Option.elim_some,
      ← TemporalitySelector.ofPreference?_isSome]
    cases hs : TemporalitySelector.ofPreference? preference with
    | none => exact ⟨Bool.false_ne_true, preference, rfl, rfl⟩
    | some temporality => exact ⟨rfl, temporality, rfl, rfl⟩

/-- The name of a choice is never refused. -/
theorem withHistogram_eq_ok (h : view.Shows m) (p : Plan) : withHistogram view p = .ok
    { p with aggregation :=
        (m.defaultHistogramAggregation.map histogramSelector).getD p.aggregation } := by
  unfold withHistogram
  rw [h.defaultHistogramAggregation]
  cases m.defaultHistogramAggregation with
  | none => rfl
  | some choice => cases choice <;> rfl

/-! ## The plan of a view -/

/-- Sets the compressor, one of those that were found. -/
def withCompressor (found : List Compressor) (view : Properties) (p : Plan) :
    Except ConfigFault Plan :=
  match view.text? "compression" with
  | none => .ok p
  | some method =>
    match Compression.resolve found method with
    | .ok compressor => .ok { p with compressor }
    | .error fault => .error (.compression fault)

/-- The plan that a view describes. -/
def ofView (found : List Compressor) (view : Properties) : Except ConfigFault Plan := do
  let p ← withAddress view {}
  let p ← withCompressor found view p
  withRest view p

variable (found : List Compressor)

theorem withCompressor_checks (h : view.Shows m) (p : Plan) :
    Checks (m.CompressionValid found)
      (fun q => ∃ compressor, q = { p with compressor } ∧ m.compression.elim
        (compressor = p.compressor) fun method => Compression.Names found method compressor)
      (· = (CompressionFault.unknownMethod (Compression.supported found)).message)
      (withCompressor found view p) := by
  unfold withCompressor OtlpSettings.CompressionValid
  rw [h.compression]
  cases m.compression with
  | none => exact ⟨nofun, p.compressor, rfl, rfl⟩
  | some method =>
    simp only [Option.mem_some_iff, forall_eq', Option.elim_some]
    by_cases hmethod : Compression.Known found method
    · obtain ⟨compressor, hc, hnames⟩ := Compression.resolve_of_known hmethod
      rw [hc]
      exact ⟨hmethod, compressor, rfl, hnames⟩
    · rw [Compression.resolve_of_not_known hmethod]
      exact ⟨hmethod, rfl⟩

theorem withAddress_checks (h : view.Shows m) (p : Plan) :
    Checks (m.ProtocolValid ∧ m.HeadersListValid)
      (fun q => ∃ protocol : Protocol, protocol.name = m.protocol.getD p.protocol.name ∧
        q = { p with
          protocol
          endpoint := m.endpoint.getD p.endpoint
          headers := ((m.headers.getD []).map fun h => (h.name, h.value)) ++
            m.segments.map headerOfSegment })
      (m.Refused found) (withAddress view p) := by
  refine (withProtocol_checks h p).bind ?_ fun hp q ⟨protocol, hprotocol, hq⟩ => ?_
  · rintro _ hp ⟨name, hname, rfl⟩
    exact .protocol hp hname
  subst hq
  refine (headersOf_checks h).bind_pure.imp .rfl ?_ ?_
  · rintro - _ ⟨_, rfl, rfl⟩
    exact ⟨protocol, hprotocol, by rw [h.endpoint]⟩
  · rintro _ - ⟨before, segment, after, hsegments, hbefore, hsegment, rfl⟩
    exact .headersList hp hsegments hbefore hsegment

theorem withRest_checks (h : view.Shows m) (hp : m.ProtocolValid) (hh : m.HeadersListValid)
    (hc : m.CompressionValid found) (p : Plan) :
    Checks (m.TimeoutValid ∧ m.ClientTlsValid ∧ m.TemporalityValid)
      (fun q => ∃ timeout : Nat, (timeout : Int) = (m.timeout.map Int64.toInt).getD p.timeout ∧
        ∃ temporality, m.temporalityPreference.elim (some p.temporality)
          TemporalitySelector.ofPreference? = some temporality ∧
        q = { p with
          timeout
          tls := ⟨m.certificate, m.clientKey, m.clientCertificate⟩
          temporality
          aggregation :=
            (m.defaultHistogramAggregation.map histogramSelector).getD p.aggregation })
      (m.Refused found) (withRest view p) := by
  refine (withTimeout_checks h p).bind ?_ fun ht q ⟨timeout, htimeout, hq⟩ => ?_
  · rintro _ ht ⟨n, hn, rfl⟩
    exact .timeout hp hh hc ht hn
  subst hq
  refine (withTls_checks h _).bind ?_ fun htls q hq => ?_
  · rintro _ htls rfl
    exact .clientTls hp hh hc ht htls
  subst hq
  refine ((withTemporality_checks h _).bind ?_ fun _ q ⟨temporality, hq, hs⟩ => ?_).imp
    (iff_of_eq (and_true _)) (fun _ _ => id) fun _ _ => id
  · rintro _ hm ⟨preference, hpreference, rfl⟩
    exact .temporality hp hh hc ht htls hm hpreference
  subst hq
  rw [withHistogram_eq_ok h]
  exact ⟨trivial, timeout, htimeout, temporality, hs, rfl⟩

/-- **The settings that a view shows are checked, and carried by its plan.** -/
theorem ofView_checks (h : view.Shows m) :
    Checks (m.Valid found) (Carries found m) (m.Refused found) (ofView found view) := by
  refine ((withAddress_checks found h {}).bind (fun _ _ => id) fun ⟨hp, hh⟩ q hq =>
    (withCompressor_checks found h q).bind ?_ fun hc q' hq' =>
      (withRest_checks found h hp hh hc q').imp .rfl ?_ fun _ _ => id).imp ?_ (fun _ _ => id)
        fun _ _ => id
  · rintro _ hc rfl
    exact .compression hp hh hc (Compression.pairwise_supported found)
      fun _ => Compression.mem_supported
  · obtain ⟨protocol, hprotocol, rfl⟩ := hq
    obtain ⟨compressor, rfl, hcompressor⟩ := hq'
    rintro - _ ⟨timeout, htimeout, temporality, htemporality, rfl⟩
    refine ⟨rfl, hprotocol, rfl, ?_, htimeout, rfl, rfl, rfl,
      TemporalitySelector.select_eq_delta htemporality,
      select_histogramSelector m.defaultHistogramAggregation⟩
    dsimp only
    cases hm : m.compression with
    | none =>
      rw [hm] at hcompressor
      exact hcompressor ▸ .noMethod
    | some method =>
      rw [hm] at hcompressor
      exact hcompressor
  · exact ⟨fun ⟨⟨hp, hh⟩, hc, ht, htls, hm⟩ => ⟨hp, hh, hc, ht, htls, hm⟩,
      fun h => ⟨⟨h.protocol, h.headersList⟩, h.compression, h.timeout, h.clientTls, h.temporality⟩⟩

end Plan

end Otlp

/-! ## Exporters -/

namespace Store

theorem fst_resolve (loader : Provider.Loader) (method : String) (s : Store) :
    (s.resolve loader method).1 = Compression.resolve (s.compressors loader).1 method := by
  rw [resolve]
  by_cases h : method = Compression.noMethod
  · rw [if_pos h, Compression.resolve, if_pos h]
  · rw [if_neg h]
    dsimp only
    cases Compression.resolve (s.compressors loader).1 method <;> rfl

theorem fst_planOtlp (view : Properties) (s : Store) :
    (s.planOtlp view).1 = Otlp.Plan.ofView (s.compressors view.loader).1 view := by
  unfold planOtlp Otlp.Plan.ofView Otlp.Plan.withCompressor
  cases Otlp.Plan.withAddress view {} with
  | error fault => rfl
  | ok plan =>
    cases view.text? "compression" with
    | none => rfl
    | some method =>
      have h := fst_resolve view.loader method s
      dsimp only [bind, Except.bind]
      rw [← h]
      obtain ⟨fault | compressor, t⟩ := s.resolve view.loader method <;> rfl

theorem createExporter_otlp_eq (m : OtlpSettings) (loader : Provider.Loader) (s : Store) :
    s.createExporter (.otlp m) loader =
      match s.planOtlp (m.view loader) with
      | (.error fault, s) => (.error fault, s)
      | (.ok plan, s) =>
        let (number, s) := s.addOtlp plan
        (.ok number, (s.log (exporterCreated ExporterNode.otlpKey)).push (.exporter number)) := by
  have h : s.createCanonical (.otlp m) loader = s.createOtlp (m.view loader) := rfl
  unfold createExporter
  dsimp only [ExporterNode.canonical]
  rw [h, createOtlp]
  obtain ⟨fault | plan, t⟩ := s.planOtlp (m.view loader) <;> rfl

/-- **An exporter is made of settings if and only if they are valid**, and then it carries them;
others are refused by the first condition they break. -/
theorem createExporter_otlp (m : OtlpSettings) (loader : Provider.Loader) (s : Store) :
    ((∃ number t, s.createExporter (.otlp m) loader = (.ok number, t)) ↔
      m.Valid (s.compressors loader).1) ∧
    match s.createExporter (.otlp m) loader with
    | (.ok number, t) => ∃ plan : Otlp.Plan, plan.Carries (s.compressors loader).1 m ∧
        s.Adds number (.otlp { plan, channel := s.channels.length })
          [.channel s.channels.length, .exporter number] t ∧ t.channels = s.channels ++ [{}]
    | (.error fault, t) => m.Refused (s.compressors loader).1 fault.message ∧ s.SameObjects t := by
  have hplan := Otlp.Plan.ofView_checks (s.compressors loader).1 (m.view_shows loader)
  have hsame := sameObjects_planOtlp (m.view loader) s
  rw [show (s.compressors loader).1 = (s.compressors (m.view loader).loader).1 from rfl,
    ← fst_planOtlp] at hplan
  rw [createExporter_otlp_eq]
  generalize s.planOtlp (m.view loader) = r at hplan hsame ⊢
  obtain ⟨fault | plan, t⟩ := r
  · obtain ⟨hn, hrefused⟩ := hplan
    refine ⟨⟨?_, fun h => absurd h hn⟩, hrefused, hsame⟩
    rintro ⟨_, _, h⟩
    cases h
  · obtain ⟨hvalid, hcarries⟩ := hplan
    refine ⟨⟨fun _ => hvalid, fun _ => ⟨_, _, rfl⟩⟩, plan, hcarries, ?_⟩
    rw [← hsame.channels]
    exact ⟨.of_sameObjects hsame ⟨rfl, rfl, List.append_assoc _ _ _⟩, rfl⟩

end Store

end Telemetry
