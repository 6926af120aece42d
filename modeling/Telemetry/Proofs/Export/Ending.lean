import Telemetry.Proofs.Export.Objects

/-!
# Nothing is sent after shutdown

* `Store.Action`, `Store.run`: what callers do with exporters, channels and the resources, in any
  order.
* `Store.Sound`: what holds at all times: exporters that are shut down have closed channels.
* `Store.Later`: what may have changed: flags were set, and nothing went through closed channels.
  It is a preorder, each action goes on to a later store, and a later store is sound again.
* **`run_after_ending`**: after any actions, ending succeeds and is final.
-/

namespace Telemetry

/-- An exporter that is shut down. -/
def Exporter.ended : Exporter → Exporter
  | .otlp e => .otlp { e with isShutdown := true }
  | .console e => .console { e with isShutdown := true }
  | .plugin e => .plugin e

theorem Exporter.ended_ended (e : Exporter) : e.ended.ended = e.ended := by
  cases e <;> rfl

theorem Exporter.ended_of_isShutdown {e : OtlpExporter} (h : e.isShutdown = true) :
    (otlp e).ended = otlp e := by
  rw [ended, ← h]

theorem Exporter.ended_eq_otlp {e : Exporter} {o : OtlpExporter} (h : e.ended = .otlp o) :
    ∃ o', e = .otlp o' ∧ o'.channel = o.channel := by
  cases e with
  | otlp o' =>
    cases h
    exact ⟨o', rfl, rfl⟩
  | console c => cases h
  | plugin p => cases h

theorem Channel.send_of_isClosed {c : Channel} (h : c.isClosed = true) (r : Request) :
    c.send r = (.error .shutdown, c) := if_pos h

namespace Store

/-! ## Actions -/

/-- What callers do. -/
inductive Action where
  | «export» (exporter : Nat) (metrics : List Metric)
  | flush (exporter : Nat)
  | shutdown (exporter : Nat)
  | close (exporter : Nat)
  | closeChannel (channel : Nat)
  | closeAll

/-- Does what a caller wants. -/
def perform (a : Action) (s : Store) : Store :=
  match a with
  | .export exporter metrics => (s.export exporter metrics).2
  | .flush exporter => (s.flush exporter).2
  | .shutdown exporter => (s.shutdown exporter).2
  | .close exporter => (s.close exporter).2
  | .closeChannel channel => s.closeChannel channel
  | .closeAll => s.closeAll.2

/-- Does what callers want, one action after the other. -/
def run (actions : List Action) (s : Store) : Store :=
  actions.foldl (fun s a => s.perform a) s

/-! ## Later stores -/

/-- What holds at all times. -/
structure Sound (s : Store) : Prop where
  channel_lt : ∀ (n : Nat) (e : OtlpExporter), s.exporters[n]? = some (.otlp e) →
    e.channel < s.channels.length
  isClosed : ∀ (n : Nat) (e : OtlpExporter), s.exporters[n]? = some (.otlp e) →
    e.isShutdown = true → (s.channel e.channel).isClosed = true
  not_plugin : ∀ (n : Nat) (e : PluginExporter), s.exporters[n]? ≠ some (.plugin e)
  not_external : ∀ name failure, .external name failure ∉ s.resources

/-- Nothing changed but open channels, which may also have been closed, and exporters that were shut
down and whose channels are closed now. Resources may have been dropped. -/
structure Later (s t : Store) : Prop where
  channels_length : t.channels.length = s.channels.length
  channel : ∀ n, (s.channel n).isClosed = true → t.channel n = s.channel n
  exporter : ∀ n : Nat, t.exporters[n]? = s.exporters[n]? ∨
    ∃ e, s.exporters[n]? = some e ∧ t.exporters[n]? = some e.ended ∧
      ∀ o, e = .otlp o → (t.channel o.channel).isClosed = true
  resources : t.resources ⊆ s.resources

theorem SameObjects.channel {s t : Store} (h : s.SameObjects t) (n : Nat) :
    t.channel n = s.channel n := by
  rw [Store.channel, h.channels, Store.channel]

theorem SameObjects.later {s t : Store} (h : s.SameObjects t) : s.Later t where
  channels_length := by rw [h.channels]
  channel n _ := h.channel n
  exporter n := .inl (by rw [h.exporters])
  resources := by rw [h.resources]; exact List.Subset.refl _

theorem Later.refl (s : Store) : s.Later s := (SameObjects.refl s).later

theorem Later.isClosed {s t : Store} (h : s.Later t) {n : Nat}
    (hn : (s.channel n).isClosed = true) : (t.channel n).isClosed = true := by
  rw [h.channel n hn, hn]

theorem Later.trans {s t u : Store} (h : s.Later t) (h' : t.Later u) : s.Later u where
  channels_length := h'.channels_length.trans h.channels_length
  channel n hn := (h'.channel n (h.isClosed hn)).trans (h.channel n hn)
  exporter n := by
    obtain ht | ⟨e, hs, ht, hc⟩ := h.exporter n <;> obtain hu | ⟨e', ht', hu, hc'⟩ := h'.exporter n
    · exact .inl (hu.trans ht)
    · exact .inr ⟨e', ht.symm.trans ht', hu, hc'⟩
    · exact .inr ⟨e, hs, hu.trans ht, fun o ho => h'.isClosed (hc o ho)⟩
    · obtain rfl := Option.some.inj (ht.symm.trans ht')
      rw [Exporter.ended_ended] at hu
      exact .inr ⟨e, hs, hu, fun o ho => h'.isClosed (hc o ho)⟩
  resources := List.Subset.trans h'.resources h.resources

theorem Later.exporter_of_isShutdown {s t : Store} (h : s.Later t) {n : Nat} {e : OtlpExporter}
    (he : s.exporters[n]? = some (.otlp e)) (hdown : e.isShutdown = true) :
    t.exporters[n]? = some (.otlp e) := by
  obtain ht | ⟨e', he', ht, -⟩ := h.exporter n
  · rw [ht, he]
  · obtain rfl := Option.some.inj (he.symm.trans he')
    rw [ht, Exporter.ended_of_isShutdown hdown]

/-- **A sound store stays so.** -/
theorem Sound.later {s t : Store} (hs : s.Sound) (h : s.Later t) : t.Sound where
  channel_lt n e he := by
    rw [h.channels_length]
    obtain ht | ⟨e', he', ht, -⟩ := h.exporter n
    · exact hs.channel_lt n e (ht.symm.trans he)
    · obtain ⟨o, rfl, ho⟩ := Exporter.ended_eq_otlp (Option.some.inj (ht.symm.trans he))
      rw [← ho]
      exact hs.channel_lt n o he'
  isClosed n e he hdown := by
    obtain ht | ⟨e', he', ht, hc⟩ := h.exporter n
    · exact h.isClosed (hs.isClosed n e (ht.symm.trans he) hdown)
    · obtain ⟨o, rfl, ho⟩ := Exporter.ended_eq_otlp (Option.some.inj (ht.symm.trans he))
      rw [← ho]
      exact hc o rfl
  not_plugin n e he := by
    obtain ht | ⟨e', he', ht, -⟩ := h.exporter n
    · exact hs.not_plugin n e (ht.symm.trans he)
    · cases e' with
      | plugin p => exact hs.not_plugin n p he'
      | otlp o => cases ht.symm.trans he
      | console c => cases ht.symm.trans he
  not_external name failure hr := hs.not_external name failure (h.resources hr)

/-! ## Exporting -/

theorem later_setChannel {number : Nat} {c : Channel} {s : Store}
    (h : (s.channel number).isClosed = true → c = s.channel number) :
    s.Later (s.setChannel number c) where
  channels_length := List.length_set
  channel n hn := by
    rw [channel_setChannel]
    split_ifs with hc
    · obtain ⟨rfl, -⟩ := hc
      exact h hn
    · rfl
  exporter _ := .inl rfl
  resources := List.Subset.refl _

theorem later_send (number : Nat) (r : Request) (s : Store) : s.Later (s.send number r).2 := by
  have h : (s.channel number).isClosed = true →
      ((s.channel number).send r).2 = s.channel number := by
    intro hn
    rw [Channel.send_of_isClosed hn]
  unfold send
  generalize (s.channel number).send r = outcome at h ⊢
  obtain ⟨_ | _, c⟩ := outcome
  · exact later_setChannel h
  · exact (sameObjects_log _ s).later.trans (later_setChannel h)

theorem later_export (number : Nat) (metrics : List Metric) (s : Store) :
    s.Later (s.export number metrics).2 := by
  unfold «export»
  split
  · unfold exportOtlp
    split_ifs
    · exact .refl s
    · split
      · exact .refl s
      · exact (sameObjects_log _ s).later.trans (later_send _ _ _)
  · unfold exportConsole
    split_ifs
    · exact .refl s
    · exact (sameObjects_logAll _ s).later
  · exact .refl s

/-- **Nothing goes through a closed channel.** -/
theorem export_eq_error {s : Store} {number : Nat} {e : OtlpExporter}
    (he : s.exporters[number]? = some (.otlp e)) (hc : (s.channel e.channel).isClosed = true)
    (metrics : List Metric) : ∃ fault, (s.export number metrics).1 = .error fault := by
  unfold «export»
  rw [he]
  dsimp only
  unfold exportOtlp
  split_ifs
  · exact ⟨_, rfl⟩
  · cases bodyOf e.plan metrics with
    | error fault => exact ⟨fault, rfl⟩
    | ok body =>
      refine ⟨.shutdown, ?_⟩
      dsimp only
      unfold send
      rw [(sameObjects_log _ s).channel, Channel.send_of_isClosed hc]

/-! ## Closing -/

theorem later_closeChannel (number : Nat) (s : Store) : s.Later (s.closeChannel number) := by
  unfold closeChannel
  split_ifs with h
  · exact .refl s
  · exact (later_setChannel fun hn => absurd hn h).trans (sameObjects_log _ _).later

theorem isClosed_closeChannel {number : Nat} {s : Store} (h : number < s.channels.length) :
    ((s.closeChannel number).channel number).isClosed = true := by
  unfold closeChannel
  split_ifs with hc
  · exact hc
  · rw [(sameObjects_log _ _).channel, channel_setChannel, if_pos ⟨rfl, h⟩]

theorem later_setExporter {number : Nat} {e : Exporter} {s : Store}
    (he : s.exporters[number]? = some e)
    (hc : ∀ o, e = .otlp o → (s.channel o.channel).isClosed = true) :
    s.Later (s.setExporter number e.ended) where
  channels_length := rfl
  channel _ _ := rfl
  exporter n := by
    rw [getElem?_setExporter (List.getElem?_eq_some_iff.1 he).1]
    split_ifs with hn
    · subst hn
      exact .inr ⟨e, he, rfl, hc⟩
    · exact .inl rfl
  resources := List.Subset.refl _

theorem closeChannel_setExporter (number channel : Nat) (e : Exporter) (s : Store) :
    (s.setExporter number e).closeChannel channel =
      (s.closeChannel channel).setExporter number e := by
  have h : (s.setExporter number e).channel channel = s.channel channel := rfl
  rw [closeChannel, closeChannel, h]
  split_ifs <;> rfl

theorem exporters_closeChannel (channel : Nat) (s : Store) :
    (s.closeChannel channel).exporters = s.exporters := by
  unfold closeChannel
  split_ifs <;> rfl

/-- The channel is closed before the flag is set, or after it, which is the same. -/
theorem Sound.later_shutdown {s : Store} (h : s.Sound) (number : Nat) :
    s.Later (s.shutdown number).2 := by
  unfold shutdown
  split
  · rename_i e he
    split_ifs
    · exact (sameObjects_log _ s).later
    · have hc := isClosed_closeChannel (h.channel_lt number e he)
      rw [closeChannel_setExporter]
      refine (later_closeChannel e.channel s).trans
        (later_setExporter (e := .otlp e) ?_ fun o ho => ?_)
      · rw [exporters_closeChannel, he]
      · cases ho
        exact hc
  · rename_i c hc
    split_ifs
    · exact (sameObjects_log _ s).later
    · exact later_setExporter (e := .console c) hc fun o ho => by cases ho
  · exact .refl s

theorem shutdown_fst (number : Nat) (s : Store) : (s.shutdown number).1 = .ok () := by
  unfold shutdown
  split
  · split_ifs <;> rfl
  · split_ifs <;> rfl
  · rfl

/-- **Shutting an OTLP exporter down closes its channel.** -/
theorem Sound.isClosed_shutdown {s : Store} (h : s.Sound) {number : Nat} {e : OtlpExporter}
    (he : s.exporters[number]? = some (.otlp e)) :
    ((s.shutdown number).2.channel e.channel).isClosed = true := by
  unfold shutdown
  rw [he]
  dsimp only
  split_ifs with hdown
  · exact h.isClosed number e he hdown
  · exact isClosed_closeChannel (h.channel_lt number e he)

/-- Closing an exporter that is no plugin's shuts it down. -/
theorem close_eq_shutdown {s : Store} {number : Nat}
    (h : ∀ e, s.exporters[number]? ≠ some (.plugin e)) :
    s.close number = (.ok (), (s.shutdown number).2) := by
  have hfst := shutdown_fst number s
  unfold close
  split
  · rename_i e he
    exact absurd he (h e)
  · dsimp only
    rw [hfst]
    rfl
  · dsimp only
    rw [hfst]
    rfl
  · rename_i he
    rw [shutdown, he]

/-- Built-in exporters are closed by shutting them down. -/
theorem Sound.close_eq {s : Store} (h : s.Sound) (number : Nat) :
    s.close number = (.ok (), (s.shutdown number).2) := close_eq_shutdown (h.not_plugin number)

theorem Sound.closeResource {s : Store} (h : s.Sound) (r : Resource)
    (hr : ∀ name failure, r ≠ .external name failure) :
    (s.closeResource r).1 = .ok () ∧ s.Later (s.closeResource r).2 := by
  have hnote := (sameObjects_note (.closed r) s).later
  unfold Store.closeResource
  cases r with
  | channel number => exact ⟨rfl, hnote.trans (later_closeChannel number _)⟩
  | exporter number =>
    have h' := h.later hnote
    dsimp only
    rw [h'.close_eq]
    exact ⟨rfl, hnote.trans (h'.later_shutdown number)⟩
  | external name failure => exact absurd rfl (hr name failure)

theorem Sound.closeEach {resources : List Resource} {s : Store} (h : s.Sound)
    (hr : ∀ name failure, .external name failure ∉ resources) :
    (closeEach resources s).1 = [] ∧ s.Later (closeEach resources s).2 := by
  induction resources generalizing s with
  | nil => exact ⟨rfl, .refl s⟩
  | cons r rest ih =>
    obtain ⟨hok, hlater⟩ := h.closeResource r fun name failure hext =>
      hr name failure (hext ▸ List.mem_cons_self)
    rw [Store.closeEach]
    generalize s.closeResource r = outcome at hok hlater ⊢
    obtain ⟨_, t⟩ := outcome
    cases hok
    obtain ⟨hnil, hlater'⟩ := ih (h.later hlater) fun name failure hmem =>
      hr name failure (List.mem_cons_of_mem r hmem)
    exact ⟨hnil, hlater.trans hlater'⟩

/-- **Closing all resources reports no failure.** -/
theorem Sound.closeAll {s : Store} (h : s.Sound) :
    s.closeAll.1 = [] ∧ s.Later s.closeAll.2 := by
  have hdrop : s.Later { s with resources := [] } :=
    ⟨rfl, fun _ _ => rfl, fun _ => .inl rfl, List.nil_subset _⟩
  obtain ⟨hnil, hlater⟩ := (h.later hdrop).closeEach h.not_external
  exact ⟨hnil, hdrop.trans hlater⟩

/-! ## Runs -/

theorem Sound.later_perform {s : Store} (h : s.Sound) (a : Action) : s.Later (s.perform a) := by
  cases a with
  | «export» exporter metrics => exact later_export exporter metrics s
  | flush exporter => exact .refl s
  | shutdown exporter => exact h.later_shutdown exporter
  | close exporter =>
    rw [perform, h.close_eq]
    exact h.later_shutdown exporter
  | closeChannel channel => exact later_closeChannel channel s
  | closeAll => exact h.closeAll.2

theorem Sound.later_run {s : Store} (h : s.Sound) (actions : List Action) :
    s.Later (s.run actions) := by
  induction actions generalizing s with
  | nil => exact .refl s
  | cons a rest ih =>
    have ha := h.later_perform a
    exact ha.trans (ih (h.later ha))

/-- Exporters of the built-in kinds, of which those for OTLP have a channel each, though maybe the
same, and are not shut down, and resources that are channels and exporters only. -/
structure Built (s : Store) : Prop where
  exporter : ∀ e ∈ s.exporters, (∃ c, e = .console c) ∨
    ∃ o, e = .otlp o ∧ o.channel < s.channels.length ∧ o.isShutdown = false
  resource : ∀ r ∈ s.resources, (∃ n, r = .channel n) ∨ ∃ n, r = .exporter n

theorem Built.sound {s : Store} (h : s.Built) : s.Sound where
  channel_lt n e he := by
    obtain ⟨c, hc⟩ | ⟨o, ho, hlt, -⟩ := h.exporter _ (List.mem_of_getElem? he)
    · cases hc
    · cases ho
      exact hlt
  isClosed n e he hdown := by
    obtain ⟨c, hc⟩ | ⟨o, ho, -, hup⟩ := h.exporter _ (List.mem_of_getElem? he)
    · cases hc
    · cases ho
      exact absurd hdown (by rw [hup]; decide)
  not_plugin n e he := by
    obtain ⟨c, hc⟩ | ⟨o, ho, -⟩ := h.exporter _ (List.mem_of_getElem? he)
    · cases hc
    · cases ho
  not_external name failure hr := by
    obtain ⟨n, hn⟩ | ⟨n, hn⟩ := h.resource _ hr <;> cases hn

/-- **Ending succeeds and is final.** What was shut down or closed stays as it is, whatever happens
later, and nothing is exported through it. -/
theorem run_after_ending {s₀ : Store} (h₀ : s₀.Built) (past future : List Action) {s t : Store}
    (hs : s₀.run past = s) (ht : s.run future = t) :
    (∀ (n : Nat) (e : OtlpExporter), s.exporters[n]? = some (.otlp e) →
      (e.isShutdown = true → (s.channel e.channel).isClosed = true) ∧
        ((s.shutdown n).2.channel e.channel).isClosed = true) ∧
    (∀ (n : Nat) (e : OtlpExporter), s.exporters[n]? = some (.otlp e) → e.isShutdown = true →
      t.exporters[n]? = some (.otlp e)) ∧
    (∀ c, (s.channel c).isClosed = true → t.channel c = s.channel c ∧
      ∀ (n : Nat) (e : OtlpExporter) (metrics : List Metric), t.exporters[n]? = some (.otlp e) →
        e.channel = c → ∃ fault, (t.export n metrics).1 = .error fault) ∧
    (∀ n, (s.shutdown n).1 = .ok () ∧ (s.close n).1 = .ok () ∧
      (s.closeResource (.channel n)).1 = .ok ()) ∧
    s.closeAll.1 = [] := by
  have hsound : s.Sound := hs ▸ h₀.sound.later (h₀.sound.later_run past)
  have hlater : s.Later t := ht ▸ hsound.later_run future
  refine ⟨?_, ?_, ?_, ?_, hsound.closeAll.1⟩
  · intro n e he
    exact ⟨hsound.isClosed n e he, hsound.isClosed_shutdown he⟩
  · intro n e he hdown
    exact hlater.exporter_of_isShutdown he hdown
  · intro c hc
    refine ⟨hlater.channel c hc, ?_⟩
    rintro n e metrics he rfl
    exact export_eq_error he (hlater.isClosed hc) metrics
  · intro n
    refine ⟨shutdown_fst n s, ?_, rfl⟩
    rw [hsound.close_eq]

/-- Two OTLP exporters with one channel, and a console exporter, all of them among the resources. -/
def sharedChannel : Store where
  channels := [{}]
  exporters := [.otlp { plan := {}, channel := 0 }, .otlp { plan := {}, channel := 0 }, .console {}]
  resources := [.channel 0, .exporter 0, .exporter 2, .exporter 1]

/-- After one exporter was shut down, the other cannot export through their channel any more, which
has kept the request from before. -/
theorem run_after_shutdown :
    sharedChannel.Built ∧
      ((sharedChannel.run [.export 1 [], .shutdown 0]).channel 0).last.isSome = true ∧
      (sharedChannel.run [.export 1 [], .shutdown 0]).closeAll.1 = [] ∧
      ∃ fault, (((sharedChannel.run [.export 1 [], .shutdown 0]).run
        [.export 1 [], .closeAll, .close 0]).export 1 []).1 = .error fault := by
  have h : sharedChannel.Built := by
    constructor
    · intro e he
      simp only [sharedChannel, List.mem_cons, List.not_mem_nil, or_false] at he
      obtain rfl | rfl | rfl := he
      · exact .inr ⟨_, rfl, by decide, rfl⟩
      · exact .inr ⟨_, rfl, by decide, rfl⟩
      · exact .inl ⟨_, rfl⟩
    · intro r hr
      simp only [sharedChannel, List.mem_cons, List.not_mem_nil, or_false] at hr
      obtain rfl | rfl | rfl | rfl := hr
      · exact .inl ⟨_, rfl⟩
      · exact .inr ⟨_, rfl⟩
      · exact .inr ⟨_, rfl⟩
      · exact .inr ⟨_, rfl⟩
  obtain ⟨-, -, hc, -, hall⟩ := run_after_ending h [.export 1 [], .shutdown 0]
    [.export 1 [], .closeAll, .close 0] rfl rfl
  refine ⟨h, by decide +kernel, hall, ?_⟩
  exact (hc 0 (by decide +kernel)).2 1 _ [] rfl rfl

end Store

end Telemetry
