import Telemetry.Proofs.Export.Sending

/-!
# What can be seen of an exporter

* `Sight`: an exporter with its channel, whatever the numbers of the two.
* `Use`, `Answer`, `Store.use`: what callers do with one exporter or with its channel, and what they
  are told.
* `Sight.use`: what such a use comes to by itself.
* **`use_eq`**: an exporter in a store behaves as it does by itself.
* `Store.Touches`: nothing changed but one exporter and its channel. **`touches_use`**: this is what
  each use of an exporter does.
-/

namespace Telemetry

/-- An exporter with its channel. -/
inductive Sight where
  | otlp (plan : Otlp.Plan) (isShutdown : Bool) (channel : Channel)
  | console (e : ConsoleExporter)
  | plugin (e : PluginExporter)

/-- What callers do with an exporter, or with the channel that was made for it. -/
inductive Use where
  | «export» (metrics : List Metric)
  | flush
  | shutdown
  | close
  | send (r : Request)
  | closeChannel

/-- What callers are told. -/
inductive Answer where
  | exported (outcome : Except ExportFault Unit)
  | closed (outcome : Except CloseFault Unit)

namespace Store

/-- What is seen of an exporter. -/
def sight (s : Store) (number : Nat) : Option Sight :=
  s.exporters[number]?.map fun
    | .otlp e => .otlp e.plan e.isShutdown (s.channel e.channel)
    | .console e => .console e
    | .plugin e => .plugin e

/-- The number of the channel of an exporter, if it has one. -/
def channelOf? (s : Store) (number : Nat) : Option Nat :=
  match s.exporters[number]? with
  | some (.otlp e) => some e.channel
  | _ => none

/-- Uses an exporter. Without a channel nothing comes of a use of the channel. -/
def use (number : Nat) (u : Use) (s : Store) : Answer × Store :=
  match u with
  | .export metrics => (s.export number metrics).map .exported id
  | .flush => (s.flush number).map .exported id
  | .shutdown => (s.shutdown number).map .exported id
  | .close => (s.close number).map .closed id
  | .send r =>
    match s.channelOf? number with
    | some channel => (s.send channel r).map .exported id
    | none => (.exported (.ok ()), s)
  | .closeChannel =>
    match s.channelOf? number with
    | some channel => (.closed (.ok ()), s.closeChannel channel)
    | none => (.closed (.ok ()), s)

end Store

/-! ## One exporter by itself -/

/-- A channel that is closed, whether or not it was before. -/
def Channel.ended (c : Channel) : Channel := { c with isClosed := true }

theorem Channel.ended_of_isClosed {c : Channel} (h : c.isClosed = true) : c.ended = c := by
  rw [ended, ← h]

/-- The answer to a use that comes to nothing. -/
def Use.idle : Use → Answer
  | .close | .closeChannel => .closed (.ok ())
  | _ => .exported (.ok ())

/-- What a use of an exporter comes to, and what is seen of the exporter then. -/
def Sight.use (u : Use) : Sight → Answer × Sight
  | .otlp plan isShutdown c =>
    match u with
    | .export metrics =>
      if isShutdown then (.exported (.error .shutdown), .otlp plan isShutdown c)
      else match Store.bodyOf plan metrics with
        | .error fault => (.exported (.error fault), .otlp plan isShutdown c)
        | .ok body => (c.send (Store.requestOf plan body)).map .exported (.otlp plan isShutdown)
    | .flush => (.exported (.ok ()), .otlp plan isShutdown c)
    | .shutdown => (.exported (.ok ()), .otlp plan true (if isShutdown then c else c.ended))
    | .close => (.closed (.ok ()), .otlp plan true (if isShutdown then c else c.ended))
    | .send r => (c.send r).map .exported (.otlp plan isShutdown)
    | .closeChannel => (.closed (.ok ()), .otlp plan isShutdown c.ended)
  | .console e =>
    match u with
    | .export _ => (.exported (if e.isShutdown then .error .shutdown else .ok ()), .console e)
    | .shutdown => (.exported (.ok ()), .console { e with isShutdown := true })
    | .close => (.closed (.ok ()), .console { e with isShutdown := true })
    | _ => (u.idle, .console e)
  | .plugin e =>
    match u with
    | .close => (.closed (e.closeFault.elim (.ok ()) .error), .plugin e)
    | _ => (u.idle, .plugin e)

namespace Store

section Sight

variable {s t : Store} {number : Nat} {e : OtlpExporter}

theorem sight_otlp (he : s.exporters[number]? = some (.otlp e)) :
    s.sight number = some (.otlp e.plan e.isShutdown (s.channel e.channel)) := by
  rw [sight, he]
  rfl

theorem channelOf?_otlp (he : s.exporters[number]? = some (.otlp e)) :
    s.channelOf? number = some e.channel := by
  rw [channelOf?, he]

theorem exists_of_channelOf? {c : Nat} (h : s.channelOf? number = some c) :
    ∃ e, s.exporters[number]? = some (.otlp e) ∧ e.channel = c := by
  unfold channelOf? at h
  split at h
  · exact ⟨_, ‹_›, Option.some.inj h⟩
  · cases h

theorem SameObjects.sight (h : s.SameObjects t) (number : Nat) :
    t.sight number = s.sight number := by
  have hchannel : t.channel = s.channel := funext h.channel
  rw [Store.sight, Store.sight, h.exporters, hchannel]

theorem SameObjects.channelOf? (h : s.SameObjects t) (number : Nat) :
    t.channelOf? number = s.channelOf? number := by
  rw [Store.channelOf?, Store.channelOf?, h.exporters]

theorem sight_setChannel (he : s.exporters[number]? = some (.otlp e))
    (hc : e.channel < s.channels.length) (c : Channel) :
    (s.setChannel e.channel c).sight number = some (.otlp e.plan e.isShutdown c) := by
  have he' : (s.setChannel e.channel c).exporters[number]? = some (.otlp e) := he
  rw [sight_otlp he', channel_setChannel, if_pos ⟨rfl, hc⟩]

theorem sight_closeChannel (he : s.exporters[number]? = some (.otlp e))
    (hc : e.channel < s.channels.length) :
    (s.closeChannel e.channel).sight number =
      some (.otlp e.plan e.isShutdown (s.channel e.channel).ended) := by
  unfold closeChannel
  split_ifs with hclosed
  · rw [sight_otlp he, Channel.ended_of_isClosed hclosed]
  · rw [(sameObjects_log _ _).sight, sight_setChannel he hc]
    rfl

theorem sight_send (he : s.exporters[number]? = some (.otlp e))
    (hc : e.channel < s.channels.length) (r : Request) :
    (s.send e.channel r).2.sight number =
      some (.otlp e.plan e.isShutdown ((s.channel e.channel).send r).2) := by
  rw [(sameObjects_send e.channel r s).sight, sight_setChannel he hc]

theorem getElem?_setExporter_self {old : Exporter} (he : s.exporters[number]? = some old)
    (new : Exporter) : (s.setExporter number new).exporters[number]? = some new := by
  rw [getElem?_setExporter (List.getElem?_eq_some_iff.1 he).1, if_pos rfl]

theorem sight_shutdown_otlp (he : s.exporters[number]? = some (.otlp e))
    (hc : e.channel < s.channels.length) :
    (s.shutdown number).2.sight number = some (.otlp e.plan true
      (if e.isShutdown then s.channel e.channel else (s.channel e.channel).ended)) := by
  rw [shutdown, he]
  dsimp only
  split_ifs with hdown
  · rw [(sameObjects_log _ _).sight, sight_otlp he, hdown]
  · exact sight_closeChannel (getElem?_setExporter_self he _) hc

theorem sight_shutdown_console {e : ConsoleExporter}
    (he : s.exporters[number]? = some (.console e)) :
    (s.shutdown number).2.sight number = some (.console { e with isShutdown := true }) := by
  rw [shutdown, he]
  dsimp only
  split_ifs with hdown
  · rw [(sameObjects_log _ _).sight, sight, he, ← hdown]
    rfl
  · rw [sight, getElem?_setExporter_self he]
    rfl

end Sight

/-- An OTLP exporter behaves as it does by itself. -/
theorem use_otlp {s : Store} {number : Nat} {e : OtlpExporter}
    (he : s.exporters[number]? = some (.otlp e)) (hc : e.channel < s.channels.length) (u : Use) :
    let x := (Sight.otlp e.plan e.isShutdown (s.channel e.channel)).use u
    (s.use number u).1 = x.1 ∧ (s.use number u).2.sight number = some x.2 := by
  intro x
  have hsight := sight_otlp he
  have hchannel := channelOf?_otlp he
  cases u with
  | «export» metrics =>
    have hexport : s.export number metrics = s.exportOtlp e metrics := by
      rw [Store.export, he]
    simp only [x, use, Sight.use, hexport, exportOtlp, Prod.map_fst, Prod.map_snd, id]
    split_ifs
    · exact ⟨rfl, hsight⟩
    · cases bodyOf e.plan metrics with
      | error fault => exact ⟨rfl, hsight⟩
      | ok body =>
        -- the event that is logged first is not seen
        refine ⟨congrArg Answer.exported (fst_send _ _ _), ?_⟩
        exact sight_send (s := s.log (exporting e.plan metrics body)) he hc _
  | flush => exact ⟨rfl, hsight⟩
  | shutdown =>
    exact ⟨congrArg Answer.exported (shutdown_fst number s), sight_shutdown_otlp he hc⟩
  | close =>
    have hclose : s.close number = (.ok (), (s.shutdown number).2) :=
      close_eq_shutdown fun p hp => by cases he.symm.trans hp
    simp only [x, use, hclose, Prod.map, id]
    exact ⟨rfl, sight_shutdown_otlp he hc⟩
  | send r =>
    simp only [x, use, hchannel, Prod.map, id]
    exact ⟨congrArg Answer.exported (fst_send _ _ _), sight_send he hc r⟩
  | closeChannel =>
    simp only [x, use, hchannel]
    exact ⟨rfl, sight_closeChannel he hc⟩

/-- A console exporter behaves as it does by itself. -/
theorem use_console {s : Store} {number : Nat} {e : ConsoleExporter}
    (he : s.exporters[number]? = some (.console e)) (u : Use) :
    (s.use number u).1 = ((Sight.console e).use u).1 ∧
      (s.use number u).2.sight number = some ((Sight.console e).use u).2 := by
  have hsight : s.sight number = some (.console e) := by
    rw [sight, he]
    rfl
  have hchannel : s.channelOf? number = none := by
    rw [channelOf?, he]
  cases u with
  | «export» metrics =>
    have hexport : s.export number metrics = s.exportConsole e metrics := by
      rw [Store.export, he]
    simp only [use, Sight.use, hexport, exportConsole, Prod.map, id]
    split_ifs
    · exact ⟨rfl, hsight⟩
    · exact ⟨rfl, ((sameObjects_logAll _ s).sight number).trans hsight⟩
  | flush => exact ⟨rfl, hsight⟩
  | shutdown =>
    exact ⟨congrArg Answer.exported (shutdown_fst number s), sight_shutdown_console he⟩
  | close =>
    have hclose : s.close number = (.ok (), (s.shutdown number).2) :=
      close_eq_shutdown fun p hp => by cases he.symm.trans hp
    simp only [use, hclose, Prod.map, id]
    exact ⟨rfl, sight_shutdown_console he⟩
  | send r =>
    simp only [use, hchannel]
    exact ⟨rfl, hsight⟩
  | closeChannel =>
    simp only [use, hchannel]
    exact ⟨rfl, hsight⟩

/-- The exporter of a plugin behaves as it does by itself. -/
theorem use_plugin {s : Store} {number : Nat} {e : PluginExporter}
    (he : s.exporters[number]? = some (.plugin e)) (u : Use) :
    (s.use number u).1 = ((Sight.plugin e).use u).1 ∧
      (s.use number u).2.sight number = some ((Sight.plugin e).use u).2 := by
  have hsight : s.sight number = some (.plugin e) := by
    rw [sight, he]
    rfl
  cases u with
  | close =>
    simp only [use, close, he, Sight.use]
    cases e.closeFault <;> exact ⟨rfl, hsight⟩
  | flush => exact ⟨rfl, hsight⟩
  | _ =>
    simp only [use, Store.export, shutdown, channelOf?, he, Sight.use, Prod.map, id]
    exact ⟨rfl, hsight⟩

/-- **An exporter in a store behaves as it does by itself.** -/
theorem use_eq {s : Store} {number : Nat} {x : Sight} (hx : s.sight number = some x)
    (hc : ∀ c, s.channelOf? number = some c → c < s.channels.length) (u : Use) :
    (s.use number u).1 = (x.use u).1 ∧ (s.use number u).2.sight number = some (x.use u).2 := by
  obtain ⟨e, he, rfl⟩ := Option.map_eq_some_iff.1 hx
  cases e with
  | otlp e => exact use_otlp he (hc _ (channelOf?_otlp he)) u
  | console e => exact use_console he u
  | plugin e => exact use_plugin he u

/-- Nothing comes of a use of an exporter that is not there. -/
theorem use_missing {s : Store} {number : Nat} (h : s.sight number = none) (u : Use) :
    s.use number u = (u.idle, s) := by
  have he : s.exporters[number]? = none := Option.map_eq_none_iff.1 h
  have hchannel : s.channelOf? number = none := by
    rw [channelOf?, he]
  cases u with
  | «export» metrics => rw [use, Store.export, he]; rfl
  | flush => rfl
  | shutdown => rw [use, shutdown, he]; rfl
  | close => rw [use, close, he]; rfl
  | send r => rw [use, hchannel]; rfl
  | closeChannel => rw [use, hchannel]; rfl

/-! ## Frames -/

/-- Nothing changed but one exporter and its channel, which is still the same one. -/
structure Touches (number : Nat) (s t : Store) : Prop where
  exporters_length : t.exporters.length = s.exporters.length
  exporter : ∀ n, n ≠ number → t.exporters[n]? = s.exporters[n]?
  channelOf? : t.channelOf? number = s.channelOf? number
  channels_length : t.channels.length = s.channels.length
  channel : ∀ c, s.channelOf? number ≠ some c → t.channel c = s.channel c
  catalogue : t.catalogue = s.catalogue

section Touches

variable {s t u : Store} {number c : Nat}

theorem SameObjects.touches (h : s.SameObjects t) (hcatalogue : t.catalogue = s.catalogue)
    (number : Nat) : Touches number s t where
  exporters_length := congrArg List.length h.exporters
  exporter n _ := by rw [h.exporters]
  channelOf? := h.channelOf? number
  channels_length := congrArg List.length h.channels
  channel n _ := h.channel n
  catalogue := hcatalogue

theorem Touches.refl (number : Nat) (s : Store) : Touches number s s :=
  (SameObjects.refl s).touches rfl number

theorem Touches.trans (h : Touches number s t) (h' : Touches number t u) : Touches number s u where
  exporters_length := h'.exporters_length.trans h.exporters_length
  exporter n hn := (h'.exporter n hn).trans (h.exporter n hn)
  channelOf? := h'.channelOf?.trans h.channelOf?
  channels_length := h'.channels_length.trans h.channels_length
  channel n hn := (h'.channel n (by rwa [h.channelOf?])).trans (h.channel n hn)
  catalogue := h'.catalogue.trans h.catalogue

theorem touches_log (number : Nat) (e : Log.Event) (s : Store) : Touches number s (s.log e) :=
  (sameObjects_log e s).touches rfl number

theorem touches_setChannel (h : s.channelOf? number = some c) (x : Channel) :
    Touches number s (s.setChannel c x) where
  exporters_length := rfl
  exporter _ _ := rfl
  channelOf? := rfl
  channels_length := List.length_set
  channel n hn := by
    rw [channel_setChannel, if_neg]
    rintro ⟨rfl, -⟩
    exact hn h
  catalogue := rfl

theorem touches_setExporter {e : Exporter} (he : s.exporters[number]? = some e) :
    Touches number s (s.setExporter number e.ended) where
  exporters_length := List.length_set
  exporter n hn := by
    rw [getElem?_setExporter (List.getElem?_eq_some_iff.1 he).1, if_neg (Ne.symm hn)]
  channelOf? := by
    rw [Store.channelOf?, Store.channelOf?, getElem?_setExporter_self he, he]
    cases e <;> rfl
  channels_length := rfl
  channel _ _ := rfl
  catalogue := rfl

theorem touches_closeChannel (h : s.channelOf? number = some c) :
    Touches number s (s.closeChannel c) := by
  unfold closeChannel
  split_ifs
  · exact .refl number s
  · exact (touches_setChannel h _).trans (touches_log number _ _)

theorem touches_send (h : s.channelOf? number = some c) (r : Request) :
    Touches number s (s.send c r).2 := by
  unfold send
  obtain ⟨_ | _, x⟩ := (s.channel c).send r
  · exact touches_setChannel h x
  · exact (touches_log number (keeping r) s).trans
      (touches_setChannel (s := s.log (keeping r)) h x)

theorem touches_export (number : Nat) (metrics : List Metric) (s : Store) :
    Touches number s (s.export number metrics).2 := by
  unfold «export»
  split
  · rename_i e he
    unfold exportOtlp
    split_ifs
    · exact .refl number s
    · split
      · exact .refl number s
      · rename_i body _
        exact (touches_log number _ s).trans
          (touches_send (s := s.log (exporting e.plan metrics body)) (channelOf?_otlp he) _)
  · unfold exportConsole
    split_ifs
    · exact .refl number s
    · exact (sameObjects_logAll _ s).touches rfl number
  · exact .refl number s

theorem touches_shutdown (number : Nat) (s : Store) : Touches number s (s.shutdown number).2 := by
  unfold shutdown
  split
  · rename_i e he
    split_ifs
    · exact touches_log number _ s
    · have hset : Touches number s (s.setExporter number (Exporter.otlp e).ended) :=
        touches_setExporter he
      exact hset.trans (touches_closeChannel (hset.channelOf?.trans (channelOf?_otlp he)))
  · rename_i e he
    split_ifs
    · exact touches_log number _ s
    · exact touches_setExporter (e := .console e) he
  · exact .refl number s

theorem touches_close (number : Nat) (s : Store) : Touches number s (s.close number).2 := by
  unfold close
  split
  · split <;> exact .refl number s
  · exact touches_shutdown number s
  · exact touches_shutdown number s
  · exact .refl number s

/-- **A use of an exporter touches nothing else.** -/
theorem touches_use (number : Nat) (u : Use) (s : Store) : Touches number s (s.use number u).2 := by
  cases u with
  | «export» metrics => exact touches_export number metrics s
  | flush => exact .refl number s
  | shutdown => exact touches_shutdown number s
  | close => exact touches_close number s
  | send r =>
    unfold use
    dsimp only
    split
    · exact touches_send ‹_› r
    · exact .refl number s
  | closeChannel =>
    unfold use
    dsimp only
    split
    · exact touches_closeChannel ‹_›
    · exact .refl number s

end Touches

end Store

end Telemetry
