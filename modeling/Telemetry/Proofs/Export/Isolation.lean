import Telemetry.Proofs.Export.Acceptance
import Telemetry.Proofs.Export.Freshness
import Telemetry.Proofs.Export.Lookup
import Telemetry.Proofs.Export.Sight

/-!
# Exporters are isolated from each other

* `Store.Apart`: no exporter that was made since some time shares its channel.
* `Store.Grows`: at most one exporter was added, with a channel that was added for it.
* `Store.Matches`: two outcomes of making an exporter that look the same.
* `Store.Alike`: two stores in which one exporter looks the same. Making exporters in both of them
  keeps them so, and so does a use of this exporter in both or of another one in either.
* `Step`, `Store.takeAll`, `Store.watch`: exporters are made and used, in any order, and what callers
  see of one of them. `Store.alone`: what they would see if it were all there is.
* **`takeAll_isolated`**: what is seen of an exporter is up to its own uses.
-/

namespace Telemetry.Store

variable {s t : Store} {base number : Nat}

/-! ## Channels that are not shared -/

/-- All channels are there, and no exporter shares the channel of one from number `base` on. -/
structure Apart (base : Nat) (s : Store) : Prop where
  channel_lt : ∀ n c, s.channelOf? n = some c → c < s.channels.length
  ne : ∀ m n c, base ≤ n → m ≠ n → s.channelOf? n = some c → s.channelOf? m ≠ some c

theorem apart_length (h : ∀ (n : Nat) (e : OtlpExporter), s.exporters[n]? = some (.otlp e) →
    e.channel < s.channels.length) : s.Apart s.exporters.length := by
  refine ⟨fun n c hc => ?_, fun m n c hn _ hc => ?_⟩
  · obtain ⟨e, he, rfl⟩ := exists_of_channelOf? hc
    exact h n e he
  · obtain ⟨e, he, -⟩ := exists_of_channelOf? hc
    exact absurd (List.getElem?_eq_some_iff.1 he).1 (by omega)

/-- What is seen of an exporter is what it is and what its channel is. -/
theorem sight_congr (he : t.exporters[number]? = s.exporters[number]?)
    (hc : ∀ c, s.channelOf? number = some c → t.channel c = s.channel c) :
    t.sight number = s.sight number := by
  rw [sight, sight, he]
  cases hs : s.exporters[number]? with
  | none => rfl
  | some e =>
    cases e with
    | otlp e =>
      exact congrArg (fun c => some (Sight.otlp e.plan e.isShutdown c)) (hc _ (channelOf?_otlp hs))
    | console e => rfl
    | plugin e => rfl

theorem Touches.channelOf?_eq {k : Nat} (h : Touches k s t) (n : Nat) :
    t.channelOf? n = s.channelOf? n := by
  by_cases hn : n = k
  · subst hn
    exact h.channelOf?
  · rw [Store.channelOf?, Store.channelOf?, h.exporter n hn]

/-- **A use of one exporter is not seen of another one.** -/
theorem Touches.sight_eq {k : Nat} (h : Touches k s t) (hs : s.Apart base) (hn : base ≤ number)
    (hne : k ≠ number) : t.sight number = s.sight number :=
  sight_congr (h.exporter number hne.symm) fun c hc => h.channel c (hs.ne k number c hn hne hc)

theorem Apart.touches {k : Nat} (hs : s.Apart base) (h : Touches k s t) : t.Apart base where
  channel_lt n c hc := by
    rw [h.channelOf?_eq] at hc
    rw [h.channels_length]
    exact hs.channel_lt n c hc
  ne m n c hn hne hc := by
    rw [h.channelOf?_eq] at hc ⊢
    exact hs.ne m n c hn hne hc

/-! ## Making exporters -/

/-- At most one exporter was added, with the next number, and its channel, if it has one, was added
for it. -/
structure Grows (s t : Store) : Prop where
  exporter : ∀ n, n ≠ s.exporters.length → t.exporters[n]? = s.exporters[n]?
  channels_length : s.channels.length ≤ t.channels.length
  channel : ∀ c, c < s.channels.length → t.channel c = s.channel c
  channelOf? : ∀ n c, t.channelOf? n = some c → s.channelOf? n = some c ∨
    n = s.exporters.length ∧ c = s.channels.length ∧ c < t.channels.length

theorem SameObjects.grows (h : s.SameObjects t) : s.Grows t where
  exporter n _ := by rw [h.exporters]
  channels_length := (congrArg List.length h.channels).ge
  channel c _ := h.channel c
  channelOf? n c hc := .inl (h.channelOf? n ▸ hc)

theorem getElem?_concat_of_ne {α : Type} {l : List α} {n : Nat} (h : n ≠ l.length) (a : α) :
    (l ++ [a])[n]? = l[n]? := by
  by_cases hlt : n < l.length
  · exact List.getElem?_append_left hlt
  · have hlong : (l ++ [a]).length ≤ n := by
      rw [List.length_append, List.length_singleton]
      omega
    rw [List.getElem?_eq_none hlong, List.getElem?_eq_none (by omega)]

theorem channel_of_append {added : List Channel} (h : t.channels = s.channels ++ added) {c : Nat}
    (hc : c < s.channels.length) : t.channel c = s.channel c := by
  rw [channel, channel, h, List.getElem?_append_left hc]

theorem exists_channels_of_newIn {e : Exporter} (h : e.NewIn s t) :
    ∃ added, t.channels = s.channels ++ added := by
  cases e with
  | otlp o => exact ⟨_, h.2.2⟩
  | console e => exact ⟨[], h.2.trans (List.append_nil _).symm⟩
  | plugin e => exact ⟨[], h.trans (List.append_nil _).symm⟩

theorem grows_of_newIn {e : Exporter} (he : t.exporters = s.exporters ++ [e]) (hn : e.NewIn s t) :
    s.Grows t := by
  have hexporter : ∀ n, n ≠ s.exporters.length → t.exporters[n]? = s.exporters[n]? := by
    intro n hne
    rw [he, getElem?_concat_of_ne hne]
  obtain ⟨added, hadded⟩ := exists_channels_of_newIn hn
  refine ⟨hexporter, ?_, fun c hc => channel_of_append hadded hc, fun n c hc => ?_⟩
  · rw [hadded, List.length_append]
    exact Nat.le_add_right _ _
  · by_cases hne : n = s.exporters.length
    · subst hne
      have hlast : t.exporters[s.exporters.length]? = some e := by
        rw [he]
        exact List.getElem?_concat_length
      rw [channelOf?, hlast] at hc
      cases e with
      | otlp o =>
        obtain ⟨-, hchannel, hone⟩ := hn
        obtain rfl : o.channel = c := Option.some.inj hc
        refine .inr ⟨rfl, hchannel, ?_⟩
        rw [hchannel, hone, List.length_append, List.length_singleton]
        exact Nat.lt_succ_self _
      | console e => cases hc
      | plugin e => cases hc
    · rw [channelOf?, hexporter n hne] at hc
      exact .inl hc

theorem createExporter_grows (node : ExporterNode) (loader : Provider.Loader) (s : Store) :
    s.Grows (s.createExporter node loader).2 := by
  have hmakes := createExporter_makes node loader s
  have hnew := createExporter_new node loader s
  generalize s.createExporter node loader = r at hmakes hnew ⊢
  obtain ⟨fault | number, t⟩ := r
  · exact hmakes.grows
  · obtain ⟨e, added, ha, -⟩ := hmakes
    obtain ⟨e', he, hn⟩ := hnew
    obtain rfl : e = e' := Option.some.inj (ha.getElem?.symm.trans he)
    exact grows_of_newIn ha.exporters hn

/-- **A new exporter has its channel to itself.** -/
theorem Apart.grows (hs : s.Apart base) (h : s.Grows t) : t.Apart base where
  channel_lt n c hc := by
    obtain hc | ⟨-, -, hlt⟩ := h.channelOf? n c hc
    · exact Nat.lt_of_lt_of_le (hs.channel_lt n c hc) h.channels_length
    · exact hlt
  ne m n c hn hne hc hm := by
    obtain hc | ⟨hlast, hlen, -⟩ := h.channelOf? n c hc <;>
      obtain hm | ⟨hlast', hlen', -⟩ := h.channelOf? m c hm
    · exact hs.ne m n c hn hne hc hm
    · exact absurd (hs.channel_lt n c hc) (by omega)
    · exact absurd (hs.channel_lt m c hm) (by omega)
    · exact hne (hlast'.trans hlast.symm)

/-- **The making of an exporter is not seen of another one.** -/
theorem Grows.sight_eq (h : s.Grows t) (hs : s.Apart base) (hn : number ≠ s.exporters.length) :
    t.sight number = s.sight number :=
  sight_congr (h.exporter number hn) fun c hc => h.channel c (hs.channel_lt number c hc)

theorem lt_length_of_sight {x : Sight} (h : s.sight number = some x) :
    number < s.exporters.length := by
  obtain ⟨e, he, -⟩ := Option.map_eq_some_iff.1 h
  exact (List.getElem?_eq_some_iff.1 he).1

/-! ## Making exporters in two stores -/

theorem held_createOtlp (view : Properties) (s : Store) :
    (s.createOtlp view).2.catalogue.held = s.catalogue.held := by
  have h := (finds_planOtlp view s).held
  unfold createOtlp
  generalize s.planOtlp view = r at h ⊢
  obtain ⟨fault | plan, t⟩ := r <;> exact h

theorem held_loadComponent (name : String) (config : Entries) (loader : Provider.Loader)
    (s : Store) :
    (s.loadComponent name config loader).2.catalogue.held = s.catalogue.held := by
  obtain ⟨t, hfound, hl⟩ | ⟨found, provider, events, hfound, ⟨fault, hl⟩ | ⟨e, number, t, ht, hl⟩⟩ :=
    loadComponent_cases name config loader s
  · rw [hl]
    exact hfound.held
  · rw [hl]
    exact hfound.held
  · rw [hl]
    obtain ⟨-, rfl⟩ := Prod.mk.inj ht
    exact hfound.held

/-- Making an exporter changes nothing about the plugins that are found. -/
theorem held_createExporter (node : ExporterNode) (loader : Provider.Loader) (s : Store) :
    (s.createExporter node loader).2.catalogue.held = s.catalogue.held := by
  have hcanonical : ∀ m : ExporterNode,
      (s.createCanonical m loader).2.catalogue.held = s.catalogue.held := by
    intro m
    cases m with
    | otlp settings =>
      exact held_createOtlp ⟨Entries.ofPairs (settings.fields Tree.ofPairs), loader⟩ s
    | console => rfl
    | named name config => exact held_loadComponent name config loader s
  obtain ⟨fault, -, hc⟩ | ⟨m, -, ⟨fault, t, ht, hc⟩ | ⟨number, t, ht, hc⟩⟩ :=
    createExporter_cases node loader s
  · rw [hc]
  · rw [hc, ← hcanonical m, ht]
  · rw [hc, ← hcanonical m, ht]
    rfl

/-- The same outcome, and the exporter that was made, if any, looks the same. -/
structure Matches (r₁ r₂ : Except ConfigFault Nat × Store) : Prop where
  outcome : r₂.1 = r₁.1
  sight : ∀ number, r₁.1 = .ok number → r₂.2.sight number = r₁.2.sight number

theorem Matches.error (fault : ConfigFault) (s t : Store) :
    Matches (.error fault, s) (.error fault, t) := ⟨rfl, fun _ h => by cases h⟩

/-- Exporters that look the same were made under the next number, which is the same too. -/
theorem Matches.ok {s' t' : Store} {x : Sight}
    (hlength : t.exporters.length = s.exporters.length)
    (hs : s'.sight s.exporters.length = some x) (ht : t'.sight t.exporters.length = some x) :
    Matches (.ok s.exporters.length, s') (.ok t.exporters.length, t') := by
  refine ⟨congrArg Except.ok hlength, fun number h => ?_⟩
  obtain rfl : s.exporters.length = number := Except.ok.inj h
  rw [hs, ← hlength, ht]

theorem sight_addExporter_console (e : ConsoleExporter) (s : Store) :
    (s.addExporter (.console e)).2.sight s.exporters.length = some (.console e) := by
  rw [sight, addExporter, List.getElem?_concat_length]
  rfl

theorem sight_addExporter_plugin (e : PluginExporter) (s : Store) :
    (s.addExporter (.plugin e)).2.sight s.exporters.length = some (.plugin e) := by
  rw [sight, addExporter, List.getElem?_concat_length]
  rfl

theorem sight_addOtlp (plan : Otlp.Plan) (s : Store) :
    (s.addOtlp plan).2.sight s.exporters.length = some (.otlp plan false {}) := by
  have he : (s.addOtlp plan).2.exporters[s.exporters.length]? =
      some (.otlp { plan, channel := s.channels.length }) := List.getElem?_concat_length
  have hc : (s.addOtlp plan).2.channels[s.channels.length]? = some {} := List.getElem?_concat_length
  rw [sight_otlp he, channel, hc]
  rfl

section Matches

variable (hlength : t.exporters.length = s.exporters.length)
  (hheld : t.catalogue.held = s.catalogue.held)

include hlength hheld

theorem createOtlp_matches (view : Properties) :
    Matches (s.createOtlp view) (t.createOtlp view) := by
  have hplan : (t.planOtlp view).1 = (s.planOtlp view).1 := by
    rw [fst_planOtlp, fst_planOtlp, fst_compressors, fst_compressors, found_congr hheld]
  have hs := congrArg List.length (sameObjects_planOtlp view s).exporters
  have ht := congrArg List.length (sameObjects_planOtlp view t).exporters
  unfold createOtlp
  generalize s.planOtlp view = r₁ at hplan hs ⊢
  generalize t.planOtlp view = r₂ at hplan ht ⊢
  obtain ⟨outcome, s'⟩ := r₁
  obtain ⟨_, t'⟩ := r₂
  cases hplan
  cases outcome with
  | error fault => exact .error fault s' t'
  | ok plan =>
    exact .ok (ht.trans (hlength.trans hs.symm)) (sight_addOtlp plan s') (sight_addOtlp plan t')

theorem loadComponent_matches (name : String) (config : Entries) (loader : Provider.Loader) :
    Matches (s.loadComponent name config loader) (t.loadComponent name config loader) := by
  have hoffered : t.offered loader = s.offered loader := by
    rw [offered, offered, found_congr hheld]
  have hcompressors : t.offeredCompressors loader = s.offeredCompressors loader := by
    rw [offeredCompressors, offeredCompressors, found_congr hheld]
  rw [loadComponent_eq, loadComponent_eq, hoffered, hcompressors]
  cases (s.offered loader).find? fun p => p.name == name with
  | none => exact .error _ _ _
  | some p =>
    have hs := fun events => sameObjects_asked p.name name loader events s
    have ht := fun events => sameObjects_asked p.name name loader events t
    cases hr : p.create ⟨config, loader⟩ (s.offeredCompressors loader) with
    | mk answer events =>
      simp only [hr]
      cases answer with
      | error fault => exact .error fault _ _
      | ok e =>
        have hnumber : (t.asked p.name name loader events).exporters.length =
            (s.asked p.name name loader events).exporters.length := by
          rw [(ht events).exporters, (hs events).exporters, hlength]
        exact .ok hnumber (sight_addExporter_plugin e _) (sight_addExporter_plugin e _)

theorem createCanonical_matches (m : ExporterNode) (loader : Provider.Loader) :
    Matches (s.createCanonical m loader) (t.createCanonical m loader) := by
  cases m with
  | otlp settings =>
    exact createOtlp_matches hlength hheld ⟨Entries.ofPairs (settings.fields Tree.ofPairs), loader⟩
  | console => exact .ok hlength (sight_addExporter_console {} s) (sight_addExporter_console {} t)
  | named name config => exact loadComponent_matches hlength hheld name config loader

/-- **What exporter is made of a node** depends on the plugins that are found, and its number on how
many there are. -/
theorem createExporter_matches (node : ExporterNode) (loader : Provider.Loader) :
    Matches (s.createExporter node loader) (t.createExporter node loader) := by
  unfold createExporter
  cases node.canonical with
  | error fault => exact .error _ s t
  | ok m =>
    obtain ⟨houtcome, hsight⟩ := createCanonical_matches hlength hheld m loader
    dsimp only
    generalize s.createCanonical m loader = r₁ at houtcome hsight ⊢
    generalize t.createCanonical m loader = r₂ at houtcome hsight ⊢
    obtain ⟨outcome, s'⟩ := r₁
    obtain ⟨_, t'⟩ := r₂
    cases houtcome
    cases outcome with
    | error fault => exact .error fault s' t'
    | ok number => exact ⟨rfl, hsight⟩

end Matches

/-! ## Two stores -/

/-- Two stores in which an exporter looks the same. They have as many exporters and find the same
plugins, and no exporter from number `base` on shares its channel. -/
structure Alike (base number : Nat) (s t : Store) : Prop where
  left : s.Apart base
  right : t.Apart base
  exporters_length : t.exporters.length = s.exporters.length
  held : t.catalogue.held = s.catalogue.held
  sight : t.sight number = s.sight number

theorem Alike.refl (hs : s.Apart base) (number : Nat) : Alike base number s s :=
  ⟨hs, hs, rfl, rfl, rfl⟩

theorem Alike.createExporter (h : Alike base number s t) (node : ExporterNode)
    (loader : Provider.Loader) :
    (t.createExporter node loader).1 = (s.createExporter node loader).1 ∧
      Alike base number (s.createExporter node loader).2 (t.createExporter node loader).2 := by
  obtain ⟨houtcome, hsight⟩ := createExporter_matches h.exporters_length h.held node loader
  have hs := createExporter_grows node loader s
  have ht := createExporter_grows node loader t
  have hmade := createExporter_makes node loader s
  have hmade' := createExporter_makes node loader t
  have hheld := (held_createExporter node loader t).trans
    (h.held.trans (held_createExporter node loader s).symm)
  generalize s.createExporter node loader = r₁ at *
  generalize t.createExporter node loader = r₂ at *
  obtain ⟨outcome, s'⟩ := r₁
  obtain ⟨_, t'⟩ := r₂
  cases houtcome
  refine ⟨rfl, h.left.grows hs, h.right.grows ht, ?_, hheld, ?_⟩
  · cases outcome with
    | error fault => rw [hmade.exporters, hmade'.exporters, h.exporters_length]
    | ok made =>
      obtain ⟨e, added, ha, -⟩ := hmade
      obtain ⟨e', added', ha', -⟩ := hmade'
      rw [ha.exporters, ha'.exporters, List.length_append, List.length_append, h.exporters_length]
      rfl
  · cases outcome with
    | error fault => rw [hmade.sight, hmade'.sight, h.sight]
    | ok made =>
      obtain ⟨e, added, ha, -⟩ := hmade
      by_cases hn : number = s.exporters.length
      · rw [hn, ← ha.number_eq]
        exact hsight made rfl
      · have hn' : number ≠ t.exporters.length := h.exporters_length ▸ hn
        exact (ht.sight_eq h.right hn').trans (h.sight.trans (hs.sight_eq h.left hn).symm)

theorem Alike.createEach (h : Alike base number s t) (loader : Provider.Loader)
    (nodes : List ExporterNode) :
    Alike base number (createEach loader nodes s).2 (createEach loader nodes t).2 := by
  induction nodes generalizing s t with
  | nil => exact h
  | cons node nodes ih =>
    obtain ⟨houtcome, hnode⟩ := h.createExporter node loader
    rw [Store.createEach, Store.createEach]
    generalize s.createExporter node loader = r₁ at houtcome hnode ⊢
    generalize t.createExporter node loader = r₂ at houtcome hnode ⊢
    obtain ⟨outcome, s'⟩ := r₁
    obtain ⟨_, t'⟩ := r₂
    cases houtcome
    cases outcome with
    | error fault => exact hnode
    | ok made =>
      have hrest := ih hnode
      dsimp only
      generalize Store.createEach loader nodes s' = r₁ at hrest ⊢
      generalize Store.createEach loader nodes t' = r₂ at hrest ⊢
      obtain ⟨_ | _, s''⟩ := r₁ <;> obtain ⟨_ | _, t''⟩ := r₂ <;> exact hrest

theorem Alike.createAll (h : Alike base number s t) (c : Configuration) (loader : Provider.Loader) :
    Alike base number (s.createAll c loader).2 (t.createAll c loader).2 := by
  have hlog : ∀ e, Alike base number (s.log e) (t.log e) := fun e =>
    ⟨h.left.touches (touches_log number e s), h.right.touches (touches_log number e t),
      h.exporters_length, h.held, h.sight⟩
  unfold Store.createAll
  cases c.meterProvider with
  | none => exact h
  | some p =>
    dsimp only
    split_ifs
    · exact hlog _
    · exact h.createEach loader p.exporters

/-- A use of the exporter in both stores has the same answer. -/
theorem Alike.use (h : Alike base number s t) (u : Use) :
    (t.use number u).1 = (s.use number u).1 ∧
      Alike base number (s.use number u).2 (t.use number u).2 := by
  have hs := touches_use number u s
  have ht := touches_use number u t
  have hsame : (t.use number u).1 = (s.use number u).1 ∧
      (t.use number u).2.sight number = (s.use number u).2.sight number := by
    cases hx : s.sight number with
    | some x =>
      obtain ⟨hanswer, hseen⟩ := use_eq hx (h.left.channel_lt number) u
      obtain ⟨hanswer', hseen'⟩ := use_eq (h.sight.trans hx) (h.right.channel_lt number) u
      exact ⟨hanswer'.trans hanswer.symm, hseen'.trans hseen.symm⟩
    | none =>
      rw [use_missing hx u, use_missing (h.sight.trans hx) u]
      exact ⟨rfl, h.sight⟩
  refine ⟨hsame.1, h.left.touches hs, h.right.touches ht, ?_, ?_, hsame.2⟩
  · rw [hs.exporters_length, ht.exporters_length, h.exporters_length]
  · rw [hs.catalogue, ht.catalogue, h.held]

/-- A use of another exporter in one store goes unnoticed. -/
theorem Alike.use_other (h : Alike base number s t) (hn : base ≤ number) {m : Nat}
    (hne : m ≠ number) (u : Use) : Alike base number (s.use m u).2 t := by
  have hm := touches_use m u s
  refine ⟨h.left.touches hm, h.right, ?_, ?_, ?_⟩
  · rw [h.exporters_length, hm.exporters_length]
  · rw [h.held, hm.catalogue]
  · rw [h.sight, hm.sight_eq h.left hn hne]

/-! ## Runs -/

/-- The making of an exporter or of those of a configuration, or the use of an exporter. -/
inductive Step where
  | create (node : ExporterNode) (loader : Provider.Loader)
  | createAll (c : Configuration) (loader : Provider.Loader)
  | use (number : Nat) (u : Use)

/-- Whether a step is no use of an exporter other than the one with a number. -/
def Step.concerns (number : Nat) : Step → Bool
  | .use m _ => m == number
  | _ => true

/-- Takes a step. -/
def take (step : Step) (s : Store) : Store :=
  match step with
  | .create node loader => (s.createExporter node loader).2
  | .createAll c loader => (s.createAll c loader).2
  | .use number u => (s.use number u).2

/-- Takes steps, one after the other. -/
def takeAll (steps : List Step) (s : Store) : Store := steps.foldl (fun s step => s.take step) s

/-- What callers see of an exporter at a step: if it is used, their answer, and what it is then. -/
def seen (number : Nat) (step : Step) (s : Store) : List (Answer × Option Sight) :=
  match step with
  | .use m u => if m = number then [((s.use m u).1, (s.use m u).2.sight number)] else []
  | _ => []

/-- What callers see of an exporter during steps. -/
def watch (number : Nat) : List Step → Store → List (Answer × Option Sight)
  | [], _ => []
  | step :: steps, s => s.seen number step ++ watch number steps (s.take step)

/-- The use of an exporter that a step is, if it is one. -/
def Step.use? (number : Nat) : Step → Option Use
  | .use m u => if m = number then some u else none
  | _ => none

/-- What callers see of an exporter by itself, one use after the other. -/
def alone (x : Sight) : List Use → List (Answer × Option Sight)
  | [] => []
  | u :: us => ((x.use u).1, some (x.use u).2) :: alone (x.use u).2 us

theorem Apart.take (hs : s.Apart base) (step : Step) : (s.take step).Apart base := by
  cases step with
  | create node loader => exact hs.grows (createExporter_grows node loader s)
  | createAll c loader =>
    exact createAll_induction (fun node s h => h.grows (createExporter_grows node loader s))
      (fun e s h => h.touches (touches_log 0 e s)) c s hs
  | use m u => exact hs.touches (touches_use m u s)

theorem Apart.takeAll (hs : s.Apart base) (steps : List Step) : (s.takeAll steps).Apart base := by
  induction steps generalizing s with
  | nil => exact hs
  | cons step steps ih => exact ih (hs.take step)

/-- **A step that is no use of an exporter is not seen of it.** -/
theorem Apart.sight_take (hs : s.Apart base) (hn : base ≤ number) {x : Sight}
    (hx : s.sight number = some x) {step : Step} (hstep : ∀ u, step ≠ .use number u) :
    (s.take step).sight number = some x := by
  have hcreate : ∀ node loader (t : Store), t.Apart base ∧ t.sight number = some x →
      (t.createExporter node loader).2.Apart base ∧
        (t.createExporter node loader).2.sight number = some x := by
    rintro node loader t ⟨ht, hseen⟩
    have hgrows := createExporter_grows node loader t
    refine ⟨ht.grows hgrows, ?_⟩
    rw [hgrows.sight_eq ht (lt_length_of_sight hseen).ne, hseen]
  cases step with
  | create node loader => exact (hcreate node loader s ⟨hs, hx⟩).2
  | createAll c loader =>
    exact (createAll_induction (P := fun t => t.Apart base ∧ t.sight number = some x)
      (fun node t => hcreate node loader t)
      (fun e t h => ⟨h.1.touches (touches_log 0 e t), h.2⟩) c s ⟨hs, hx⟩).2
  | use m u =>
    have hne : m ≠ number := fun h => hstep u (h ▸ rfl)
    exact ((touches_use m u s).sight_eq hs hn hne).trans hx

/-- **What is seen of an exporter** is what would be seen of it by itself. -/
theorem Apart.watch_eq (hs : s.Apart base) (hn : base ≤ number) {x : Sight}
    (hx : s.sight number = some x) (steps : List Step) :
    watch number steps s = alone x (steps.filterMap (Step.use? number)) := by
  induction steps generalizing s x with
  | nil => rfl
  | cons step steps ih =>
    by_cases hstep : ∃ u, step = .use number u
    · obtain ⟨u, rfl⟩ := hstep
      obtain ⟨hanswer, hsight⟩ := use_eq hx (hs.channel_lt number) u
      have huse : (Step.use number u).use? number = some u := if_pos rfl
      rw [watch, seen, if_pos rfl, List.filterMap_cons_some huse, alone, hanswer, hsight]
      exact congrArg _ (ih (hs.take (.use number u)) hsight)
    · have hother : ∀ u, step ≠ .use number u := not_exists.1 hstep
      have hnone : step.use? number = none ∧ s.seen number step = [] := by
        cases step with
        | use m u =>
          have hm : m ≠ number := fun h => hother u (h ▸ rfl)
          exact ⟨if_neg hm, if_neg hm⟩
        | _ => exact ⟨rfl, rfl⟩
      rw [watch, hnone.2, List.nil_append, List.filterMap_cons_none hnone.1]
      exact ih (hs.take step) (hs.sight_take hn hx hother)

/-- Steps that are uses of other exporters may be left out. -/
theorem Alike.watch_filter (h : Alike base number s t) (hn : base ≤ number) (steps : List Step) :
    watch number steps s = watch number (steps.filter (Step.concerns number)) t ∧
      Alike base number (s.takeAll steps) (t.takeAll (steps.filter (Step.concerns number))) := by
  induction steps generalizing s t with
  | nil => exact ⟨rfl, h⟩
  | cons step steps ih =>
    cases step with
    | create node loader => exact ih (h.createExporter node loader).2
    | createAll c loader => exact ih (h.createAll c loader)
    | use m u =>
      by_cases hm : m = number
      · subst hm
        obtain ⟨hanswer, hused⟩ := h.use u
        obtain ⟨hwatch, hend⟩ := ih hused
        have hkept : (Step.use m u).concerns m = true := beq_self_eq_true m
        rw [List.filter_cons_of_pos hkept]
        refine ⟨?_, hend⟩
        rw [watch, watch, seen, seen, if_pos rfl, if_pos rfl, hanswer, hused.sight]
        exact congrArg _ hwatch
      · obtain ⟨hwatch, hend⟩ := ih (h.use_other hn hm u)
        have hleft : ¬ (Step.use m u).concerns number = true := by
          rw [Step.concerns, beq_iff_eq]
          exact hm
        rw [List.filter_cons_of_neg hleft]
        refine ⟨?_, hend⟩
        rw [watch, seen, if_neg hm]
        exact hwatch

/-- **Exporters are isolated from each other.** No step but its own uses changes an exporter that
was made, or what its callers are told. -/
theorem takeAll_isolated {start : Store}
    (hstart : ∀ (m : Nat) (e : OtlpExporter), start.exporters[m]? = some (.otlp e) →
      e.channel < start.channels.length)
    {number : Nat} (hnumber : start.exporters.length ≤ number) (steps : List Step) :
    (∀ step x, (start.takeAll steps).sight number = some x → (∀ u, step ≠ .use number u) →
      ((start.takeAll steps).take step).sight number = some x) ∧
    (∀ future x, (start.takeAll steps).sight number = some x →
      watch number future (start.takeAll steps) =
        alone x (future.filterMap (Step.use? number))) ∧
    watch number steps start = watch number (steps.filter (Step.concerns number)) start ∧
    (start.takeAll steps).sight number =
      (start.takeAll (steps.filter (Step.concerns number))).sight number := by
  have hapart := apart_length hstart
  obtain ⟨hwatch, hend⟩ := (Alike.refl hapart number).watch_filter hnumber steps
  exact ⟨fun step x hx hstep => (hapart.takeAll steps).sight_take hnumber hx hstep,
    fun future x hx => (hapart.takeAll steps).watch_eq hnumber hx future, hwatch, hend.sight.symm⟩

/-- A configuration with two OTLP exporters. -/
def twoReaders : Configuration where
  fileFormat := "1.0-rc.1"
  disabled := none
  meterProvider := some ⟨[⟨some ⟨none, none, .otlp {}⟩⟩, ⟨some ⟨none, none, .otlp {}⟩⟩]⟩

/-- Three exporters are made next to those that share a channel, and the first of them exports
twice, while others are used and ended. -/
def busySteps : List Step :=
  [.createAll twoReaders (.registry 0), .use 3 (.export []), .use 0 .shutdown, .use 4 .closeChannel,
    .create (.otlp {}) (.registry 0), .use 1 (.export []), .use 5 .close, .use 3 (.export [])]

/-- The exporter that exports twice is told the same as if it were alone. Its channel stays open,
next to one that is closed. -/
theorem takeAll_busySteps :
    (∀ (m : Nat) (e : OtlpExporter), sharedChannel.exporters[m]? = some (.otlp e) →
      e.channel < sharedChannel.channels.length) ∧
    sharedChannel.exporters.length ≤ 3 ∧
    watch 3 busySteps sharedChannel =
      watch 3 [.createAll twoReaders (.registry 0), .use 3 (.export []),
        .create (.otlp {}) (.registry 0), .use 3 (.export [])] sharedChannel ∧
    ((sharedChannel.takeAll busySteps).take (.use 4 .close)).sight 3 =
      (sharedChannel.takeAll busySteps).sight 3 ∧
    (∃ x, (sharedChannel.takeAll busySteps).sight 3 = some x ∧
      watch 3 [.use 4 .shutdown, .use 3 .close, .create .console (.registry 0)]
        (sharedChannel.takeAll busySteps) = [((x.use .close).1, some (x.use .close).2)]) ∧
    (sharedChannel.takeAll busySteps).channelOf? 3 = some 1 ∧
    ((sharedChannel.takeAll busySteps).channel 1).isClosed = false ∧
    ((sharedChannel.takeAll busySteps).channel 1).last.isSome = true ∧
    ((sharedChannel.takeAll busySteps).channel 2).isClosed = true := by
  have hstart : ∀ (m : Nat) (e : OtlpExporter), sharedChannel.exporters[m]? = some (.otlp e) →
      e.channel < sharedChannel.channels.length := by
    intro m e he
    have hmem := List.mem_of_getElem? he
    simp only [sharedChannel, List.mem_cons, List.not_mem_nil, or_false] at hmem
    obtain he | he | he := hmem <;> cases he <;> decide
  have hnumber : sharedChannel.exporters.length ≤ 3 := by decide
  have hthere : ((sharedChannel.takeAll busySteps).sight 3).isSome = true := by decide +kernel
  obtain ⟨x, hx⟩ := Option.isSome_iff_exists.1 hthere
  obtain ⟨hkept, hfuture, hwatch, -⟩ := takeAll_isolated hstart hnumber busySteps
  refine ⟨hstart, hnumber, hwatch, ?_, ⟨x, hx, hfuture _ x hx⟩, by decide +kernel⟩
  exact (hkept (.use 4 .close) x hx fun _ h => by cases h).trans hx.symm

end Telemetry.Store
