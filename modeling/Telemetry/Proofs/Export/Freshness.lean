import Telemetry.Proofs.Export.Closing

/-!
# Exporters are made afresh

* `Exporter.NewIn`: an exporter was made that is not shut down, and the channel of an OTLP exporter
  was made for it.
* `createExporter_new`: every exporter that is made is new.
* `Store.Fresh`: the resources are those of the exporters, one exporter after the other, no resource
  is there twice, and no exporter is shut down.
* `Fresh.createExporter`: making an exporter leaves a store fresh, whether it fails or not.
* `createEach_induction`, `createAll_induction`: what each making of an exporter preserves.
* **`createAll_fresh`**: so does making all exporters of a configuration.
* `Made.filterMap_numbers`, `Made.length_resources`: the exporters that were made are found by their
  numbers, and how many resources they have.
-/

namespace Telemetry

/-- Looking up what comes after other elements, one number after the other. -/
theorem filterMap_range' {α β : Type} (f : α → β) (before l : List α) :
    (List.range' before.length l.length).filterMap (fun n => ((before ++ l)[n]?).map f) =
      l.map f := by
  -- an element that was looked up is one of those before the rest
  induction l generalizing before with
  | nil => rfl
  | cons x l ih =>
    have hx : ((before ++ x :: l)[before.length]?).map f = some (f x) := by
      simp
    have hrest := ih (before ++ [x])
    rw [List.append_assoc, List.length_append] at hrest
    rw [List.length_cons, List.range'_succ, List.filterMap_cons, hx]
    exact congrArg (f x :: ·) hrest

namespace Exporter

/-- Whether an exporter is shut down, which plugins do not tell. -/
def isShutdown : Exporter → Bool
  | .otlp e => e.isShutdown
  | .console e => e.isShutdown
  | .plugin _ => false

/-- An exporter was made between two stores. It is not shut down, and if it needs a channel, then one
was made for it. -/
def NewIn (s t : Store) : Exporter → Prop
  | .otlp e => e.isShutdown = false ∧ e.channel = s.channels.length ∧ t.channels = s.channels ++ [{}]
  | .console e => e.isShutdown = false ∧ t.channels = s.channels
  | .plugin _ => t.channels = s.channels

/-- An OTLP exporter comes with two resources, and any other one with one. -/
theorem Leaves.length_eq {e : Exporter} {number : Nat} {key : String}
    {added : List Resource} (h : e.Leaves number key added) :
    added.length = 1 + if key = "otlp" then 1 else 0 := by
  cases h with
  | otlp e number => rfl
  | console e number => rfl
  | plugin e number hotlp _ =>
    rw [if_neg hotlp]
    rfl

end Exporter

namespace Store

/-! ## New exporters -/

/-- If an exporter was made, then it is new. -/
def MakesNew (s : Store) : Except ConfigFault Nat × Store → Prop
  | (.error _, _) => True
  | (.ok number, t) => ∃ e, t.exporters[number]? = some e ∧ e.NewIn s t

theorem createOtlp_new (view : Properties) (s : Store) : s.MakesNew (s.createOtlp view) := by
  have h := sameObjects_planOtlp view s
  unfold createOtlp
  generalize s.planOtlp view = r at h ⊢
  obtain ⟨fault | plan, t⟩ := r
  · trivial
  · refine ⟨_, List.getElem?_concat_length, rfl, ?_, ?_⟩
    · exact congrArg List.length h.channels
    · exact congrArg (· ++ [{}]) h.channels

theorem loadComponent_new (name : String) (config : Entries) (loader : Provider.Loader)
    (s : Store) : s.MakesNew (s.loadComponent name config loader) := by
  obtain ⟨t, -, hl⟩ | ⟨found, provider, events, hfound, ⟨fault, hl⟩ | ⟨e, number, t, ht, hl⟩⟩ :=
    loadComponent_cases name config loader s
  · rw [hl]
    trivial
  · rw [hl]
    trivial
  · rw [hl]
    obtain ⟨rfl, rfl⟩ := Prod.mk.inj ht
    exact ⟨_, List.getElem?_concat_length, hfound.sameObjects.channels⟩

theorem createCanonical_new (m : ExporterNode) (loader : Provider.Loader) (s : Store) :
    s.MakesNew (s.createCanonical m loader) := by
  cases m with
  | otlp settings => exact createOtlp_new ⟨Entries.ofPairs (settings.fields Tree.ofPairs), loader⟩ s
  | console => exact ⟨_, List.getElem?_concat_length, rfl, rfl⟩
  | named name config => exact loadComponent_new name config loader s

/-- **Every exporter that is made is new.** -/
theorem createExporter_new (node : ExporterNode) (loader : Provider.Loader) (s : Store) :
    s.MakesNew (s.createExporter node loader) := by
  obtain ⟨fault, -, hc⟩ | ⟨m, -, ⟨fault, t, -, hc⟩ | ⟨number, t, ht, hc⟩⟩ :=
    createExporter_cases node loader s
  · rw [hc]
    trivial
  · rw [hc]
    trivial
  · have h := createCanonical_new m loader s
    rw [ht] at h
    rw [hc]
    exact h

/-! ## Fresh stores -/

/-- Whether there is what a resource refers to. -/
def Has (s : Store) : Resource → Prop
  | .channel number => number < s.channels.length
  | .exporter number => number < s.exporters.length
  | .external _ _ => True

theorem Has.mono {s t : Store} {r : Resource} (h : s.Has r)
    (hchannels : s.channels.length ≤ t.channels.length)
    (hexporters : s.exporters.length ≤ t.exporters.length) : t.Has r := by
  cases r with
  | channel number => exact Nat.lt_of_lt_of_le h hchannels
  | exporter number => exact Nat.lt_of_lt_of_le h hexporters
  | external name failure => trivial

/-- The resources are those of the exporters, none of which is shut down. -/
structure Fresh (s : Store) : Prop where
  resources : s.resources = (s.exporters.mapIdx Exporter.resources).flatten
  has : ∀ r ∈ s.resources, s.Has r
  nodup : s.resources.Nodup
  running : ∀ e ∈ s.exporters, e.isShutdown = false

variable {s t : Store}

theorem Fresh.of_sameObjects (hs : s.Fresh) (h : s.SameObjects t) : t.Fresh where
  resources := by rw [h.resources, h.exporters, hs.resources]
  has := by
    rw [h.resources]
    exact fun r hr => (hs.has r hr).mono (Nat.le_of_eq (congrArg List.length h.channels).symm)
      (Nat.le_of_eq (congrArg List.length h.exporters).symm)
  nodup := h.resources ▸ hs.nodup
  running := h.exporters ▸ hs.running

/-- What comes with a new exporter was not there before. -/
theorem resources_of_newIn {e : Exporter} {added : List Resource}
    (ha : s.Adds s.exporters.length e added t) (hn : e.NewIn s t) :
    (∀ r ∈ e.resources s.exporters.length, t.Has r ∧ ¬ s.Has r) ∧
      (e.resources s.exporters.length).Nodup ∧ e.isShutdown = false ∧
        s.channels.length ≤ t.channels.length := by
  have hexporter : t.Has (.exporter s.exporters.length) ∧ ¬ s.Has (.exporter s.exporters.length) := by
    refine ⟨?_, Nat.lt_irrefl _⟩
    rw [Has, ha.exporters, List.length_append]
    exact Nat.lt_succ_self _
  cases e with
  | otlp e =>
    obtain ⟨hrunning, hchannel, hchannels⟩ := hn
    have hlength : t.channels.length = s.channels.length + 1 := by
      rw [hchannels, List.length_append]
      rfl
    have hnew : t.Has (.channel e.channel) ∧ ¬ s.Has (.channel e.channel) := by
      rw [Has, Has, hchannel, hlength]
      exact ⟨Nat.lt_succ_self _, Nat.lt_irrefl _⟩
    refine ⟨?_, ?_, hrunning, hlength ▸ Nat.le_succ _⟩
    · rw [Exporter.resources, List.forall_mem_cons, List.forall_mem_singleton]
      exact ⟨hnew, hexporter⟩
    · simp [Exporter.resources]
  | console e =>
    exact ⟨List.forall_mem_singleton.2 hexporter, List.pairwise_singleton _ _, hn.1, hn.2 ▸ Nat.le_refl _⟩
  | plugin e =>
    exact ⟨List.forall_mem_singleton.2 hexporter, List.pairwise_singleton _ _, rfl, hn ▸ Nat.le_refl _⟩

/-- A new exporter with its resources leaves a store fresh. -/
theorem Fresh.adds {number : Nat} {e : Exporter} (hs : s.Fresh)
    (ha : s.Adds number e (e.resources number) t) (hn : e.NewIn s t) : t.Fresh := by
  obtain rfl := ha.number_eq
  obtain ⟨hnew, hnodup, hrunning, hchannels⟩ := resources_of_newIn ha hn
  have hexporters : s.exporters.length ≤ t.exporters.length := by
    rw [ha.exporters, List.length_append]
    exact Nat.le_add_right _ _
  refine ⟨?_, ?_, ?_, ?_⟩
  · rw [ha.resources, hs.resources, ha.exporters, List.mapIdx_concat, List.flatten_append,
      List.flatten_singleton]
  · rw [ha.resources, List.forall_mem_append]
    exact ⟨fun r hr => (hs.has r hr).mono hchannels hexporters, fun r hr => (hnew r hr).1⟩
  · rw [ha.resources, List.nodup_append]
    refine ⟨hs.nodup, hnodup, ?_⟩
    rintro r hr _ hadded rfl
    exact (hnew r hadded).2 (hs.has r hr)
  · rw [ha.exporters, List.forall_mem_append]
    exact ⟨hs.running, List.forall_mem_singleton.2 hrunning⟩

/-- **Making an exporter leaves a store fresh**, whether it fails or not. -/
theorem Fresh.createExporter (hs : s.Fresh) (node : ExporterNode) (loader : Provider.Loader) :
    (s.createExporter node loader).2.Fresh := by
  -- what was made and what is new are about the same exporter, the one under the number
  have hmakes := createExporter_makes node loader s
  have hnew := createExporter_new node loader s
  generalize s.createExporter node loader = r at hmakes hnew ⊢
  obtain ⟨fault | number, t⟩ := r
  · exact hs.of_sameObjects hmakes
  · obtain ⟨e, added, ha, hl⟩ := hmakes
    obtain ⟨e', he, hn⟩ := hnew
    obtain rfl : e = e' := Option.some.inj (ha.getElem?.symm.trans he)
    obtain rfl := hl.eq_resources
    exact hs.adds ha hn

/-! ## Exporters of a configuration -/

section Induction

variable {P : Store → Prop} {loader : Provider.Loader}
  (hstep : ∀ node s, P s → P (s.createExporter node loader).2)

include hstep

/-- What each making of an exporter preserves. -/
theorem createEach_induction (nodes : List ExporterNode) (s : Store) (hs : P s) :
    P (createEach loader nodes s).2 := by
  induction nodes generalizing s with
  | nil => exact hs
  | cons node nodes ih =>
    have hnode := hstep node s hs
    rw [createEach]
    generalize s.createExporter node loader = r at hnode ⊢
    obtain ⟨fault | number, t⟩ := r
    · exact hnode
    · have hrest := ih t hnode
      dsimp only
      generalize createEach loader nodes t = r at hrest ⊢
      obtain ⟨fault | numbers, u⟩ := r <;> exact hrest

theorem createAll_induction (hlog : ∀ e s, P s → P (s.log e)) (c : Configuration) (s : Store)
    (hs : P s) : P (s.createAll c loader).2 := by
  unfold createAll
  cases c.meterProvider with
  | none => exact hs
  | some p =>
    dsimp only
    split
    · exact hlog _ s hs
    · exact createEach_induction hstep p.exporters s hs

end Induction

/-- **Making the exporters of a configuration leaves a store fresh**, even if one of them fails. -/
theorem createAll_fresh (c : Configuration) (loader : Provider.Loader) (hs : s.Fresh) :
    (s.createAll c loader).2.Fresh :=
  createAll_induction (fun node _ h => h.createExporter node loader)
    (fun e s h => h.of_sameObjects (sameObjects_log e s)) c s hs

/-- Making exporters closes nothing. -/
theorem closings_createAll (c : Configuration) (loader : Provider.Loader) (s : Store) :
    (s.createAll c loader).2.closings = s.closings :=
  createAll_induction (fun node t h => (closings_createExporter node loader t).trans h)
    (fun e t h => (notes_log e t).closesNothing.closings.trans h) c s rfl

/-! ## What was made -/

theorem Accounts.length_eq {t : Store} {nodes : List ExporterNode} {numbers : List Nat}
    {added : List Resource} (h : t.Accounts nodes numbers added) :
    added.length =
      nodes.length + nodes.countP fun n => decide (n.key = "otlp") := by
  induction h with
  | nil => rfl
  | cons _ hl _ ih =>
    rw [List.length_append, ih, hl.length_eq, List.length_cons, List.countP_cons]
    simp only [decide_eq_true_eq]
    omega

section Made

variable {s t : Store} {nodes : List ExporterNode} {numbers : List Nat}

theorem Made.filterMap_numbers {α : Type} (h : s.Made nodes numbers t) (hs : s.exporters = [])
    (f : Exporter → α) :
    numbers.filterMap (fun n => (t.exporters[n]?).map f) = t.exporters.map f := by
  obtain ⟨made, hlength, hmade⟩ := h.exporters
  rw [hs, List.nil_append] at hmade
  rw [h.numbers_eq, hmade, ← hlength, hs]
  exact filterMap_range' f [] made

theorem Made.length_resources (h : s.Made nodes numbers t) (hs : s.resources = []) :
    t.resources.length =
      nodes.length + nodes.countP fun n => decide (n.key = "otlp") := by
  obtain ⟨added, hadded, haccounts⟩ := h.resources
  rw [hadded, hs, List.nil_append, haccounts.length_eq]

end Made

end Store

end Telemetry
