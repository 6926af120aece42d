import Mathlib.Tactic.SplitIfs
import Telemetry.Export.Creation
import Telemetry.Export.Delivery

/-!
# What steps leave alone

* `Store.SameObjects`: the same channels, exporters and resources.
* `Store.Finds`: looking for plugins and logging, which is all that planning an exporter does. It
  leaves channels, exporters and resources alone.
* `loadComponent_cases`, `createExporter_cases`: what making an exporter comes to.
* `Store.channel_setChannel`, `Store.getElem?_setExporter`: a change under one number leaves all
  others alone.
-/

namespace Telemetry.Store

/-- The same channels, exporters and resources; plugins may have been linked and events logged. -/
structure SameObjects (s t : Store) : Prop where
  channels : t.channels = s.channels
  exporters : t.exporters = s.exporters
  resources : t.resources = s.resources

theorem SameObjects.refl (s : Store) : s.SameObjects s := ⟨rfl, rfl, rfl⟩

theorem SameObjects.symm {s t : Store} (h : s.SameObjects t) : t.SameObjects s :=
  ⟨h.channels.symm, h.exporters.symm, h.resources.symm⟩

theorem SameObjects.trans {s t u : Store} (h : s.SameObjects t) (h' : t.SameObjects u) :
    s.SameObjects u :=
  ⟨h'.channels.trans h.channels, h'.exporters.trans h.exporters, h'.resources.trans h.resources⟩

/-! ## Journal and plugins -/

theorem sameObjects_note (n : Notice) (s : Store) : s.SameObjects (s.note n) := ⟨rfl, rfl, rfl⟩

theorem sameObjects_log (e : Log.Event) (s : Store) : s.SameObjects (s.log e) := ⟨rfl, rfl, rfl⟩

theorem sameObjects_logAll (es : List Log.Event) (s : Store) : s.SameObjects (s.logAll es) :=
  ⟨rfl, rfl, rfl⟩

theorem sameObjects_load (k : Capability) (loader : Provider.Loader) (s : Store) :
    s.SameObjects (s.load k loader).2 := ⟨rfl, rfl, rfl⟩

/-- Nothing was done but to look for plugins and to log events. -/
inductive Finds (s : Store) : Store → Prop
  | refl : Finds s s
  | load {t : Store} (k : Capability) (loader : Provider.Loader) :
    Finds s t → Finds s (t.load k loader).2
  | log {t : Store} (e : Log.Event) : Finds s t → Finds s (t.log e)

theorem Finds.sameObjects {s t : Store} (h : s.Finds t) : s.SameObjects t := by
  induction h with
  | refl => exact .refl s
  | load k loader _ ih => exact ih.trans (sameObjects_load k loader _)
  | log e _ ih => exact ih.trans (sameObjects_log e _)

theorem finds_resolve (loader : Provider.Loader) (method : String) (s : Store) :
    s.Finds (s.resolve loader method).2 := by
  have hfound : s.Finds (s.compressors loader).2 := .load .compressor loader .refl
  rw [resolve]
  split_ifs
  · exact .refl
  · dsimp only
    split
    · exact .log _ hfound
    · exact hfound

theorem finds_planOtlp (view : Properties) (s : Store) : s.Finds (s.planOtlp view).2 := by
  unfold planOtlp
  cases Otlp.Plan.withAddress view {} with
  | error fault => exact .refl
  | ok plan =>
    cases view.text? "compression" with
    | none => exact .refl
    | some method =>
      have h := finds_resolve view.loader method s
      dsimp only
      generalize s.resolve view.loader method = r at h ⊢
      obtain ⟨outcome, t⟩ := r
      cases outcome <;> exact h

theorem sameObjects_planOtlp (view : Properties) (s : Store) :
    s.SameObjects (s.planOtlp view).2 := (finds_planOtlp view s).sameObjects

/-! ## Making exporters -/

/-- **Making the exporter of a plugin.** Either no provider goes by the name, or one is asked, and
the exporter that it makes is added. -/
theorem loadComponent_cases (name : String) (config : Entries) (loader : Provider.Loader)
    (s : Store) :
    (∃ t, s.Finds t ∧
      s.loadComponent name config loader = (.error (.noProvider exporterComponent name), t)) ∨
    ∃ found provider events, s.Finds found ∧
      ((∃ fault, s.loadComponent name config loader =
          (.error fault, (found.note (.asked provider)).logAll events)) ∨
        ∃ e number t, ((found.note (.asked provider)).logAll events).addExporter (.plugin e) =
            (number, t) ∧
          s.loadComponent name config loader = (.ok number, t)) := by
  have hlooked : ∀ e, s.Finds ((s.load .exporter loader).2.log e) := fun e =>
    .log e (.load .exporter loader .refl)
  have hfound : ∀ e, s.Finds (((s.load .exporter loader).2.log e).compressors loader).2 :=
    fun e => .load .compressor loader (hlooked e)
  unfold loadComponent
  dsimp only
  split
  · exact .inl ⟨_, hlooked _, rfl⟩
  · split
    · exact .inr ⟨_, _, _, hfound _, .inl ⟨_, rfl⟩⟩
    · exact .inr ⟨_, _, _, hfound _, .inr ⟨_, _, _, rfl, rfl⟩⟩

/-- **Making the exporter of a node.** The canonical form decides, if there is one, and an exporter
that was made becomes a resource. -/
theorem createExporter_cases (node : ExporterNode) (loader : Provider.Loader) (s : Store) :
    (∃ fault, node.canonical = .error fault ∧
      s.createExporter node loader = (.error (.shape fault), s)) ∨
    ∃ m, node.canonical = .ok m ∧
      ((∃ fault t, s.createCanonical m loader = (.error fault, t) ∧
          s.createExporter node loader = (.error fault, t)) ∨
        ∃ number t, s.createCanonical m loader = (.ok number, t) ∧
          s.createExporter node loader =
            (.ok number, (t.log (exporterCreated node.key)).push (.exporter number))) := by
  unfold createExporter
  cases hm : node.canonical with
  | error fault => exact .inl ⟨fault, rfl, rfl⟩
  | ok m =>
    refine .inr ⟨m, rfl, ?_⟩
    dsimp only
    generalize s.createCanonical m loader = r
    obtain ⟨fault | number, t⟩ := r
    · exact .inl ⟨fault, t, rfl, rfl⟩
    · exact .inr ⟨number, t, rfl, rfl⟩

/-! ## Changes under a number -/

theorem channel_setChannel (number : Nat) (c : Channel) (s : Store) (n : Nat) :
    (s.setChannel number c).channel n =
      if number = n ∧ n < s.channels.length then c else s.channel n := by
  unfold channel setChannel
  dsimp only
  rw [List.getElem?_set]
  by_cases hn : number = n
  · subst hn
    by_cases hlt : number < s.channels.length
    · rw [if_pos rfl, if_pos hlt, if_pos ⟨rfl, hlt⟩, Option.getD_some]
    · rw [if_pos rfl, if_neg hlt, if_neg fun h => hlt h.2, List.getElem?_eq_none (by omega)]
  · rw [if_neg hn, if_neg fun h => hn h.1]

theorem getElem?_setExporter {number : Nat} {s : Store} (h : number < s.exporters.length)
    (e : Exporter) (n : Nat) :
    (s.setExporter number e).exporters[n]? = if number = n then some e else s.exporters[n]? := by
  unfold setExporter
  dsimp only
  rw [List.getElem?_set]
  by_cases hn : number = n
  · rw [if_pos hn, if_pos hn, if_pos h]
  · rw [if_neg hn, if_neg hn]

end Telemetry.Store
