import Telemetry.Proofs.Configuration.Reading
import Telemetry.Proofs.Export.Objects

/-!
# What is written to the journal

* `Store.Notes`: what the journal gained. It is a preorder, and each way of making an exporter and
  each way of using one is shown to add notices of some kinds only.
* `Store.closings`, `Store.askings`: which resources were closed and which plugins were asked, in
  order.
* `closings_createExporter`: making an exporter closes nothing.
* `askings_createExporter`: under the key of a built-in exporter no plugin is asked.
-/

namespace Telemetry

/-! ## Notices -/

/-- The resource that a notice says was closed. -/
def Notice.closed? : Notice → Option Resource
  | .closed r => some r
  | _ => none

/-- The provider that a notice says was asked. -/
def Notice.asked? : Notice → Option String
  | .asked provider => some provider
  | _ => none

namespace Store

/-- The resources that were closed, in order. -/
def closings (s : Store) : List Resource := s.journal.filterMap Notice.closed?

/-- The providers of exporters that were asked for one, in order. -/
def askings (s : Store) : List String := s.journal.filterMap Notice.asked?

/-- Only notices for which `P` holds were added to the journal. -/
def Notes (P : Notice → Prop) (s t : Store) : Prop :=
  ∃ added, t.journal = s.journal ++ added ∧ ∀ n ∈ added, P n

section Notes

variable {P Q : Notice → Prop} {s t u : Store}

theorem Notes.of_journal_eq (h : t.journal = s.journal) : s.Notes P t :=
  ⟨[], by rw [h, List.append_nil], nofun⟩

theorem Notes.refl (s : Store) : s.Notes P s := .of_journal_eq rfl

theorem Notes.trans (h : s.Notes P t) (h' : t.Notes P u) : s.Notes P u := by
  obtain ⟨added, ht, hP⟩ := h
  obtain ⟨more, hu, hP'⟩ := h'
  refine ⟨added ++ more, by rw [hu, ht, List.append_assoc], fun n hn => ?_⟩
  exact (List.mem_append.1 hn).elim (hP n) (hP' n)

theorem Notes.imp (h : s.Notes P t) (hPQ : ∀ n, P n → Q n) : s.Notes Q t := by
  obtain ⟨added, ht, hP⟩ := h
  exact ⟨added, ht, fun n hn => hPQ n (hP n hn)⟩

/-- What is not told by the added notices is told as before. -/
theorem Notes.filterMap_journal {α : Type} {f : Notice → Option α} (h : s.Notes P t)
    (hf : ∀ n, P n → f n = none) : t.journal.filterMap f = s.journal.filterMap f := by
  obtain ⟨added, ht, hP⟩ := h
  have hadded : added.filterMap f = [] :=
    List.filterMap_eq_nil_iff.2 fun n hn => hf n (hP n hn)
  rw [ht, List.filterMap_append, hadded, List.append_nil]

end Notes

/-- A notice that closes nothing. -/
abbrev ClosesNothing (n : Notice) : Prop := n.closed? = none

/-- A notice by which nothing is closed and nobody is asked. -/
abbrev IsQuiet (n : Notice) : Prop := n.closed? = none ∧ n.asked? = none

theorem Notes.closings {s t : Store} (h : s.Notes ClosesNothing t) : t.closings = s.closings :=
  h.filterMap_journal fun _ hn => hn

theorem Notes.askings {s t : Store} (h : s.Notes IsQuiet t) : t.askings = s.askings :=
  h.filterMap_journal fun _ hn => hn.2

theorem Notes.closesNothing {s t : Store} (h : s.Notes IsQuiet t) : s.Notes ClosesNothing t :=
  h.imp fun _ hn => hn.1

/-! ## Finding and logging -/

theorem notes_note {P : Notice → Prop} {n : Notice} (h : P n) (s : Store) :
    s.Notes P (s.note n) := ⟨[n], rfl, List.forall_mem_singleton.2 h⟩

theorem notes_logAll (es : List Log.Event) (s : Store) : s.Notes IsQuiet (s.logAll es) := by
  refine ⟨es.map .logged, rfl, fun n hn => ?_⟩
  obtain ⟨e, -, rfl⟩ := List.mem_map.1 hn
  exact ⟨rfl, rfl⟩

theorem notes_log (e : Log.Event) (s : Store) : s.Notes IsQuiet (s.log e) :=
  notes_note ⟨rfl, rfl⟩ s

theorem notes_load (k : Capability) (loader : Provider.Loader) (s : Store) :
    s.Notes IsQuiet (s.load k loader).2 := by
  refine ⟨(s.catalogue.load k loader).2.2.map linkNotice, rfl, fun n hn => ?_⟩
  obtain ⟨step, -, rfl⟩ := List.mem_map.1 hn
  cases step <;> exact ⟨rfl, rfl⟩

theorem Finds.notes {s t : Store} (h : s.Finds t) : s.Notes IsQuiet t := by
  induction h with
  | refl => exact .refl s
  | load k loader _ ih => exact ih.trans (notes_load k loader _)
  | log e _ ih => exact ih.trans (notes_log e _)

/-! ## Making exporters -/

theorem notes_createOtlp (view : Properties) (s : Store) :
    s.Notes IsQuiet (s.createOtlp view).2 := by
  have h := (finds_planOtlp view s).notes
  unfold createOtlp
  generalize s.planOtlp view = r at h ⊢
  obtain ⟨fault | plan, t⟩ := r
  · exact h
  · exact h.trans (.of_journal_eq rfl)

theorem notes_createConsole (view : Properties) (s : Store) :
    s.Notes IsQuiet (s.createConsole view).2 := .of_journal_eq rfl

/-- A plugin may be asked for an exporter, but nothing is closed. -/
theorem notes_loadComponent (name : String) (config : Entries) (loader : Provider.Loader)
    (s : Store) : s.Notes ClosesNothing (s.loadComponent name config loader).2 := by
  have hasked : ∀ {found} provider events, s.Finds found →
      s.Notes ClosesNothing ((found.note (.asked provider)).logAll events) := by
    intro found provider events h
    have hasking : ClosesNothing (.asked provider) := rfl
    exact (h.notes.closesNothing.trans (notes_note hasking found)).trans
      (notes_logAll events _).closesNothing
  obtain ⟨t, hfound, hl⟩ | ⟨found, provider, events, hfound, ⟨fault, hl⟩ | ⟨e, number, t, ht, hl⟩⟩ :=
    loadComponent_cases name config loader s
  · rw [hl]
    exact hfound.notes.closesNothing
  · rw [hl]
    exact hasked provider events hfound
  · rw [hl]
    obtain ⟨rfl, rfl⟩ := Prod.mk.inj ht
    exact (hasked provider events hfound).trans (.of_journal_eq rfl)

theorem notes_createCanonical_of_isBuiltin {m : ExporterNode}
    (hm : ExporterNode.isBuiltin m.key = true) (hplugin : m.shadowsBuiltin = false)
    (loader : Provider.Loader) (s : Store) : s.Notes IsQuiet (s.createCanonical m loader).2 := by
  cases m with
  | otlp settings => exact notes_createOtlp _ s
  | console => exact notes_createConsole (.empty loader) s
  | named name config => exact absurd (hplugin.symm.trans hm) nofun

theorem notes_createCanonical (m : ExporterNode) (loader : Provider.Loader) (s : Store) :
    s.Notes ClosesNothing (s.createCanonical m loader).2 := by
  cases m with
  | otlp settings => exact (notes_createOtlp _ s).closesNothing
  | console => exact (notes_createConsole (.empty loader) s).closesNothing
  | named name config => exact notes_loadComponent name config loader s

theorem notes_createExporter {P : Notice → Prop} {node : ExporterNode} {loader : Provider.Loader}
    {s : Store} (hlogged : ∀ e, P (.logged e))
    (h : ∀ m, node.canonical = .ok m → s.Notes P (s.createCanonical m loader).2) :
    s.Notes P (s.createExporter node loader).2 := by
  obtain ⟨fault, -, hc⟩ | ⟨m, hm, ⟨fault, t, ht, hc⟩ | ⟨number, t, ht, hc⟩⟩ :=
    createExporter_cases node loader s
  · rw [hc]
    exact .refl s
  · have hnotes := h m hm
    rw [ht] at hnotes
    rw [hc]
    exact hnotes
  · have hnotes := h m hm
    rw [ht] at hnotes
    rw [hc]
    exact hnotes.trans (notes_note (hlogged _) t)

/-- **Making an exporter closes nothing.** -/
theorem closings_createExporter (node : ExporterNode) (loader : Provider.Loader) (s : Store) :
    (s.createExporter node loader).2.closings = s.closings :=
  (notes_createExporter (fun _ => rfl) fun m _ => notes_createCanonical m loader s).closings

/-- **No plugin is asked for a built-in exporter.** -/
theorem askings_createExporter {node : ExporterNode}
    (h : ExporterNode.isBuiltin node.key = true) (loader : Provider.Loader) (s : Store) :
    (s.createExporter node loader).2.askings = s.askings := by
  refine (notes_createExporter (fun _ => ⟨rfl, rfl⟩) fun m hm => ?_).askings
  obtain ⟨hkey, hplugin⟩ := ExporterNode.of_canonical_eq_ok hm
  exact notes_createCanonical_of_isBuiltin (hkey ▸ h) hplugin loader s

end Store

end Telemetry
