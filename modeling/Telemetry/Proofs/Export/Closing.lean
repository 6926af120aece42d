import Telemetry.Plugin.Sample
import Telemetry.Proofs.Export.Accounting
import Telemetry.Proofs.Export.Ending
import Telemetry.Proofs.Export.Journal

/-!
# Resources are closed once

* `Store.failure?`: what closing a resource fails with, if it fails.
* `Store.Keeps`: the same resources, none of which was closed, and the same failures to come.
* `closeEach_accounts`, `closeAll_accounts`: resources are closed one after the other, whichever
  fail.
* `Store.Call`, `Store.callAll`: what callers do with the resources and with all else, in any order.
* `Store.added`, `Store.addedAll`: the resources that calls add.
* **`callAll_accounts`**: each resource that was added is closed once, by the next closing of all.
-/

namespace Telemetry

/-- What closing an exporter fails with, if it fails. -/
def Exporter.failure? : Exporter → Option CloseFault
  | .plugin e => e.closeFault
  | _ => none

theorem Exporter.failure?_ended (e : Exporter) : e.ended.failure? = e.failure? := by
  cases e <;> rfl

/-- The resources that come with an exporter: the channel of an OTLP exporter, and the exporter. -/
def Exporter.resources (number : Nat) : Exporter → List Resource
  | .otlp e => [.channel e.channel, .exporter number]
  | _ => [.exporter number]

theorem Exporter.Leaves.eq_resources {e : Exporter} {number : Nat} {key : String}
    {added : List Resource} (h : e.Leaves number key added) : added = e.resources number := by
  cases h <;> rfl

namespace Store

/-! ## Failures -/

/-- What closing a resource fails with, if it fails. -/
def failure? (s : Store) : Resource → Option CloseFault
  | .channel _ => none
  | .exporter number => s.exporters[number]?.bind Exporter.failure?
  | .external name failure => failure.map fun reason => ⟨name, reason⟩

theorem failure?_congr {s t : Store} (h : t.exporters = s.exporters) (r : Resource) :
    t.failure? r = s.failure? r := by
  cases r with
  | channel number => rfl
  | exporter number => rw [failure?, failure?, h]
  | external name failure => rfl

theorem failure?_setExporter {number : Nat} {e : Exporter} {s : Store}
    (he : s.exporters[number]? = some e) (r : Resource) :
    (s.setExporter number e.ended).failure? r = s.failure? r := by
  cases r with
  | channel n => rfl
  | exporter n =>
    rw [failure?, failure?, getElem?_setExporter (List.getElem?_eq_some_iff.1 he).1]
    split_ifs with hn
    · subst hn
      rw [he, Option.bind_some, Option.bind_some, Exporter.failure?_ended]
    · rfl
  | external name failure => rfl

/-! ## Nothing closed -/

/-- The same resources, none of which was closed, and the same failures to come. -/
structure Keeps (s t : Store) : Prop where
  resources : t.resources = s.resources
  closings : t.closings = s.closings
  failure? : ∀ r, t.failure? r = s.failure? r

theorem Keeps.refl (s : Store) : s.Keeps s := ⟨rfl, rfl, fun _ => rfl⟩

theorem Keeps.trans {s t u : Store} (h : s.Keeps t) (h' : t.Keeps u) : s.Keeps u :=
  ⟨h'.resources.trans h.resources, h'.closings.trans h.closings,
    fun r => (h'.failure? r).trans (h.failure? r)⟩

theorem SameObjects.keeps {s t : Store} (h : s.SameObjects t) (hn : s.Notes IsQuiet t) :
    s.Keeps t :=
  ⟨h.resources, hn.closesNothing.closings, failure?_congr h.exporters⟩

theorem keeps_log (e : Log.Event) (s : Store) : s.Keeps (s.log e) :=
  (sameObjects_log e s).keeps (notes_log e s)

theorem keeps_setChannel (number : Nat) (c : Channel) (s : Store) :
    s.Keeps (s.setChannel number c) := ⟨rfl, rfl, failure?_congr rfl⟩

theorem keeps_closeChannel (number : Nat) (s : Store) : s.Keeps (s.closeChannel number) := by
  unfold closeChannel
  split_ifs
  · exact .refl s
  · exact (keeps_setChannel number _ s).trans (keeps_log _ _)

theorem keeps_setExporter {number : Nat} {e : Exporter} {s : Store}
    (he : s.exporters[number]? = some e) : s.Keeps (s.setExporter number e.ended) :=
  ⟨rfl, rfl, failure?_setExporter he⟩

theorem keeps_shutdown (number : Nat) (s : Store) : s.Keeps (s.shutdown number).2 := by
  unfold shutdown
  split
  · rename_i e he
    split_ifs
    · exact keeps_log _ s
    · exact (keeps_setExporter (e := .otlp e) he).trans (keeps_closeChannel e.channel _)
  · rename_i c hc
    split_ifs
    · exact keeps_log _ s
    · exact keeps_setExporter (e := .console c) hc
  · exact .refl s

theorem keeps_send (number : Nat) (r : Request) (s : Store) : s.Keeps (s.send number r).2 := by
  unfold send
  obtain ⟨_ | _, c⟩ := (s.channel number).send r
  · exact keeps_setChannel number c s
  · exact (keeps_log _ s).trans (keeps_setChannel number c _)

theorem keeps_export (number : Nat) (metrics : List Metric) (s : Store) :
    s.Keeps (s.export number metrics).2 := by
  unfold «export»
  split
  · unfold exportOtlp
    split_ifs
    · exact .refl s
    · split
      · exact .refl s
      · exact (keeps_log _ s).trans (keeps_send _ _ _)
  · unfold exportConsole
    split_ifs
    · exact .refl s
    · exact (sameObjects_logAll _ s).keeps (notes_logAll _ s)
  · exact .refl s

/-- Closing an exporter fails as it was bound to. -/
theorem close_accounts (number : Nat) (s : Store) :
    (s.close number).1 = (s.failure? (.exporter number)).elim (.ok ()) .error ∧
      s.Keeps (s.close number).2 := by
  have hfst := shutdown_fst number s
  have hkeeps := keeps_shutdown number s
  unfold close
  rw [failure?]
  split
  · rename_i e he
    rw [he, Option.bind_some, Exporter.failure?]
    cases e.closeFault with
    | none => exact ⟨rfl, .refl s⟩
    | some fault => exact ⟨rfl, .refl s⟩
  · rename_i e he
    dsimp only
    rw [he, hfst]
    exact ⟨rfl, hkeeps⟩
  · rename_i c hc
    dsimp only
    rw [hc, hfst]
    exact ⟨rfl, hkeeps⟩
  · rename_i he
    rw [he]
    exact ⟨rfl, .refl s⟩

/-! ## Closing -/

theorem closings_note_closed (r : Resource) (s : Store) :
    (s.note (.closed r)).closings = s.closings ++ [r] :=
  List.filterMap_append

/-- **Closing a resource** is noted first, and fails as it was bound to. -/
theorem closeResource_accounts (r : Resource) (s : Store) :
    (s.closeResource r).1 = (s.failure? r).elim (.ok ()) .error ∧
      (s.note (.closed r)).Keeps (s.closeResource r).2 := by
  unfold closeResource
  cases r with
  | channel number => exact ⟨rfl, keeps_closeChannel number _⟩
  | exporter number => exact close_accounts number (s.note (.closed (.exporter number)))
  | external name failure =>
    cases failure with
    | none => exact ⟨rfl, .refl _⟩
    | some reason => exact ⟨rfl, .refl _⟩

/-- **Closing resources one after the other.** Each of them is closed, whichever fail, and all
failures are given. -/
theorem closeEach_accounts (rs : List Resource) (s : Store) :
    (closeEach rs s).1 = rs.filterMap s.failure? ∧
      (closeEach rs s).2.closings = s.closings ++ rs ∧
      (closeEach rs s).2.resources = s.resources := by
  induction rs generalizing s with
  | nil => exact ⟨rfl, (List.append_nil _).symm, rfl⟩
  | cons r rs ih =>
    obtain ⟨houtcome, hkeeps⟩ := closeResource_accounts r s
    rw [closeEach]
    generalize s.closeResource r = result at houtcome hkeeps ⊢
    obtain ⟨outcome, t⟩ := result
    -- the rest is closed in a store that is as the first one but for the noted closing
    have hrest : ∀ u, t.Keeps u → (closeEach rs u).1 = rs.filterMap s.failure? ∧
        (closeEach rs u).2.closings = s.closings ++ r :: rs ∧
        (closeEach rs u).2.resources = s.resources := by
      intro u hu
      have hsu := hkeeps.trans hu
      obtain ⟨hfaults, hclosings, hresources⟩ := ih u
      have hfailures : u.failure? = s.failure? := funext hsu.failure?
      refine ⟨by rw [hfaults, hfailures], ?_, hresources.trans hsu.resources⟩
      rw [hclosings, hsu.closings, closings_note_closed, List.append_assoc]
      rfl
    cases hr : s.failure? r with
    | none =>
      rw [hr] at houtcome
      cases houtcome
      rw [List.filterMap_cons_none hr]
      exact hrest t (.refl t)
    | some fault =>
      rw [hr] at houtcome
      cases houtcome
      obtain ⟨hfaults, hrest⟩ := hrest _ (keeps_log (closeFailed fault) t)
      rw [List.filterMap_cons_some hr]
      exact ⟨congrArg (fault :: ·) hfaults, hrest⟩

/-- **Closing all resources**, after which there are none. -/
theorem closeAll_accounts (s : Store) :
    s.closeAll.1 = s.resources.filterMap s.failure? ∧
      s.closeAll.2.closings = s.closings ++ s.resources ∧ s.closeAll.2.resources = [] :=
  closeEach_accounts s.resources { s with resources := [] }

/-! ## Calls -/

/-- What callers do with the resources, and with all else. -/
inductive Call where
  | push (r : Resource)
  | pushReturning (r : Resource)
  | create (node : ExporterNode) (loader : Provider.Loader)
  | act (a : Action)

/-- Does what a caller wants. -/
def call (c : Call) (s : Store) : Store :=
  match c with
  | .push r => s.push r
  | .pushReturning r => (s.pushReturning r).2
  | .create node loader => (s.createExporter node loader).2
  | .act a => s.perform a

/-- Does what callers want, one call after the other. -/
def callAll (calls : List Call) (s : Store) : Store := calls.foldl (fun s c => s.call c) s

/-- The resources that a call adds. One that makes an exporter adds the resources of the exporter,
and none if it fails. -/
def added (s : Store) : Call → List Resource
  | .push r => [r]
  | .pushReturning r => [r]
  | .create node loader =>
    match s.createExporter node loader with
    | (.ok number, t) => (t.exporters[number]?).elim [] (Exporter.resources number)
    | (.error _, _) => []
  | .act _ => []

/-- The resources that calls add, one after the other. -/
def addedAll : List Call → Store → List Resource
  | [], _ => []
  | c :: calls, s => s.added c ++ addedAll calls (s.call c)

theorem resources_createExporter (node : ExporterNode) (loader : Provider.Loader) (s : Store) :
    (s.createExporter node loader).2.resources = s.resources ++ s.added (.create node loader) := by
  have h := createExporter_makes node loader s
  rw [added]
  generalize s.createExporter node loader = r at h ⊢
  obtain ⟨fault | number, t⟩ := r
  · exact h.resources.trans (List.append_nil _).symm
  · obtain ⟨e, new, ha, hl⟩ := h
    dsimp only
    rw [ha.getElem?, ha.resources, hl.eq_resources]
    rfl

/-- **Nothing but closing all closes resources.** Any other call adds some, behind all others. -/
theorem call_of_ne {c : Call} (h : c ≠ .act .closeAll) (s : Store) :
    (s.call c).closings = s.closings ∧ (s.call c).resources = s.resources ++ s.added c := by
  cases c with
  | push r => exact ⟨rfl, rfl⟩
  | pushReturning r => exact ⟨rfl, rfl⟩
  | create node loader =>
    exact ⟨closings_createExporter node loader s, resources_createExporter node loader s⟩
  | act a =>
    have hkeeps : s.Keeps (s.perform a) := by
      cases a with
      | «export» exporter metrics => exact keeps_export exporter metrics s
      | flush exporter => exact .refl s
      | shutdown exporter => exact keeps_shutdown exporter s
      | close exporter => exact (close_accounts exporter s).2
      | closeChannel channel => exact keeps_closeChannel channel s
      | closeAll => exact absurd rfl h
    exact ⟨hkeeps.closings, hkeeps.resources.trans (List.append_nil _).symm⟩

/-- What was closed, followed by what is left to be closed, grows by what is added. -/
theorem closings_append_resources_call (c : Call) (s : Store) :
    (s.call c).closings ++ (s.call c).resources = s.closings ++ s.resources ++ s.added c := by
  by_cases h : c = .act .closeAll
  · subst h
    obtain ⟨-, hclosings, hresources⟩ := closeAll_accounts s
    change s.closeAll.2.closings ++ s.closeAll.2.resources = _
    rw [hclosings, hresources]
    rfl
  · obtain ⟨hclosings, hresources⟩ := call_of_ne h s
    rw [hclosings, hresources, List.append_assoc]

theorem closings_append_resources_callAll (calls : List Call) (s : Store) :
    (s.callAll calls).closings ++ (s.callAll calls).resources =
      s.closings ++ s.resources ++ s.addedAll calls := by
  induction calls generalizing s with
  | nil => exact (List.append_nil _).symm
  | cons c calls ih =>
    have hcons : s.callAll (c :: calls) = (s.call c).callAll calls := rfl
    rw [hcons, ih, closings_append_resources_call, addedAll, List.append_assoc]

theorem callAll_of_forall_ne {calls : List Call} (h : ∀ c ∈ calls, c ≠ .act .closeAll)
    (s : Store) : (s.callAll calls).closings = s.closings ∧
      (s.callAll calls).resources = s.resources ++ s.addedAll calls := by
  induction calls generalizing s with
  | nil => exact ⟨rfl, (List.append_nil _).symm⟩
  | cons c calls ih =>
    obtain ⟨hc, hcalls⟩ := List.forall_mem_cons.1 h
    obtain ⟨hclosings, hresources⟩ := call_of_ne hc s
    obtain ⟨ihclosings, ihresources⟩ := ih hcalls (s.call c)
    refine ⟨ihclosings.trans hclosings, ihresources.trans ?_⟩
    rw [hresources, addedAll, List.append_assoc]

/-- **Every resource is closed once, in order, whatever fails.** Nothing but closing all closes any,
and other calls add theirs behind all others. -/
theorem callAll_accounts (start : Store) (past : List Call) :
    let s := start.callAll past
    s.closings ++ s.resources = start.closings ++ start.resources ++ start.addedAll past ∧
    (∀ c, c ≠ .act .closeAll →
      (s.call c).closings = s.closings ∧ (s.call c).resources = s.resources ++ s.added c) ∧
    (∀ next : List Call, (∀ c ∈ next, c ≠ .act .closeAll) →
      (s.callAll next).closings = s.closings ∧
      (s.callAll next).closeAll.2.closings = s.closings ++ (s.resources ++ s.addedAll next)) ∧
    s.closeAll.2.closings = s.closings ++ s.resources ∧
    s.closeAll.1 = s.resources.filterMap s.failure? ∧
    (s.closeAll.1 = [] ↔ ∀ r ∈ s.resources, s.failure? r = none) ∧
    s.closeAll.2.resources = [] := by
  intro s
  obtain ⟨hfaults, hclosings, hresources⟩ := closeAll_accounts s
  refine ⟨closings_append_resources_callAll past start, fun c hc => call_of_ne hc s, ?_, hclosings,
    hfaults, ?_, hresources⟩
  · intro next hnext
    obtain ⟨hkept, hadded⟩ := callAll_of_forall_ne hnext s
    obtain ⟨-, hclosed, -⟩ := closeAll_accounts (s.callAll next)
    exact ⟨hkept, by rw [hclosed, hkept, hadded]⟩
  · rw [hfaults]
    exact List.filterMap_eq_nil_iff

/-- A store with a registry in which there is one plugin. -/
def plugged : Store where
  catalogue.registries := [⟨[⟨.exporter, "mine", Sample.provider "mine" "ok"⟩]⟩]

/-- Two resources that are closed, of which one fails to be, and one that is not yet. -/
def earlierCalls : List Call :=
  [.push (.external "file" (some "busy")), .create .console (.registry 0), .act .closeAll,
    .create (.named "mine" [("close_error", .text "stuck")]) (.registry 0)]

/-- An exporter that is not made, one that is and is shut down, and the file of before, which fails
to be closed the first time only. -/
def laterCalls : List Call :=
  [.create (.named "theirs" []) (.registry 0), .create (.otlp {}) (.registry 0),
    .push (.external "file" (some "busy")), .act (.shutdown 2),
    .pushReturning (.external "file" none)]

/-- Between two closings of all resources nothing is closed, and then all that was added. -/
theorem callAll_earlier_later :
    (∀ c ∈ laterCalls, c ≠ .act .closeAll) ∧
      ((plugged.callAll earlierCalls).callAll laterCalls).closings =
        [.external "file" (some "busy"), .exporter 0] ∧
      ((plugged.callAll earlierCalls).callAll laterCalls).closeAll.2.closings =
        [.external "file" (some "busy"), .exporter 0, .exporter 1, .channel 0, .exporter 2,
          .external "file" (some "busy"), .external "file" none] ∧
      ((plugged.callAll earlierCalls).callAll laterCalls).closeAll.1 =
        [⟨"mine", "stuck"⟩, ⟨"file", "busy"⟩] := by
  have hnext : ∀ c ∈ laterCalls, c ≠ .act .closeAll := by
    simp [laterCalls]
  obtain ⟨-, -, hround, -⟩ := callAll_accounts plugged earlierCalls
  obtain ⟨hkept, hclosed⟩ := hround laterCalls hnext
  refine ⟨hnext, hkept.trans (by decide +kernel), hclosed.trans (by decide +kernel), ?_⟩
  decide +kernel

end Store

end Telemetry
