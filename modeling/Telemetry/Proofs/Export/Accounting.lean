import Telemetry.Plugin.Sample
import Telemetry.Proofs.Configuration.Reading
import Telemetry.Proofs.Export.Objects

/-!
# Resources of the exporters that are made

* `Exporter.Leaves`: the resources that come with an exporter: the channel of an OTLP exporter goes
  before it, any other exporter stands alone.
* `Store.Makes`: what each way of making an exporter does: if it fails it leaves all objects alone,
  and otherwise it adds one exporter.
* `Store.Creates`: the exporters of several nodes are made one after the other.
* `Store.Made`: what this does to exporters and resources.
* `Configuration.activeExporters`: the nodes of the periodic readers, unless all is disabled.
* **`createAll_accounts`**: the exporters of a configuration are made in order, with all their
  resources, up to the first fault.
-/

namespace Telemetry

/-- The resources of an exporter, by its number and the key of its node. -/
inductive Exporter.Leaves : Exporter → Nat → String → List Resource → Prop
  | otlp (e : OtlpExporter) (number : Nat) :
    Leaves (.otlp e) number "otlp" [.channel e.channel, .exporter number]
  | console (e : ConsoleExporter) (number : Nat) :
    Leaves (.console e) number "console" [.exporter number]
  | plugin (e : PluginExporter) (number : Nat) {key : String} :
    key ≠ "otlp" → key ≠ "console" → Leaves (.plugin e) number key [.exporter number]

namespace Store

/-! ## One exporter -/

/-- One exporter was made, under the next number, and some resources were added. -/
structure Adds (s : Store) (number : Nat) (e : Exporter) (added : List Resource) (t : Store) :
    Prop where
  number_eq : number = s.exporters.length
  exporters : t.exporters = s.exporters ++ [e]
  resources : t.resources = s.resources ++ added

theorem Adds.of_sameObjects {s s' t : Store} {number : Nat} {e : Exporter} {added : List Resource}
    (h : s.SameObjects s') (ha : s'.Adds number e added t) : s.Adds number e added t where
  number_eq := h.exporters ▸ ha.number_eq
  exporters := h.exporters ▸ ha.exporters
  resources := h.resources ▸ ha.resources

theorem Adds.getElem? {s t : Store} {number : Nat} {e : Exporter} {added : List Resource}
    (h : s.Adds number e added t) : t.exporters[number]? = some e := by
  rw [h.exporters, h.number_eq, List.getElem?_append_right (Nat.le_refl _), Nat.sub_self]
  rfl

/-- Either all objects were left alone, or one exporter was made, and `P` holds of it, its number
and the added resources. -/
def Makes (s : Store) (P : Exporter → Nat → List Resource → Prop) :
    Except ConfigFault Nat × Store → Prop
  | (.error _, t) => s.SameObjects t
  | (.ok number, t) => ∃ e added, s.Adds number e added t ∧ P e number added

theorem Makes.imp {s : Store} {P Q : Exporter → Nat → List Resource → Prop}
    {r : Except ConfigFault Nat × Store} (h : s.Makes P r)
    (hPQ : ∀ e number added, P e number added → Q e number added) : s.Makes Q r := by
  obtain ⟨fault | number, t⟩ := r
  · exact h
  · obtain ⟨e, added, ha, hp⟩ := h
    exact ⟨e, added, ha, hPQ e number added hp⟩

theorem createOtlp_makes (view : Properties) (s : Store) :
    s.Makes (fun e _ added => ∃ o, e = .otlp o ∧ added = [.channel o.channel])
      (s.createOtlp view) := by
  have h := sameObjects_planOtlp view s
  unfold createOtlp
  generalize s.planOtlp view = r at h ⊢
  obtain ⟨outcome, t⟩ := r
  cases outcome with
  | error fault => exact h
  | ok plan => exact ⟨_, _, .of_sameObjects h ⟨rfl, rfl, rfl⟩, _, rfl, rfl⟩

theorem createConsole_makes (view : Properties) (s : Store) :
    s.Makes (fun e _ added => ∃ c, e = .console c ∧ added = []) (s.createConsole view) :=
  ⟨_, [], ⟨rfl, rfl, (List.append_nil _).symm⟩, _, rfl, rfl⟩

theorem loadComponent_makes (name : String) (config : Entries) (loader : Provider.Loader)
    (s : Store) :
    s.Makes (fun e _ added => ∃ p, e = .plugin p ∧ added = [])
      (s.loadComponent name config loader) := by
  -- looking for the provider and asking it only writes to the journal and links plugins
  have hasked : ∀ {found} n events, s.Finds found →
      s.SameObjects ((found.note n).logAll events) := fun n events h =>
    (h.sameObjects.trans (sameObjects_note n _)).trans (sameObjects_logAll events _)
  obtain ⟨t, hfound, hl⟩ | ⟨found, provider, events, hfound, ⟨fault, hl⟩ | ⟨e, number, t, ht, hl⟩⟩ :=
    loadComponent_cases name config loader s
  · rw [hl]
    exact hfound.sameObjects
  · rw [hl]
    exact hasked _ events hfound
  · rw [hl]
    obtain ⟨rfl, rfl⟩ := Prod.mk.inj ht
    refine ⟨_, [], .of_sameObjects (hasked _ events hfound) ⟨rfl, rfl, ?_⟩, e, rfl, rfl⟩
    exact (List.append_nil _).symm

/-- A node in its canonical form makes an exporter of its kind. -/
theorem createCanonical_makes {m : ExporterNode} (hm : m.shadowsBuiltin = false)
    (loader : Provider.Loader) (s : Store) :
    s.Makes (fun e number added => e.Leaves number m.key (added ++ [.exporter number]))
      (s.createCanonical m loader) := by
  cases m with
  | otlp settings =>
    have h : s.createCanonical (.otlp settings) loader =
        s.createOtlp ⟨Entries.ofPairs (settings.fields Tree.ofPairs), loader⟩ := rfl
    rw [h]
    refine (createOtlp_makes _ s).imp ?_
    rintro _ number _ ⟨e, rfl, rfl⟩
    exact .otlp e number
  | console =>
    refine (createConsole_makes (.empty loader) s).imp ?_
    rintro _ number _ ⟨e, rfl, rfl⟩
    exact .console e number
  | named name config =>
    refine (loadComponent_makes name config loader s).imp ?_
    rintro _ number _ ⟨e, rfl, rfl⟩
    obtain ⟨hotlp, hconsole⟩ := Bool.or_eq_false_iff.1 hm
    exact .plugin e number (beq_eq_false_iff_ne.1 hotlp) (beq_eq_false_iff_ne.1 hconsole)

/-- **Making the exporter of a node** changes no objects if it fails; otherwise one exporter of the
node's kind is made, and its resources come last. -/
theorem createExporter_makes (node : ExporterNode) (loader : Provider.Loader) (s : Store) :
    s.Makes (fun e number added => e.Leaves number node.key added)
      (s.createExporter node loader) := by
  obtain ⟨fault, -, hc⟩ | ⟨m, hm, hc⟩ := createExporter_cases node loader s
  · rw [hc]
    exact .refl s
  · obtain ⟨hkey, hplugin⟩ := ExporterNode.of_canonical_eq_ok hm
    have h := createCanonical_makes hplugin loader s
    obtain ⟨fault, t, ht, hc⟩ | ⟨number, t, ht, hc⟩ := hc
    · rw [hc]
      rw [ht] at h
      exact h
    · rw [hc]
      rw [ht] at h
      obtain ⟨e, added, ha, hl⟩ := h
      refine ⟨e, added ++ [.exporter number], ⟨ha.number_eq, ha.exporters, ?_⟩, hkey ▸ hl⟩
      change t.resources ++ [.exporter number] = _
      rw [ha.resources, List.append_assoc]

/-! ## Exporters of several nodes -/

/-- The exporters of nodes were made one after the other, each in the store that the one before it
left. -/
inductive Creates (loader : Provider.Loader) : Store → List ExporterNode → List Nat → Store → Prop
  | nil {s : Store} : Creates loader s [] [] s
  | cons {s t u : Store} {node : ExporterNode} {nodes : List ExporterNode} {number : Nat}
      {numbers : List Nat} :
      s.createExporter node loader = (.ok number, t) → Creates loader t nodes numbers u →
        Creates loader s (node :: nodes) (number :: numbers) u

/-- The resources of exporters, one after the other in the order of their nodes. -/
inductive Accounts (t : Store) : List ExporterNode → List Nat → List Resource → Prop
  | nil : Accounts t [] [] []
  | cons {node : ExporterNode} {nodes : List ExporterNode} {number : Nat} {numbers : List Nat}
      {e : Exporter} {added rest : List Resource} :
      t.exporters[number]? = some e → e.Leaves number node.key added →
        Accounts t nodes numbers rest →
          Accounts t (node :: nodes) (number :: numbers) (added ++ rest)

/-- For each node one exporter was made, under the next number, and what was added to the resources
is theirs. -/
structure Made (s : Store) (nodes : List ExporterNode) (numbers : List Nat) (t : Store) : Prop where
  numbers_eq : numbers = List.range' s.exporters.length nodes.length
  exporters : ∃ made, made.length = nodes.length ∧ t.exporters = s.exporters ++ made
  resources : ∃ added, t.resources = s.resources ++ added ∧ t.Accounts nodes numbers added

theorem Made.nil {s t : Store} (h : s.SameObjects t) : s.Made [] [] t where
  numbers_eq := rfl
  exporters := ⟨[], rfl, h.exporters.trans (List.append_nil _).symm⟩
  resources := ⟨[], h.resources.trans (List.append_nil _).symm, .nil⟩

theorem Made.cons {s t u : Store} {node : ExporterNode} {nodes : List ExporterNode} {number : Nat}
    {numbers : List Nat} {e : Exporter} {added : List Resource} (ha : s.Adds number e added t)
    (hl : e.Leaves number node.key added) (hm : t.Made nodes numbers u) :
    s.Made (node :: nodes) (number :: numbers) u := by
  obtain ⟨made, hlen, hmade⟩ := hm.exporters
  obtain ⟨rest, hrest, hacc⟩ := hm.resources
  rw [ha.exporters, List.append_assoc] at hmade
  rw [ha.resources, List.append_assoc] at hrest
  have he : u.exporters[number]? = some e := by
    rw [hmade, ha.number_eq, List.getElem?_append_right (Nat.le_refl _), Nat.sub_self]
    rfl
  refine ⟨?_, ⟨e :: made, ?_, hmade⟩, ⟨added ++ rest, hrest, .cons he hl hacc⟩⟩
  · rw [hm.numbers_eq, ha.exporters, ha.number_eq, List.length_append]
    rfl
  · rw [List.length_cons, List.length_cons, hlen]

theorem Accounts.of_sameObjects {t u : Store} {nodes : List ExporterNode} {numbers : List Nat}
    {added : List Resource} (h : t.SameObjects u) (ha : t.Accounts nodes numbers added) :
    u.Accounts nodes numbers added := by
  induction ha with
  | nil => exact .nil
  | cons he hl _ ih => exact .cons (h.exporters ▸ he) hl ih

theorem Made.of_sameObjects {s t u : Store} {nodes : List ExporterNode} {numbers : List Nat}
    (h : t.SameObjects u) (hm : s.Made nodes numbers t) : s.Made nodes numbers u := by
  obtain ⟨made, hlen, hmade⟩ := hm.exporters
  obtain ⟨added, hadded, hacc⟩ := hm.resources
  exact ⟨hm.numbers_eq, ⟨made, hlen, h.exporters.trans hmade⟩,
    ⟨added, h.resources.trans hadded, hacc.of_sameObjects h⟩⟩

variable {loader : Provider.Loader} {s t : Store} {fault : ConfigFault} {nodes : List ExporterNode}
  {numbers : List Nat}

/-- **Making the exporters of several nodes.** -/
theorem Creates.made (h : Creates loader s nodes numbers t) : s.Made nodes numbers t := by
  induction h with
  | nil => exact .nil (.refl _)
  | @cons s t u node nodes number numbers hnode _ ih =>
    have hmakes := createExporter_makes node loader s
    rw [hnode] at hmakes
    obtain ⟨e, added, ha, hl⟩ := hmakes
    exact .cons ha hl ih

theorem createEach_eq_ok_iff :
    createEach loader nodes s = (.ok numbers, t) ↔ Creates loader s nodes numbers t := by
  constructor
  · intro h
    induction nodes generalizing s numbers with
    | nil =>
      cases h
      exact .nil
    | cons node nodes ih =>
      rw [createEach] at h
      split at h
      · cases h
      · rename_i hnode
        split at h
        · cases h
        · rename_i hrest
          cases h
          exact .cons hnode (ih hrest)
  · intro h
    induction h with
    | nil => rfl
    | cons hnode _ ih =>
      rw [createEach, hnode]
      dsimp only
      rw [ih]

/-- A fault comes from one node, after those before it were made, whatever comes after it. -/
theorem createEach_eq_error_iff : createEach loader nodes s = (.error fault, t) ↔
    ∃ before node after numbers s₁, nodes = before ++ node :: after ∧
      Creates loader s before numbers s₁ ∧ s₁.createExporter node loader = (.error fault, t) := by
  constructor
  · intro h
    induction nodes generalizing s with
    | nil => cases h
    | cons node nodes ih =>
      rw [createEach] at h
      split at h
      · rename_i hnode
        cases h
        exact ⟨[], node, nodes, [], s, rfl, .nil, hnode⟩
      · rename_i hnode
        split at h
        · rename_i hrest
          cases h
          obtain ⟨before, faulty, after, numbers, s₁, rfl, hbefore, hfault⟩ := ih hrest
          exact ⟨node :: before, faulty, after, _ :: numbers, s₁, rfl, .cons hnode hbefore, hfault⟩
        · cases h
  · rintro ⟨before, node, after, numbers, s₁, rfl, hbefore, hfault⟩
    induction hbefore with
    | nil =>
      rw [List.nil_append, createEach, hfault]
    | cons hnode _ ih =>
      rw [List.cons_append, createEach, hnode]
      dsimp only
      rw [ih hfault]

end Store

/-! ## Exporters of a configuration -/

/-- The nodes of readers in their order. Only a periodic reader has one. -/
def MetricReader.nodes : List MetricReader → List ExporterNode
  | [] => []
  | ⟨some periodic⟩ :: readers => periodic.exporter :: nodes readers
  | ⟨none⟩ :: readers => nodes readers

/-- The nodes whose exporters are made: none if the configuration is disabled. -/
def Configuration.activeExporters (c : Configuration) : List ExporterNode :=
  match c.disabled, c.meterProvider with
  | some true, _ => []
  | _, none => []
  | _, some p => MetricReader.nodes p.readers

theorem MeterProvider.exporters_eq_nodes (p : MeterProvider) :
    p.exporters = MetricReader.nodes p.readers := by
  obtain ⟨readers⟩ := p
  unfold exporters
  dsimp only
  induction readers with
  | nil => rfl
  | cons r readers ih =>
    obtain ⟨_ | periodic⟩ := r
    · exact ih
    · exact congrArg (periodic.exporter :: ·) ih

namespace Configuration

/-- A configuration with a reader for each node, and with some that are not periodic. -/
def ofNodes (nodes : List (Option ExporterNode)) : Configuration where
  fileFormat := "1.0"
  disabled := none
  meterProvider := some ⟨nodes.map fun node => ⟨node.map (PeriodicReader.mk none none)⟩⟩

variable {c : Configuration}

theorem activeExporters_of_disabled (h : c.disabled = some true) : c.activeExporters = [] := by
  rw [activeExporters, h]

theorem activeExporters_of_not_disabled (h : c.disabled ≠ some true) :
    c.activeExporters = c.exporters := by
  unfold activeExporters exporters
  split
  · exact absurd ‹_› h
  · rename_i hp _
    rw [hp]
    rfl
  · rename_i p hp _
    rw [hp, Option.map_some, Option.getD_some, p.exporters_eq_nodes]

end Configuration

namespace Store

theorem createAll_of_disabled {c : Configuration} (h : c.disabled = some true)
    (loader : Provider.Loader) (s : Store) :
    ∃ t, s.createAll c loader = (.ok [], t) ∧ s.SameObjects t := by
  unfold createAll
  cases c.meterProvider with
  | none => exact ⟨s, rfl, .refl s⟩
  | some p => exact ⟨_, if_pos h, sameObjects_log _ s⟩

theorem createAll_of_not_disabled {c : Configuration} (h : c.disabled ≠ some true)
    (loader : Provider.Loader) (s : Store) :
    s.createAll c loader = createEach loader c.activeExporters s := by
  rw [Configuration.activeExporters_of_not_disabled h]
  unfold createAll Configuration.exporters
  cases c.meterProvider with
  | none => rfl
  | some p => exact if_neg h

variable {loader : Provider.Loader} {s t : Store}

theorem createAll_eq_ok {c : Configuration} {numbers : List Nat}
    (h : s.createAll c loader = (.ok numbers, t)) :
    ∃ u, Creates loader s c.activeExporters numbers u ∧ u.SameObjects t := by
  by_cases hd : c.disabled = some true
  · obtain ⟨u, hu, hsu⟩ := createAll_of_disabled hd loader s
    rw [hu] at h
    cases h
    rw [Configuration.activeExporters_of_disabled hd]
    exact ⟨s, .nil, hsu⟩
  · rw [createAll_of_not_disabled hd] at h
    exact ⟨t, createEach_eq_ok_iff.1 h, .refl t⟩

/-- If all exporters of a configuration are made, then there is one for each active node. -/
theorem createAll_made {c : Configuration} {numbers : List Nat}
    (h : s.createAll c loader = (.ok numbers, t)) : s.Made c.activeExporters numbers t := by
  obtain ⟨u, hu, hut⟩ := createAll_eq_ok h
  exact hu.made.of_sameObjects hut

theorem createAll_eq_error_iff {c : Configuration} {fault : ConfigFault} :
    s.createAll c loader = (.error fault, t) ↔ ∃ before node after numbers s₁,
      c.activeExporters = before ++ node :: after ∧ Creates loader s before numbers s₁ ∧
        s₁.createExporter node loader = (.error fault, t) := by
  by_cases hd : c.disabled = some true
  · obtain ⟨u, hu, -⟩ := createAll_of_disabled hd loader s
    rw [hu, Configuration.activeExporters_of_disabled hd]
    refine ⟨nofun, ?_⟩
    rintro ⟨before, node, after, -, -, hnodes, -⟩
    simp at hnodes
  · rw [createAll_of_not_disabled hd]
    exact createEach_eq_error_iff

/-- **Exporters are made in order, with all their resources, up to the first fault**, and no node
after it is looked at. -/
theorem createAll_accounts (c : Configuration) (loader : Provider.Loader) (s : Store) :
    match s.createAll c loader with
    | (.ok numbers, t) => s.Made c.activeExporters numbers t ∧
        ∃ u, Creates loader s c.activeExporters numbers u ∧ u.SameObjects t
    | (.error fault, t) => ∃ before node after numbers s₁,
        c.activeExporters = before ++ node :: after ∧
          Creates loader s before numbers s₁ ∧
            s₁.createExporter node loader = (.error fault, t) ∧ s.Made before numbers t ∧
              ∀ (c' : Configuration) (rest : List ExporterNode),
                c'.activeExporters = before ++ node :: rest →
                  s.createAll c' loader = (.error fault, t) := by
  generalize hr : s.createAll c loader = r
  obtain ⟨fault | numbers, t⟩ := r
  · obtain ⟨before, node, after, numbers, s₁, hnodes, hbefore, hfault⟩ :=
      createAll_eq_error_iff.1 hr
    have hst := createExporter_makes node loader s₁
    rw [hfault] at hst
    exact ⟨before, node, after, numbers, s₁, hnodes, hbefore, hfault,
      hbefore.made.of_sameObjects hst, fun c' rest hrest =>
        createAll_eq_error_iff.2 ⟨before, node, rest, numbers, s₁, hrest, hbefore, hfault⟩⟩
  · exact ⟨createAll_made hr, createAll_eq_ok hr⟩

/-- A store with a resource from before, and with plugins that are not linked yet. -/
def stocked : Store where
  catalogue := { registrations := Sample.registrations, linked := [{}] }
  resources := [.external "file" none]

/-- The third one of these nodes is that of an unknown provider. -/
def faulty : List (Option ExporterNode) :=
  [some (.named "test" []), none, some (.otlp {}), some (.named "other" [])]

/-- Readers that are not periodic have no exporter. After a node of an unknown provider none is
made, whatever comes there. -/
theorem createAll_ofNodes :
    (∃ t, stocked.createAll (.ofNodes [none, some .console, none, some (.otlp {})]) (.linked 0) =
        (.ok [0, 1], t) ∧ stocked.Made [.console, .otlp {}] [0, 1] t) ∧
    ∃ t, stocked.Made [.named "test" [], .otlp {}] [0, 1] t ∧
      t.resources = [.external "file" none, .exporter 0, .channel 0, .exporter 1] ∧
      ∀ rest, stocked.createAll (.ofNodes (faulty ++ rest)) (.linked 0) =
        (.error (.noProvider exporterComponent "other"), t) := by
  constructor
  · have h := createAll_accounts (.ofNodes [none, some .console, none, some (.otlp {})])
      (.linked 0) stocked
    have hmade : (stocked.createAll (.ofNodes [none, some .console, none, some (.otlp {})])
        (.linked 0)).1 = .ok [0, 1] := by
      decide +kernel
    generalize stocked.createAll _ _ = r at h hmade ⊢
    obtain ⟨_, t⟩ := r
    cases hmade
    exact ⟨t, rfl, h.1⟩
  · have h := createAll_accounts (.ofNodes faulty) (.linked 0) stocked
    have hfault : (stocked.createAll (.ofNodes faulty) (.linked 0)).1 =
        .error (.noProvider exporterComponent "other") := by
      decide +kernel
    have hleft : (stocked.createAll (.ofNodes faulty) (.linked 0)).2.exporters.length = 2 ∧
        (stocked.createAll (.ofNodes faulty) (.linked 0)).2.resources =
          [.external "file" none, .exporter 0, .channel 0, .exporter 1] := by
      decide +kernel
    generalize stocked.createAll (.ofNodes faulty) (.linked 0) = r at h hfault hleft
    obtain ⟨_, t⟩ := r
    cases hfault
    obtain ⟨before, node, after, numbers, s₁, hnodes, -, -, hmade, hrest⟩ := h
    -- two exporters were made, so the fault is that of the third node
    obtain ⟨made, hlength, hexporters⟩ := hmade.exporters
    rw [hexporters] at hleft
    have hactive : [ExporterNode.named "test" [], .otlp {}] ++ [.named "other" []] =
        before ++ node :: after := hnodes
    obtain ⟨rfl, hnode⟩ := List.append_inj hactive (hleft.1.symm.trans hlength)
    obtain ⟨rfl, -⟩ := List.cons.inj hnode
    obtain rfl := hmade.numbers_eq
    exact ⟨t, hmade, hleft.2, fun rest => hrest (.ofNodes (faulty ++ rest)) _ rfl⟩

end Store

end Telemetry
