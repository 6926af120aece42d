import Telemetry.Proofs.Configuration.Reading

/-!
# Exporters do not depend on variables

* `Configuration.outline`: which exporters a configuration builds: for each reader the key of its
  exporter, and for a plugin the outline of its configuration.
* `Outlined`: reading trees of one outline gives values of one outline. It passes through lists and
  optional fields, and holds of each record down to a configuration.
* **`outline_eq_of_expand`**: the values of variables cannot change which exporters a document
  builds.
-/

namespace Telemetry

/-! ## Outlines of configurations -/

/-- The configuration of a plugin. -/
def ExporterNode.config? : ExporterNode → Option Tree
  | .named _ config => some (.node config)
  | _ => none

/-- The key of an exporter and, if it is a plugin, the outline of its configuration. -/
def ExporterNode.outline (n : ExporterNode) : String × Option Tree :=
  (n.key, n.config?.map Tree.outline)

/-- The outline of the exporter of a reader, if it has a periodic section. -/
def MetricReader.outline (r : MetricReader) : Option (String × Option Tree) :=
  r.periodic.map fun p => p.exporter.outline

/-- The outlines of the readers, in order. -/
def MeterProvider.outline (p : MeterProvider) : List (Option (String × Option Tree)) :=
  p.readers.map MetricReader.outline

/-- The outline of the meter provider, if there is one. -/
def Configuration.outline (c : Configuration) : Option (List (Option (String × Option Tree))) :=
  c.meterProvider.map MeterProvider.outline

/-! ## Reading trees of one outline -/

/-- Reading trees of one outline gives values of one outline, if it gives values at all. -/
def Outlined {α β : Type} (read : Tree → Shaped α) (outline : α → β) : Prop :=
  ∀ ⦃t u : Tree⦄ ⦃a b : α⦄, t.outline = u.outline → read t = .ok a → read u = .ok b →
    outline a = outline b

section Outlined

variable {α β : Type} {read : Tree → Shaped α} {outline : α → β} {t? u? : Option Tree}
  {a b : Option α}

theorem Outlined.list (h : Outlined read outline) :
    Outlined (Shape.list read) (List.map outline) := by
  intro t u as bs htu ha hb
  obtain ⟨ts, rfl, hts⟩ := Shape.list_eq_ok.1 ha
  obtain ⟨us, rfl, hus⟩ := Shape.list_eq_ok.1 hb
  clear ha hb
  simp only [Tree.outline, Tree.outlineItems_eq_map, Tree.list.injEq] at htu
  induction hts generalizing us bs with
  | nil =>
    obtain rfl := List.map_eq_nil_iff.1 htu.symm
    cases hus
    rfl
  | cons ht _ ih =>
    obtain ⟨u, us, rfl, hu, htus⟩ := List.map_eq_cons_iff.1 htu.symm
    cases hus with
    | cons hb hbs =>
      rw [List.map_cons, List.map_cons, h hu.symm ht hb, ih _ hbs htus.symm]

theorem Outlined.present (h : Outlined read outline)
    (htu : t?.map Tree.outline = u?.map Tree.outline) (ha : Shape.present read t? = .ok a)
    (hb : Shape.present read u? = .ok b) : a.map outline = b.map outline := by
  obtain ⟨rfl, rfl⟩ | ⟨t, a, rfl, hta, rfl⟩ := Shape.present_eq_ok.1 ha <;>
    obtain ⟨rfl, rfl⟩ | ⟨u, b, rfl, hub, rfl⟩ := Shape.present_eq_ok.1 hb
  · rfl
  · cases htu
  · cases htu
  · exact congrArg some (h (Option.some.inj htu) hta hub)

/-- An optional field is null in one tree only if its value in the other is read from a scalar,
which no record is. -/
theorem Outlined.optional (h : Outlined read outline)
    (hread : ∀ t a, read t = .ok a → t.outline ≠ .null)
    (htu : t?.map Tree.outline = u?.map Tree.outline) (ha : Shape.optional read t? = .ok a)
    (hb : Shape.optional read u? = .ok b) : a.map outline = b.map outline := by
  obtain ⟨ht, rfl⟩ | ⟨t, a, rfl, -, hta, rfl⟩ := Shape.optional_eq_ok.1 ha <;>
    obtain ⟨hu, rfl⟩ | ⟨u, b, rfl, -, hub, rfl⟩ := Shape.optional_eq_ok.1 hb
  · rfl
  · rcases ht with rfl | rfl
    · cases htu
    · exact absurd (Option.some.inj htu).symm (hread u b hub)
  · rcases hu with rfl | rfl
    · cases htu
    · exact absurd (Option.some.inj htu) (hread t a hta)
  · exact congrArg some (h (Option.some.inj htu) hta hub)

end Outlined

/-- No record is read from a scalar. -/
theorem Shape.outline_ne_null {α : Type} {name : String} {size : Nat}
    {byName : Entries → Shaped α} {byPosition : List Tree → Shaped α} (t : Tree) (a : α)
    (h : record name size byName byPosition t = .ok a) : t.outline ≠ .null := by
  obtain ⟨es, rfl, -⟩ | ⟨items, rfl, -⟩ := record_eq_ok.1 h <;> simp [Tree.outline]

/-! ## Records -/

theorem ExporterNode.outlined : Outlined ofTree outline := by
  intro t u m n htu hm hn
  obtain ⟨key, body, rfl, hm'⟩ := ofTree_eq_ok hm
  obtain ⟨key', body', rfl, hn'⟩ := ofTree_eq_ok hn
  simp only [Tree.outline, Tree.outlineEntries, Tree.node.injEq, List.cons.injEq, Prod.mk.injEq,
    and_true] at htu
  obtain ⟨rfl, hbody⟩ := htu
  obtain ⟨rfl, m, rfl⟩ | ⟨rfl, rfl⟩ | ⟨hkey, config, rfl, hc⟩ := ofEntry_eq_ok hm'
  · obtain ⟨-, m', rfl⟩ | ⟨h, -⟩ | ⟨h, -⟩ := ofEntry_eq_ok hn'
    · rfl
    · exact absurd h (by decide)
    · exact absurd h (by decide)
  · obtain ⟨h, -⟩ | ⟨-, rfl⟩ | ⟨h, -⟩ := ofEntry_eq_ok hn'
    · exact absurd h (by decide)
    · rfl
    · exact absurd h (by decide)
  · obtain ⟨rfl, -⟩ | ⟨rfl, -⟩ | ⟨-, config', rfl, hc'⟩ := ofEntry_eq_ok hn'
    · exact absurd hkey (by decide)
    · exact absurd hkey (by decide)
    -- both bodies are nodes, or both are null: the outline tells a node from a scalar
    · obtain rfl | ⟨rfl, rfl⟩ := hc <;> obtain rfl | ⟨rfl, rfl⟩ := hc'
      · exact congrArg (fun o => (key, some o)) hbody
      · cases hbody
      · cases hbody
      · rfl

theorem PeriodicReader.outlined : Outlined ofTree fun r => r.exporter.outline := by
  intro t u a b htu ha hb
  obtain ⟨x, hx, ha⟩ := exporter_of_ofTree ha
  obtain ⟨y, hy, hb⟩ := exporter_of_ofTree hb
  have hxy := Tree.field_outline_congr htu "exporter" 2
  rw [hx, hy] at hxy
  exact ExporterNode.outlined (Option.some.inj hxy) ha hb

theorem MetricReader.outlined : Outlined ofTree outline := fun _ _ _ _ htu ha hb =>
  PeriodicReader.outlined.optional Shape.outline_ne_null (Tree.field_outline_congr htu _ _)
    (periodic_of_ofTree ha) (periodic_of_ofTree hb)

theorem MeterProvider.outlined : Outlined ofTree outline := by
  intro t u p q htu hp hq
  obtain ⟨o, ho, hp⟩ := readers_of_ofTree hp
  obtain ⟨o', ho', hq⟩ := readers_of_ofTree hq
  have h := MetricReader.outlined.list.present (Tree.field_outline_congr htu _ _) ho ho'
  unfold outline
  rw [hp, hq]
  cases o <;> cases o' <;> simp_all

theorem Configuration.outlined : Outlined ofTree outline := fun _ _ _ _ htu hc hd =>
  MeterProvider.outlined.optional Shape.outline_ne_null (Tree.field_outline_congr htu _ _)
    (meterProvider_of_ofTree hc) (meterProvider_of_ofTree hd)

/-! ## Documents -/

/-- **The values of variables cannot change which exporters a document builds.** Configurations that
are read under two lookups differ in scalars only. -/
theorem outline_eq_of_expand (t : Tree) (f g : Lookup) {c d : Configuration}
    (hc : Configuration.ofTree (t.expand f) = .ok c)
    (hd : Configuration.ofTree (t.expand g) = .ok d) : c.outline = d.outline :=
  Configuration.outlined ((t.outline_expand f).trans (t.outline_expand g).symm) hc hd

/-- A document with a reader whose periodic section is a variable, and a reader with a plugin. -/
def sizedDocument : Tree :=
  .node [("file_format", .text "0.3"), ("meter_provider", .node [("readers", .list [
    .node [("periodic", .text "$\x7bNONE\x7d")],
    .node [("periodic", .node [("exporter", .node [("plugin", .node [
      ("names", .list [.text "$\x7bSIZE\x7d", .text "a"]),
      ("size", .text "$\x7bSIZE\x7d")])])])]])])]

/-- What the document denotes with a given size. -/
def sizedConfiguration (size : Tree) : Configuration :=
  ⟨"0.3", none, some ⟨[⟨none⟩, ⟨some ⟨none, none, .named "plugin"
    [("names", .list [size, .text "a"]), ("size", size)]⟩⟩]⟩⟩

/-- The lookup that knows the size only. -/
def sizeLookup (size : String) : Lookup := fun name => if name = "SIZE" then some size else none

/-- The size may be a number or a text that looks like a node. -/
theorem outline_eq_of_size :
    Configuration.ofTree (sizedDocument.expand (sizeLookup "7")) =
        .ok (sizedConfiguration (.int 7)) ∧
      Configuration.ofTree (sizedDocument.expand (sizeLookup "\x7bbig: 1\x7d")) =
        .ok (sizedConfiguration (.text "\x7bbig: 1\x7d")) ∧
      (sizedConfiguration (.int 7)).outline =
        (sizedConfiguration (.text "\x7bbig: 1\x7d")).outline :=
  ⟨by decide +kernel, by decide +kernel,
    outline_eq_of_expand sizedDocument (sizeLookup "7") (sizeLookup "\x7bbig: 1\x7d")
      (by decide +kernel) (by decide +kernel)⟩

end Telemetry
