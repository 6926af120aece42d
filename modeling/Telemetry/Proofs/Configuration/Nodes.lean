import Telemetry.Proofs.Configuration.Reading

/-!
# The grammar of exporter nodes

* `ExporterNode.Denotes`: what an entry stands for, one rule for each kind of body that a key takes.
* `ofEntry_eq_ok_iff`, `ofTree_eq_ok_iff`: a tree is read as an exporter if and only if it is a node
  with one entry and this entry stands for the exporter.
* **`ofTree_accounts`**: the key decides of which kind the exporter is, and the body is null or a node
  under any key. Under the keys of the built-in exporters it may also be a list, which gives the
  settings by position, where a plugin takes no list.
-/

namespace Telemetry.ExporterNode

/-- What the body of an entry stands for under its key. -/
inductive Denotes (key : String) : Tree → ExporterNode → Prop
  | otlpBare : key = otlpKey → Denotes key .null (.otlp {})
  | otlpByName {es : Entries} {m : OtlpSettings} :
      key = otlpKey → OtlpSettings.ofEntries es = .ok m → Denotes key (.node es) (.otlp m)
  | otlpByPosition {items : List Tree} {m : OtlpSettings} :
      key = otlpKey → items.length ≤ OtlpSettings.size → OtlpSettings.ofItems items = .ok m →
        Denotes key (.list items) (.otlp m)
  | consoleBare : key = consoleKey → Denotes key .null .console
  | consoleByName {es : Entries} : key = consoleKey → Denotes key (.node es) .console
  | consoleByPosition : key = consoleKey → Denotes key (.list []) .console
  | pluginBare : isBuiltin key = false → Denotes key .null (.named key [])
  | plugin {es : Entries} : isBuiltin key = false → Denotes key (.node es) (.named key es)

/-! ## Entries -/

theorem under_eq_ok {α : Type} {key : String} {x : Shaped α} {a : α} :
    under key x = .ok a ↔ x = .ok a := by
  cases x <;> simp [under]

variable {key : String} {body : Tree} {n : ExporterNode}

theorem denotes_of_ofEntry (h : ofEntry key body = .ok n) : Denotes key body n := by
  unfold ofEntry at h
  split_ifs at h with hotlp hconsole
  · obtain ⟨m, hm, rfl⟩ := map_eq_ok.1 h
    rw [under_eq_ok] at hm
    cases body with
    | null =>
      cases hm
      exact .otlpBare hotlp
    | node es => exact .otlpByName hotlp hm
    | list items =>
      obtain ⟨es, hes, -⟩ | ⟨ts, hts, hm, hsize⟩ := Shape.record_eq_ok.1 hm
      · cases hes
      · cases hts
        exact .otlpByPosition hotlp hsize hm
    | _ => cases hm
  · obtain ⟨u, hu, rfl⟩ := map_eq_ok.1 h
    rw [under_eq_ok] at hu
    cases body with
    | null => exact .consoleBare hconsole
    | node es => exact .consoleByName hconsole
    | list items =>
      obtain ⟨es, hes, -⟩ | ⟨ts, hts, -, hsize⟩ := Shape.record_eq_ok.1 hu
      · cases hes
      · cases hts
        obtain rfl := List.length_eq_zero_iff.1 (Nat.le_zero.1 hsize)
        exact .consoleByPosition hconsole
    | _ => cases hu
  · have hplugin := isBuiltin_eq_false_iff.2 ⟨hotlp, hconsole⟩
    cases body with
    | null =>
      cases h
      exact .pluginBare hplugin
    | node es =>
      cases h
      exact .plugin hplugin
    | _ => cases h

theorem Denotes.ofEntry_eq_ok (h : Denotes key body n) : ofEntry key body = .ok n := by
  have hotlp : ∀ {t : Tree} {m : OtlpSettings}, OtlpSettings.ofTree t = .ok m →
      (under otlpKey (OtlpSettings.ofTree t)).map otlp = .ok (otlp m) := by
    intro t m hm
    rw [hm]
    rfl
  cases h with
  | otlpBare hkey =>
    subst hkey
    rfl
  | otlpByName hkey hm =>
    subst hkey
    exact hotlp hm
  | otlpByPosition hkey hsize hm =>
    subst hkey
    exact hotlp (Shape.record_eq_ok.2 (.inr ⟨_, rfl, hm, hsize⟩))
  | consoleBare hkey | consoleByName hkey | consoleByPosition hkey =>
    subst hkey
    rfl
  | pluginBare hkey | plugin hkey =>
    obtain ⟨hotlp, hconsole⟩ := isBuiltin_eq_false_iff.1 hkey
    rw [ofEntry, if_neg hotlp, if_neg hconsole]

/-- **A tree is read as an exporter** if it is a node with one entry that stands for it. -/
theorem ofTree_eq_ok_iff {t : Tree} :
    ofTree t = .ok n ↔ ∃ key body, t = .node [(key, body)] ∧ Denotes key body n := by
  constructor
  · intro h
    obtain ⟨key, body, rfl, hn⟩ := ofTree_eq_ok h
    exact ⟨key, body, rfl, denotes_of_ofEntry hn⟩
  · rintro ⟨key, body, rfl, hn⟩
    exact hn.ofEntry_eq_ok

/-! ## Bodies and kinds -/

/-- The bodies that every key takes: null, and nodes. -/
def IsBody : Tree → Prop
  | .null => True
  | .node _ => True
  | _ => False

/-- The entries of a body; null is as good as none. -/
def bodyEntries : Tree → Entries
  | .node es => es
  | _ => []

/-- The kind of exporter that a key asks for. -/
def IsUnder (key : String) (body : Tree) (n : ExporterNode) : Prop :=
  (key = otlpKey → ∃ m, n = .otlp m) ∧ (key = consoleKey → n = .console) ∧
    (isBuiltin key = false → n = .named key (bodyEntries body))

theorem isUnder_otlp (body : Tree) (m : OtlpSettings) : IsUnder otlpKey body (.otlp m) :=
  ⟨fun _ => ⟨m, rfl⟩, fun h => absurd h (by decide), fun h => absurd h (by decide)⟩

theorem isUnder_console (body : Tree) : IsUnder consoleKey body .console :=
  ⟨fun h => absurd h (by decide), fun _ => rfl, fun h => absurd h (by decide)⟩

theorem isUnder_named (hkey : isBuiltin key = false) :
    IsUnder key body (.named key (bodyEntries body)) := by
  obtain ⟨hotlp, hconsole⟩ := isBuiltin_eq_false_iff.1 hkey
  exact ⟨fun h => absurd h hotlp, fun h => absurd h hconsole, fun _ => rfl⟩

/-- **The key decides of which kind an exporter is.** -/
theorem Denotes.isUnder (h : Denotes key body n) : IsUnder key body n := by
  cases h with
  | otlpBare hkey | otlpByName hkey _ | otlpByPosition hkey _ _ =>
    subst hkey
    exact isUnder_otlp _ _
  | consoleBare hkey | consoleByName hkey | consoleByPosition hkey =>
    subst hkey
    exact isUnder_console _
  | pluginBare hkey | plugin hkey => exact isUnder_named hkey

theorem Denotes.isBody_or_list (h : Denotes key body n) :
    IsBody body ∨ isBuiltin key = true ∧ ∃ items, body = .list items := by
  cases h with
  | otlpByPosition hkey _ _ | consoleByPosition hkey =>
    subst hkey
    exact .inr ⟨by decide, _, rfl⟩
  | _ => exact .inl trivial

theorem IsBody.exists_denotes (h : IsBody body) (hkey : key ≠ otlpKey) :
    ∃ n, Denotes key body n := by
  by_cases hconsole : key = consoleKey
  · cases body with
    | null => exact ⟨_, .consoleBare hconsole⟩
    | node es => exact ⟨_, .consoleByName hconsole⟩
    | _ => exact h.elim
  · have hplugin := isBuiltin_eq_false_iff.2 ⟨hkey, hconsole⟩
    cases body with
    | null => exact ⟨_, .pluginBare hplugin⟩
    | node es => exact ⟨_, .plugin hplugin⟩
    | _ => exact h.elim

theorem denotes_otlp_iff (h : IsBody body) : Denotes otlpKey body n ↔
    ∃ m, OtlpSettings.ofEntries (bodyEntries body) = .ok m ∧ n = .otlp m := by
  constructor
  · intro hn
    cases hn with
    | otlpBare => exact ⟨{}, rfl, rfl⟩
    | otlpByName _ hm => exact ⟨_, hm, rfl⟩
    | otlpByPosition => exact h.elim
    | consoleBare hkey | consoleByName hkey | consoleByPosition hkey =>
      exact absurd hkey (by decide)
    | pluginBare hkey | plugin hkey => exact absurd hkey (by decide)
  · rintro ⟨m, hm, rfl⟩
    cases body with
    | null =>
      cases hm
      exact .otlpBare rfl
    | node es => exact .otlpByName rfl hm
    | _ => exact h.elim

theorem denotes_list_iff {items : List Tree} : Denotes key (.list items) n ↔
    (key = otlpKey ∧ items.length ≤ OtlpSettings.size ∧
      ∃ m, OtlpSettings.ofItems items = .ok m ∧ n = .otlp m) ∨
    (key = consoleKey ∧ items = [] ∧ n = .console) := by
  constructor
  · intro hn
    cases hn with
    | otlpByPosition hkey hsize hm => exact .inl ⟨hkey, hsize, _, hm, rfl⟩
    | consoleByPosition hkey => exact .inr ⟨hkey, rfl, rfl⟩
  · rintro (⟨hkey, hsize, m, hm, rfl⟩ | ⟨hkey, rfl, rfl⟩)
    · exact .otlpByPosition hkey hsize hm
    · exact .consoleByPosition hkey

/-- **The grammar of exporter nodes.** A node has one entry, whose key decides of which kind it is.
Unlike plugins, built-in exporters also take lists. -/
theorem ofTree_accounts (t : Tree) :
    (∀ n, ofTree t = .ok n → ∃ key body, t = .node [(key, body)] ∧ IsUnder key body n ∧
      (IsBody body ∨ isBuiltin key = true ∧ ∃ items, body = .list items)) ∧
    (∀ key body, t = .node [(key, body)] → IsBody body → key ≠ otlpKey → ∃ n, ofTree t = .ok n) ∧
    (∀ body n, t = .node [(otlpKey, body)] → IsBody body → (ofTree t = .ok n ↔
      ∃ m, OtlpSettings.ofEntries (bodyEntries body) = .ok m ∧ n = .otlp m)) ∧
    (∀ key items n, t = .node [(key, .list items)] → (ofTree t = .ok n ↔
      (key = otlpKey ∧ items.length ≤ OtlpSettings.size ∧
        ∃ m, OtlpSettings.ofItems items = .ok m ∧ n = .otlp m) ∨
      (key = consoleKey ∧ items = [] ∧ n = .console))) := by
  have hentry : ∀ key body n, ofTree (.node [(key, body)]) = .ok n ↔ Denotes key body n :=
    fun key body n => ⟨denotes_of_ofEntry, Denotes.ofEntry_eq_ok⟩
  refine ⟨?_, ?_, ?_, ?_⟩
  · intro n h
    obtain ⟨key, body, rfl, hn⟩ := ofTree_eq_ok_iff.1 h
    exact ⟨key, body, rfl, hn.isUnder, hn.isBody_or_list⟩
  · rintro key body rfl hbody hkey
    obtain ⟨n, hn⟩ := hbody.exists_denotes hkey
    exact ⟨n, (hentry key body n).2 hn⟩
  · rintro body n rfl hbody
    rw [hentry, denotes_otlp_iff hbody]
  · rintro key items n rfl
    rw [hentry, denotes_list_iff]

/-- The console exporter takes an empty list for a body, which is neither null nor a node. -/
theorem ofTree_console_list :
    ofTree (.node [(consoleKey, .list [])]) = .ok .console ∧
      ¬ ∀ t n, ofTree t = .ok n → ∃ key body, t = .node [(key, body)] ∧ IsBody body := by
  have hread : ofTree (.node [(consoleKey, .list [])]) = .ok .console := rfl
  refine ⟨hread, fun h => ?_⟩
  obtain ⟨key, body, hnode, hbody⟩ := h _ _ hread
  cases hnode
  exact hbody

end Telemetry.ExporterNode
