import Telemetry.Proofs.Configuration.Properties

/-!
# Settings as they are built

* `Setting.name`, `Setting.tree`: the name that a setting has in a tree, and what stands there.
* `OtlpSettings.get?_view_set`, `get?_view_foldl_set`: what stands under a name in the view after
  one more setting and after any number of them.
* `Properties.Reads`, `Properties.Lacks`: what a view answers for a setting and for a name without
  one.
* **`view_built`**: the view of settings that were given one after the other reads the last one of
  each name, and has no other names.
-/

namespace Telemetry

theorem HistogramChoice.ofName?_name (c : HistogramChoice) : ofName? c.name = some c := by
  cases c <;> rfl

namespace OtlpSettings

/-- The name of a setting in documents. -/
def Setting.name : Setting → String
  | .protocol _ => "protocol"
  | .endpoint _ => "endpoint"
  | .headers _ => "headers"
  | .headersList _ => "headers_list"
  | .compression _ => "compression"
  | .timeout _ => "timeout"
  | .certificate _ => "certificate"
  | .clientKey _ => "client_key"
  | .clientCertificate _ => "client_certificate"
  | .temporalityPreference _ => "temporality_preference"
  | .defaultHistogramAggregation _ => "default_histogram_aggregation"

/-- A setting as a tree. -/
def Setting.tree : Setting → Tree
  | .headers hs => .list (hs.map (Header.write Tree.ofPairs))
  | .timeout n => .int n.toInt
  | .defaultHistogramAggregation c => .text c.name
  | .protocol s | .endpoint s | .headersList s | .compression s | .certificate s | .clientKey s
  | .clientCertificate s | .temporalityPreference s => .text s

variable (m : OtlpSettings) (loader : Provider.Loader)

/-! ## Entries -/

/-- One more setting is one more entry. -/
theorem get?_view_set (s : Setting) (name : String) :
    ((m.set s).view loader).entries.get? name =
      if name = s.name then some s.tree else (m.view loader).entries.get? name := by
  simp only [view, fields, Entries.get?_ofPairs_append, Entries.get?_ofPairs_optionalField]
  -- the eleven names are different, so at most one of the fields answers
  by_cases h : name = s.name
  · subst h
    cases s <;> simp [set, Setting.name, Setting.tree]
  · cases s <;> simp only [Setting.name] at h <;> simp [set, Setting.name, h]

/-- Settings one after the other are entries put in one after the other. -/
theorem get?_view_foldl_set (calls : List Setting) {m : OtlpSettings} {es : Entries}
    (h : ∀ name, (m.view loader).entries.get? name = es.get? name) (name : String) :
    ((calls.foldl set m).view loader).entries.get? name =
      Entries.get? ((calls.map fun s => (s.name, s.tree)).foldl
        (fun es (k, v) => Entries.insert k v es) es) name := by
  induction calls generalizing m es with
  | nil => exact h name
  | cons s calls ih =>
    refine ih fun name => ?_
    rw [get?_view_set, Entries.get?_insert, h]

theorem entries_view_default : (view {} loader).entries = [] := rfl

/-- What was built holds what the calls put in, the last one of each name. -/
theorem get?_view_built (calls : List Setting) (name : String) :
    ((calls.foldl set {}).view loader).entries.get? name =
      (Entries.ofPairs (calls.map fun s => (s.name, s.tree))).get? name :=
  get?_view_foldl_set loader calls (fun _ => by rw [entries_view_default]) name

theorem set_comm {a b : Setting} (h : a.name ≠ b.name) : (m.set a).set b = (m.set b).set a := by
  cases a <;> cases b <;> first | rfl | exact absurd rfl h

end OtlpSettings

/-! ## Answers -/

namespace Properties

open OtlpSettings (Setting)

/-- A view of a header: its name, its value and nothing else. -/
structure ShowsHeader (h : Header) (view : Properties) : Prop where
  keys : view.keys = ["name", "value"]
  name : view.text? "name" = some h.name
  value : view.text? "value" = some h.value

/-- Under the name of a setting a view has its value: asked for in the way that suits the value, it
answers with it. -/
def Reads (view : Properties) : Setting → Prop
  | .protocol s => view.text? "protocol" = some s
  | .endpoint s => view.text? "endpoint" = some s
  | .headers hs => ∃ vs, view.structuredList? "headers" = some vs ∧ List.Forall₂ ShowsHeader hs vs
  | .headersList s => view.text? "headers_list" = some s
  | .compression s => view.text? "compression" = some s
  | .timeout n => view.integer? "timeout" = some n ∧
      view.millis? "timeout" = if 0 ≤ n.toInt then some n.toInt.toNat else none
  | .certificate s => view.text? "certificate" = some s
  | .clientKey s => view.text? "client_key" = some s
  | .clientCertificate s => view.text? "client_certificate" = some s
  | .temporalityPreference s => view.text? "temporality_preference" = some s
  | .defaultHistogramAggregation c => view.text? "default_histogram_aggregation" = some c.name ∧
      HistogramChoice.ofName? c.name = some c

/-- Under a name a view has nothing, whatever is asked for. -/
structure Lacks (view : Properties) (name : String) : Prop where
  get : view.entries.get? name = none
  text : view.text? name = none
  integer : view.integer? name = none
  millis : view.millis? name = none
  structuredList : view.structuredList? name = none

variable {view : Properties}

theorem Lacks.of_get? {name : String} (h : view.entries.get? name = none) : view.Lacks name := by
  have hget : view.get? name = none := by rw [get?, h]
  have hinteger : view.integer? name = none := by rw [integer?, hget]; rfl
  refine ⟨h, ?_, hinteger, ?_, ?_⟩
  · rw [text?, hget]
    rfl
  · rw [millis?, hinteger]
  · rw [structuredList?, hget]
    rfl

theorem forall₂_showsHeader (hs : List Header) : List.Forall₂ ShowsHeader hs
    (hs.map fun h =>
      view.child (Entries.ofPairs [("name", .text h.name), ("value", .text h.value)])) :=
  List.forall₂_map_right_iff.2 (List.forall₂_same.2 fun _ _ => ⟨rfl, rfl, rfl⟩)

theorem Reads.of_get? {s : Setting} (h : view.entries.get? s.name = some s.tree) :
    view.Reads s := by
  cases s with
  | headers hs => exact ⟨_, structuredList?_of_get? (o := some hs) h, forall₂_showsHeader hs⟩
  | timeout n =>
    have hinteger : view.integer? "timeout" = some n := integer?_of_get? h
    refine ⟨hinteger, ?_⟩
    rw [millis?, hinteger]
  | defaultHistogramAggregation c =>
    exact ⟨text?_of_get? (o := some c.name) h, c.ofName?_name⟩
  | _ => exact text?_of_get? (o := some _) h

end Properties

namespace OtlpSettings

/-- **What was built is read back.** Of several settings of one name the last one counts, and their
order does not matter otherwise. -/
theorem view_built (calls : List Setting) (loader : Provider.Loader) :
    ∃ view, Properties.ofTree (calls.foldl set {}).toTree loader = .ok view ∧
      view.keys.Pairwise (· < ·) ∧
      (∀ name, name ∈ view.keys ↔ ∃ s ∈ calls, s.name = name) ∧
      (∀ before s after, calls = before ++ s :: after → (∀ t ∈ after, t.name ≠ s.name) →
        view.Reads s) ∧
      (∀ name, (∀ s ∈ calls, s.name ≠ name) → view.Lacks name) ∧
      ∀ (m : OtlpSettings) (a b : Setting),
        a.name ≠ b.name → (m.set a).set b = (m.set b).set a := by
  have hget := get?_view_built loader calls
  have hnone : ∀ name, ((calls.foldl set {}).view loader).entries.get? name = none ↔
      ∀ s ∈ calls, s.name ≠ name := by
    intro name
    rw [hget, Entries.get?_ofPairs_eq_none, List.forall_mem_map]
  refine ⟨(calls.foldl set {}).view loader, rfl, Entries.pairwise_keys_ofPairs _,
    fun name => ?_, ?_, fun name h => ?_, fun m a b => set_comm m⟩
  · refine Entries.mem_keys_iff.trans (Option.isSome_iff_ne_none.trans ?_)
    rw [ne_eq, hnone, not_forall]
    simp only [not_forall, not_not, exists_prop]
  · rintro before s after rfl hafter
    refine .of_get? ?_
    rw [hget, List.map_append, List.map_cons]
    exact Entries.get?_ofPairs_of_last (List.forall_mem_map.2 hafter)
  · exact .of_get? ((hnone name).2 h)

/-- Of two timeouts the later one counts, and it is no duration. A list of no headers is there. -/
theorem view_built_timeouts : ∃ view, Properties.ofTree
    (List.foldl set {} [.timeout 5, .headers [], .timeout (-1)]).toTree (.registry 0) = .ok view ∧
      view.keys = ["headers", "timeout"] ∧ view.structuredList? "headers" = some [] ∧
      view.integer? "timeout" = some (-1) ∧ view.millis? "timeout" = none ∧
      view.Lacks "endpoint" := by
  obtain ⟨view, hview, -, -, hreads, hlacks, -⟩ :=
    view_built [.timeout 5, .headers [], .timeout (-1)] (.registry 0)
  obtain ⟨vs, hheaders, hvs⟩ := hreads [.timeout 5] (.headers []) [.timeout (-1)] rfl (by decide)
  obtain ⟨htimeout, hmillis⟩ := hreads [.timeout 5, .headers []] (.timeout (-1)) [] rfl nofun
  obtain rfl := List.forall₂_nil_left_iff.1 hvs
  refine ⟨view, hview, ?_, hheaders, htimeout, hmillis, hlacks _ (by decide)⟩
  cases hview
  decide

end OtlpSettings

end Telemetry
