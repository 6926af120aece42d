import Telemetry.Properties
import Telemetry.Proofs.Configuration.RoundTrip

/-!
# Settings as properties

* `Properties.get?_bind_map`: a value that was written under a name is the property of this name.
* `Properties.Shows`: under its name a view has each setting.
* **`OtlpSettings.view_shows`**: the view of settings shows them.
-/

namespace Telemetry

namespace Tree

theorem integer?_int (n : Int64) : integer? (.int n.toInt) = some n := by
  rw [Tree.int, integer?, if_pos (fitsSigned_toInt n), Int64.ofInt_toInt]

end Tree

namespace Properties

variable {p : Properties} {name : String}

/-- A value that was written under a name is the property of this name. -/
theorem get?_bind_map {α β : Type} {read : Tree → Option β} (write : α → Tree) (g : α → β)
    (hnull : ∀ a, write a ≠ .null) (hread : ∀ a, read (write a) = some (g a)) {o : Option α}
    (h : p.entries.get? name = o.map write) : p.get? name >>= read = o.map g := by
  have hget : p.get? name = o.map write := by
    unfold get?
    rw [h]
    split
    · rename_i hw
      obtain ⟨a, -, ha⟩ := Option.map_eq_some_iff.1 hw
      exact absurd ha (hnull a)
    · rfl
  rw [hget]
  cases o with
  | none => rfl
  | some a => exact hread a

theorem text?_of_get? {o : Option String} (h : p.entries.get? name = o.map .text) :
    p.text? name = o := by
  rw [text?, get?_bind_map .text id (fun _ => nofun) (fun _ => rfl) h, Option.map_id_fun, id]

theorem integer?_of_get? {o : Option Int64}
    (h : p.entries.get? name = o.map fun n => .int n.toInt) : p.integer? name = o := by
  rw [integer?, get?_bind_map (fun n : Int64 => .int n.toInt) id (fun _ => nofun)
    Tree.integer?_int h, Option.map_id_fun, id]

theorem structuredList?_of_get? {α : Type} {write : α → Entries} {o : Option (List α)}
    (h : p.entries.get? name = o.map fun as => .list (as.map fun a => .node (write a))) :
    p.structuredList? name = o.map fun as => as.map fun a => p.child (write a) := by
  have hitems : ∀ as : List α, Tree.itemsAs? Tree.entries?
      (.list (as.map fun a => .node (write a))) = some (as.map write) :=
    fun _ => mapM_map_eq_some fun _ _ => rfl
  rw [structuredList?, get?_bind_map (fun as : List α => .list (as.map fun a => .node (write a)))
    (List.map write) (fun _ => nofun) hitems h, Option.map_map]
  simp only [Function.comp_def, List.map_map]

/-- Under its name a view has each setting. -/
structure Shows (view : Properties) (m : OtlpSettings) : Prop where
  protocol : view.text? "protocol" = m.protocol
  endpoint : view.text? "endpoint" = m.endpoint
  headers : view.structuredList? "headers" = m.headers.map fun hs => hs.map fun h =>
    view.child (Entries.ofPairs [("name", .text h.name), ("value", .text h.value)])
  headersList : view.text? "headers_list" = m.headersList
  compression : view.text? "compression" = m.compression
  timeout : view.integer? "timeout" = m.timeout
  certificate : view.text? "certificate" = m.certificate
  clientKey : view.text? "client_key" = m.clientKey
  clientCertificate : view.text? "client_certificate" = m.clientCertificate
  temporalityPreference : view.text? "temporality_preference" = m.temporalityPreference
  defaultHistogramAggregation : view.text? "default_histogram_aggregation" =
    m.defaultHistogramAggregation.map HistogramChoice.name

end Properties

namespace OtlpSettings

/-- The view of settings that were written. -/
def view (m : OtlpSettings) (loader : Provider.Loader) : Properties :=
  ⟨Entries.ofPairs (m.fields Tree.ofPairs), loader⟩

/-- **The view of settings shows them**, each one whatever the others are. -/
theorem view_shows (m : OtlpSettings) (loader : Provider.Loader) : (m.view loader).Shows m := by
  refine ⟨Properties.text?_of_get? ?_, Properties.text?_of_get? ?_,
    Properties.structuredList?_of_get? ?_, Properties.text?_of_get? ?_, Properties.text?_of_get? ?_,
    Properties.integer?_of_get? ?_, Properties.text?_of_get? ?_, Properties.text?_of_get? ?_,
    Properties.text?_of_get? ?_, Properties.text?_of_get? ?_, Properties.text?_of_get? ?_⟩ <;>
    simp only [view, fields, Entries.get?_ofPairs_append, Entries.get?_ofPairs_optionalField,
      String.reduceEq, if_false, if_true, Option.or_none, Option.none_or, Option.map_map,
      Function.comp_def]
  rfl

end OtlpSettings

end Telemetry
