import Telemetry.Command.Run
import Telemetry.Proofs.Export.Methods

/-!
# The methods that are listed

* `Compression.mem_supported_iff_resolve`: the known methods are those that are resolved to a
  compressor, and besides the method that does not compress if some compressor claims it as its
  encoding.
* `Compression.nodup_listing_iff`: put in front of the known methods, that method is listed once if
  and only if no compressor claims it.
* **`Store.supported_accounts`**: the same for the methods that a loader allows and for the ones that
  the program prints.
-/

namespace Telemetry

namespace Compression

variable {found : List Compressor} {method : String}

/-- Whatever is found, no compressor comes of the method that does not compress. -/
theorem not_exists_resolve_noMethod (found : List Compressor) :
    ¬ ∃ c, resolve found noMethod = .ok (some c) := by
  rintro ⟨c, hc⟩
  rw [resolve, if_pos rfl] at hc
  cases hc

theorem noMethod_mem_supported :
    noMethod ∈ supported found ↔ ∃ c ∈ found, c.encoding = noMethod := by
  have hgzip : noMethod ≠ Compressor.gzipEncoding := by decide
  rw [mem_supported, or_iff_right hgzip]

/-- **A method is listed if it is resolved**, or if it does not compress and some compressor claims
it all the same. -/
theorem mem_supported_iff_resolve : method ∈ supported found ↔
    (∃ c, resolve found method = .ok (some c)) ∨
      method = noMethod ∧ ∃ c ∈ found, c.encoding = noMethod := by
  by_cases hnone : method = noMethod
  · subst hnone
    simp [noMethod_mem_supported, not_exists_resolve_noMethod]
  · rw [mem_supported, exists_resolve_eq_some hnone]
    simp [hnone]

/-- Methods in ascending order are all different, so only the first entry can come again. -/
theorem nodup_listing_iff :
    (noMethod :: supported found).Nodup ↔ ∀ c ∈ found, c.encoding ≠ noMethod := by
  have hnodup : (supported found).Nodup := (pairwise_supported found).imp fun h => ne_of_lt h
  rw [List.nodup_cons, and_iff_left hnodup, noMethod_mem_supported]
  simp

end Compression

namespace Store

/-- Once nothing but plugins was looked for, the same compressors are found. -/
theorem Finds.fst_resolve {s t : Store} (h : s.Finds t) (loader : Provider.Loader)
    (method : String) : (t.resolve loader method).1 = (s.resolve loader method).1 := by
  rw [Store.fst_resolve, Store.fst_resolve, fst_compressors, fst_compressors, h.found]

/-- **The methods that are listed** are those that are resolved to a compressor, and the one that
does not compress where some compressor claims it. -/
theorem supported_accounts (loader : Provider.Loader) (s : Store) :
    let found := (s.compressors loader).1
    let listed := (s.supported loader).1
    let later := (s.supported loader).2
    listed.Pairwise (fun a b => Bytes.ofString a < Bytes.ofString b) ∧
    (∀ method, method ∈ listed ↔ (∃ c, (s.resolve loader method).1 = .ok (some c)) ∨
      method = Compression.noMethod ∧ ∃ c ∈ found, c.encoding = Compression.noMethod) ∧
    (∀ method, (later.resolve loader method).1 = (s.resolve loader method).1) ∧
    (¬ ∃ c, (s.resolve loader Compression.noMethod).1 = .ok (some c)) ∧
    ∀ (p : Command.Program) (w : Command.Surroundings) (pretty : Bool),
      let linked := (p.store.compressors Command.linkedPlugins).1
      ∃ events methods, (Command.perform p w (.compressors pretty)).lines =
          events ++ [Command.jsonLine pretty (.node [("compression", .list (methods.map .text))])] ∧
        methods = Compression.noMethod :: (p.store.supported Command.linkedPlugins).1 ∧
        (methods.Nodup ↔ ∀ c ∈ linked, c.encoding ≠ Compression.noMethod) := by
  intro found listed later
  have hfinds : s.Finds (s.supported loader).2 := .load .compressor loader .refl
  refine ⟨pairwise_ofString_supported found, fun method => ?_, fun method => ?_, ?_,
    fun p w pretty => ?_⟩
  · rw [fst_resolve]
    exact Compression.mem_supported_iff_resolve
  · exact hfinds.fst_resolve loader method
  · rw [fst_resolve]
    exact Compression.not_exists_resolve_noMethod found
  · exact ⟨_, _, rfl, rfl, Compression.nodup_listing_iff⟩

/-- A compressor that claims the method `none` is listed and makes the list repeat itself, but is
never resolved. -/
theorem supported_lists_noMethod :
    let s : Store := { catalogue.registries :=
      [⟨[⟨.compressor, "idle", Sample.compressor "none" "identity"⟩]⟩] }
    Compression.noMethod ∈ (s.supported (.registry 0)).1 ∧
      (¬ ∃ c, (s.resolve (.registry 0) Compression.noMethod).1 = .ok (some c)) ∧
      ¬ (Compression.noMethod :: (s.supported (.registry 0)).1).Nodup := by
  intro s
  have hlisted : (s.supported (.registry 0)).1 = ["gzip", "none"] := by decide +kernel
  rw [hlisted, fst_resolve]
  exact ⟨by decide, Compression.not_exists_resolve_noMethod _, by decide⟩

end Store

end Telemetry
