import Telemetry.Plugin.Sample
import Telemetry.Proofs.Bytes.Order
import Telemetry.Proofs.Export.Acceptance
import Telemetry.Proofs.Export.Lookup

/-!
# Which methods are resolved

* `fst_supported`: the methods that a loader allows, which looking for plugins does not change.
* **`resolve_accounts`**: gzip and the encodings of the compressors that a loader finds are resolved,
  and nothing else; a refusal lists just these.
-/

namespace Telemetry.Store

variable {method : String}

theorem fst_supported (loader : Provider.Loader) (s : Store) :
    (s.supported loader).1 = Compression.supported (s.compressors loader).1 := rfl

theorem Finds.supported {s t : Store} (h : s.Finds t) (loader : Provider.Loader) :
    (t.supported loader).1 = (s.supported loader).1 := by
  rw [fst_supported, fst_supported, fst_compressors, fst_compressors, h.found]

/-- The known methods in the order of their bytes. -/
theorem pairwise_ofString_supported (found : List Compressor) :
    (Compression.supported found).Pairwise fun a b => Bytes.ofString a < Bytes.ofString b :=
  (Compression.pairwise_supported found).imp Bytes.ofString_lt_ofString.2

/-- **Just the methods that are listed are resolved.** A compressor reports the method that it is
resolved from; a refusal lists all methods in order. -/
theorem resolve_accounts (hmethod : method ≠ Compression.noMethod) (loader : Provider.Loader)
    (s : Store) :
    let found := (s.compressors loader).1
    let outcome := (s.resolve loader method).1
    ((∃ c, outcome = .ok (some c)) ↔ method = "gzip" ∨ ∃ c ∈ found, c.encoding = method) ∧
    (∀ c, outcome = .ok (some c) →
      c.encoding = method ∧ if method = "gzip" then c = .gzip else c ∈ found) ∧
    ((∀ c, outcome ≠ .ok (some c)) → ∃ known,
      outcome = .error (.unknownMethod known) ∧
      (CompressionFault.unknownMethod known).message =
        "Unsupported compressionMethod. Compression method must be \x22none\x22 or one of: [" ++
          joined "," known ++ "]" ∧
      (∀ encoding, encoding ∈ known ↔ encoding = "gzip" ∨ ∃ c ∈ found, c.encoding = encoding) ∧
      known.Pairwise (fun a b => Bytes.ofString a < Bytes.ofString b) ∧
      (s.supported loader).1 = known ∧
      ((s.resolve loader method).2.supported loader).1 = known) ∧
    (∀ (t : Store) (other : Provider.Loader), (∀ c, c ∈ (t.compressors other).1 ↔ c ∈ found) →
      (t.resolve other method).1.map Option.isSome = outcome.map Option.isSome) ∧
    s.resolve loader "none" = (.ok none, s) := by
  intro found outcome
  have houtcome : outcome = Compression.resolve found method := fst_resolve loader method s
  rw [houtcome]
  have hiff : (∃ c, Compression.resolve found method = .ok (some c)) ↔
      method = "gzip" ∨ ∃ c ∈ found, c.encoding = method :=
    Compression.exists_resolve_eq_some hmethod
  refine ⟨hiff, fun c hc => (Compression.names_of_resolve hc).eq_some, ?_, ?_, rfl⟩
  · intro hnone
    have hunknown : ¬ Compression.Known found method := by
      rintro (hno | hknown)
      · exact hmethod hno
      · obtain ⟨c, hc⟩ := hiff.2 hknown
        exact hnone c hc
    refine ⟨Compression.supported found, Compression.resolve_of_not_known hunknown, rfl,
      fun _ => Compression.mem_supported, pairwise_ofString_supported found, rfl, ?_⟩
    rw [(finds_resolve loader method s).supported, fst_supported]
  · intro t other h
    rw [fst_resolve]
    exact Compression.isSome_resolve_congr h method

/-- A registry with two compressors of one encoding, one without a name for its encoding, and one
that reports gzip. -/
def repeats : Store where
  catalogue.registries := [⟨[⟨.compressor, "fast", Sample.compressor "zstd" "identity"⟩,
    ⟨.compressor, "none", Sample.compressor "" "identity"⟩,
    ⟨.compressor, "small", Sample.compressor "zstd" "reverse"⟩,
    ⟨.compressor, "br", Sample.compressor "gzip" "fail"⟩]⟩]

/-- A registered name is no method, and the refusal lists each encoding once, the empty one first. -/
theorem resolve_among_repeats :
    "br" ≠ Compression.noMethod ∧
      (repeats.resolve (.registry 0) "br").1 = .error (.unknownMethod ["", "gzip", "zstd"]) := by
  have hmethod : "br" ≠ Compression.noMethod := by decide
  obtain ⟨hiff, -, hrefused, -⟩ := resolve_accounts hmethod (.registry 0) repeats
  obtain ⟨known, houtcome, -, -, -, hknown, -⟩ := hrefused fun c hc => by
    have hfound := hiff.1 ⟨c, hc⟩
    revert hfound
    decide +kernel
  have hlist : (repeats.supported (.registry 0)).1 = ["", "gzip", "zstd"] := by decide +kernel
  rw [hlist] at hknown
  exact ⟨hmethod, hknown ▸ houtcome⟩

end Telemetry.Store
