import Telemetry.Plugin.Sample
import Telemetry.Proofs.Export.Acceptance
import Telemetry.Proofs.Export.Lookup

/-!
# Which compressor of two layers counts

* `Compression.chosen`: the compressor in the outcome of a resolution.
* `chosen_resolve_append`: compressors that were found later go before those found earlier.
* **`resolve_andThen`**: of two loaders in a chain the one behind decides, and the one in front only
  where the one behind has nothing. So the layer in front is overridden wherever both have something
  different.
-/

namespace Telemetry

namespace Compression

/-- The compressor in the outcome of a resolution. -/
def chosen (r : Except CompressionFault (Option Compressor)) : Option Compressor := r.toOption.join

variable (cs ds : List Compressor) (method : String)

theorem chosen_resolve : chosen (resolve cs method) =
    if method = noMethod then none
    else if Compressor.gzipEncoding = method then some .gzip
    else first? cs.reverse method := by
  by_cases hnone : method = noMethod
  · rw [resolve, if_pos hnone, if_pos hnone]
    rfl
  · rw [resolve_of_ne hnone, if_neg hnone, ← first?_table]
    cases first? (table cs) method <;> rfl

/-- Later compressors go before earlier ones. -/
theorem chosen_resolve_append : chosen (resolve (cs ++ ds) method) =
    (chosen (resolve ds method)).or (chosen (resolve cs method)) := by
  simp only [chosen_resolve]
  split_ifs
  · rfl
  · rfl
  · rw [List.reverse_append, first?_append]

end Compression

/-- The order of two layers matters only where both have something, and not the same. -/
theorem or_eq_or_swap {α : Type} {a b : Option α} :
    b.or a = a.or b ↔ ∀ x ∈ a, ∀ y ∈ b, x = y := by
  cases a with
  | none => simp
  | some x => cases b with
    | none => simp
    | some y => simp [eq_comm]

namespace Store

/-- What a method stands for through a loader only depends on what the loader finds. -/
theorem chosen_resolve_eq (loader : Provider.Loader) (method : String) (s : Store) :
    Compression.chosen (s.resolve loader method).1 =
      Compression.chosen (Compression.resolve
        (Provider.providers .compressor (s.catalogue.found .compressor loader)) method) := by
  rw [fst_resolve, fst_compressors]

/-- **Of two layers the one behind decides.** The first one goes before it just where they do not
have different compressors for the method. -/
theorem resolve_andThen (a b : Provider.Loader) (method : String) (s : Store) :
    let first := s.resolve a method
    let second := first.2.resolve b method
    let both := second.2.resolve (a.andThen b) method
    Compression.chosen both.1 =
        (Compression.chosen second.1).or (Compression.chosen first.1) ∧
      (Compression.chosen both.1 =
          (Compression.chosen first.1).or (Compression.chosen second.1) ↔
        ∀ c ∈ Compression.chosen first.1, ∀ d ∈ Compression.chosen second.1, c = d) := by
  intro first second both
  -- nothing that was looked for in between changes what the loaders find
  have hfirst : s.Finds first.2 := finds_resolve a method s
  have hsecond : first.2.Finds second.2 := finds_resolve b method first.2
  have hboth : Compression.chosen both.1 =
      (Compression.chosen second.1).or (Compression.chosen first.1) := by
    rw [chosen_resolve_eq, chosen_resolve_eq, chosen_resolve_eq, hsecond.found, hfirst.found,
      hfirst.found, Provider.Catalogue.found_andThen]
    unfold Provider.providers
    rw [List.filterMap_append, Compression.chosen_resolve_append]
  refine ⟨hboth, ?_⟩
  rw [hboth, or_eq_or_swap]

/-- A compressor of the layer in front is overridden by one of the layer behind. -/
theorem resolve_andThen_overrides :
    let holding (kind : String) : Provider.Registry Capability Plugin :=
      ⟨[⟨.compressor, "zstd", Sample.compressor "zstd" kind⟩]⟩
    let s : Store := { catalogue := { registries := [holding "identity", holding "reverse"] } }
    let a : Provider.Loader := .registry 0
    let b : Provider.Loader := .registry 1
    ∃ c, Compression.chosen (s.resolve a "zstd").1 = some c ∧
      Compression.chosen (s.resolve (a.andThen b) "zstd").1 ≠ some c ∧
      Compression.chosen (s.resolve (a.andThen b) "zstd").1 =
        Compression.chosen (s.resolve b "zstd").1 := by
  intro holding s a b
  have hchosen : ∀ loader, Compression.chosen (s.resolve loader "zstd").1 =
      Compression.first? (Provider.providers .compressor
        (s.catalogue.found .compressor loader)).reverse "zstd" := fun loader => by
    rw [chosen_resolve_eq, Compression.chosen_resolve, if_neg (by decide), if_neg (by decide)]
  have hfirst : Compression.chosen (s.resolve a "zstd").1 =
      some (Sample.compressor "zstd" "identity") := (hchosen a).trans rfl
  have hsecond : Compression.chosen (s.resolve b "zstd").1 =
      some (Sample.compressor "zstd" "reverse") := (hchosen b).trans rfl
  have hboth : Compression.chosen (s.resolve (a.andThen b) "zstd").1 =
      some (Sample.compressor "zstd" "reverse") := (hchosen _).trans rfl
  refine ⟨_, hfirst, ?_, hboth.trans hsecond.symm⟩
  rw [hboth]
  intro h
  have hbytes := congrArg (fun c => (c.compress [1, 2]).toOption) (Option.some.inj h)
  exact absurd hbytes (by decide)

end Store

end Telemetry
