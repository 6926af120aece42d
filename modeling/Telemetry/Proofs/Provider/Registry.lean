import Mathlib.Data.List.Basic
import Telemetry.Provider.Registry

/-!
# What registries hold

* `Entry.SamePlace`: entries of one capability and name, of which a registry holds at most one.
* `Registry.offer_cases`: what offering an entry comes to.
* `Registry.accepted`, `Registry.offerAll`: entries that are offered one after the other, and those
  of them that are taken.
* `map_namedProviders_ofCapability`: finding the providers for a capability loses no entry of that
  capability.
* **`offerAll_accounts`**: a registry is an ordered map from capabilities and names to providers.
-/

namespace Telemetry.Provider

variable {κ : Type} {π : κ → Type}

/-- Whether two entries have the same capability and the same name. -/
def Entry.SamePlace (a b : Entry κ π) : Prop := a.capability = b.capability ∧ a.name = b.name

theorem Key.of_eq_of_iff [Titled κ] {k l : κ} : Key.of k = Key.of l ↔ k = l := by
  constructor
  · intro h
    exact congrArg Key.capability h
  · rintro rfl
    rfl

variable [DecidableEq κ]

theorem Entry.isAt_iff_samePlace [Titled κ] (a b : Entry κ π) :
    a.isAt b.capability b.name = true ↔ a.SamePlace b := by
  simp only [Entry.isAt, Entry.key, Key.of_eq_of_iff, Bool.and_eq_true, decide_eq_true_eq,
    beq_iff_eq, Entry.SamePlace]

/-- Keys tell entries of one capability from those of another, as capabilities do. -/
theorem filter_key_eq [Titled κ] (k : κ) (es : List (Entry κ π)) :
    es.filter (fun e => decide (e.key = .of k)) = ofCapability k es := by
  simp only [ofCapability, Entry.key, Key.of_eq_of_iff]

/-! ## Providers for a capability -/

@[simp]
theorem Entry.as?_self (k : κ) (name : String) (p : π k) :
    (⟨k, name, p⟩ : Entry κ π).as? k = some p := dif_pos rfl

/-- **No entry of a capability is lost.** The providers found for it, put back under their names, are
its entries. -/
theorem map_namedProviders_ofCapability (k : κ) (es : List (Entry κ π)) :
    (namedProviders k (ofCapability k es)).map (fun (name, p) => (⟨k, name, p⟩ : Entry κ π)) =
      ofCapability k es := by
  induction es with
  | nil => rfl
  | cons e es ih =>
    obtain ⟨capability, name, p⟩ := e
    unfold ofCapability namedProviders at ih ⊢
    by_cases h : capability = k
    · subst h
      simpa using ih
    · simpa [h] using ih

theorem map_name_ofCapability (k : κ) (es : List (Entry κ π)) :
    (ofCapability k es).map Entry.name = (namedProviders k (ofCapability k es)).map Prod.fst := by
  conv_lhs => rw [← map_namedProviders_ofCapability k es]
  rw [List.map_map]
  rfl

theorem providers_eq_map_snd (k : κ) (es : List (Entry κ π)) :
    providers k es = (namedProviders k es).map Prod.snd := by
  unfold providers namedProviders
  rw [List.map_filterMap]
  congr 1
  funext e
  rw [Option.map_map]
  exact Option.map_id'.symm

namespace Registry

variable [Titled κ]

/-! ## One entry -/

/-- **Offering an entry.** It is put last unless its place is taken; then the registry stays as it
is. -/
theorem offer_cases (e : Entry κ π) (r : Registry κ π) :
    (∀ a ∈ r.entries, ¬ a.SamePlace e) ∧ r.offer e = (.ok (), ⟨r.entries ++ [e]⟩) ∨
      (∃ a ∈ r.entries, a.SamePlace e) ∧ r.offer e = (.error ⟨e.capability, e.name⟩, r) := by
  have htaken : r.entries.any (Entry.isAt e.capability e.name) = true ↔
      ∃ a ∈ r.entries, a.SamePlace e := by
    simp only [List.any_eq_true, Entry.isAt_iff_samePlace]
  by_cases h : ∃ a ∈ r.entries, a.SamePlace e
  · refine .inr ⟨h, ?_⟩
    rw [offer, register, if_pos (htaken.2 h)]
  · refine .inl ⟨fun a ha hae => h ⟨a, ha, hae⟩, ?_⟩
    rw [offer, register, if_neg fun ht => h (htaken.1 ht)]

theorem offer_fst_eq_ok {e : Entry κ π} {r : Registry κ π} :
    (r.offer e).1 = .ok () ↔ ∀ a ∈ r.entries, ¬ a.SamePlace e := by
  obtain ⟨hfree, ho⟩ | ⟨⟨a, ha, hae⟩, ho⟩ := offer_cases e r
  · rw [ho]
    exact ⟨fun _ => hfree, fun _ => rfl⟩
  · rw [ho]
    exact ⟨nofun, fun h => absurd hae (h a ha)⟩

/-! ## Entries one after the other -/

/-- The entries that are taken when they are offered one after the other. -/
def accepted : List (Entry κ π) → Registry κ π → List (Entry κ π)
  | [], _ => []
  | e :: rest, r =>
    match r.offer e with
    | (.ok (), extended) => e :: accepted rest extended
    | (.error _, kept) => accepted rest kept

/-- The registry after entries were offered to it one after the other. -/
def offerAll (es : List (Entry κ π)) (r : Registry κ π) : Registry κ π :=
  es.foldl (fun r e => (r.offer e).2) r

/-- A registry holds what it held before, and then what it took. -/
theorem entries_offerAll (es : List (Entry κ π)) (r : Registry κ π) :
    (r.offerAll es).entries = r.entries ++ r.accepted es := by
  induction es generalizing r with
  | nil => exact (List.append_nil _).symm
  | cons e es ih =>
    have hcons : r.offerAll (e :: es) = (r.offer e).2.offerAll es := rfl
    rw [hcons, ih, accepted]
    obtain ⟨-, ho⟩ | ⟨-, ho⟩ := offer_cases e r
    · simp [ho]
    · simp [ho]

/-- No two entries of a registry have the same capability and name. -/
def Distinct (r : Registry κ π) : Prop := r.entries.Pairwise fun a b => ¬ a.SamePlace b

theorem Distinct.offer {r : Registry κ π} (h : r.Distinct) (e : Entry κ π) :
    (r.offer e).2.Distinct := by
  obtain ⟨hfree, ho⟩ | ⟨-, ho⟩ := offer_cases e r
  · rw [ho]
    refine List.pairwise_append.2 ⟨h, List.pairwise_singleton _ e, fun a ha b hb => ?_⟩
    obtain rfl := List.mem_singleton.1 hb
    exact hfree a ha
  · rw [ho]
    exact h

theorem Distinct.offerAll {r : Registry κ π} (h : r.Distinct) (es : List (Entry κ π)) :
    (r.offerAll es).Distinct := by
  induction es generalizing r with
  | nil => exact h
  | cons e es ih => exact ih (h.offer e)

/-- **A registry is an ordered map from capabilities and names to providers.** An entry is taken if
and only if its place is free. -/
theorem offerAll_accounts (past : List (Entry κ π)) (e : Entry κ π) :
    let r := (empty : Registry κ π).offerAll past
    let taken := (empty : Registry κ π).accepted past
    ((r.offer e).1 = .ok () ↔ ∀ a ∈ taken, ¬ (a.capability = e.capability ∧ a.name = e.name)) ∧
    ((r.offer e).1 = .ok () ∨ r.offer e = (.error ⟨e.capability, e.name⟩, r)) ∧
    r.entries.Pairwise (fun a b => ¬ (a.capability = b.capability ∧ a.name = b.name)) ∧
    r.size = taken.length ∧
    ∀ k, (namedProviders k (r.entriesFor k)).map (fun (name, p) => (⟨k, name, p⟩ : Entry κ π)) =
        taken.filter (fun a => decide (a.capability = k)) ∧
      r.names k = (namedProviders k (r.entriesFor k)).map Prod.fst ∧
      providers k (r.entriesFor k) = (namedProviders k (r.entriesFor k)).map Prod.snd := by
  intro r taken
  have hentries : r.entries = taken := entries_offerAll past empty
  have hdistinct : r.Distinct := Distinct.offerAll List.Pairwise.nil past
  refine ⟨?_, ?_, hdistinct, ?_, fun k => ⟨?_, ?_, ?_⟩⟩
  · rw [← hentries]
    exact offer_fst_eq_ok
  · obtain ⟨-, ho⟩ | ⟨-, ho⟩ := offer_cases e r
    · exact .inl (by rw [ho])
    · exact .inr ho
  · rw [size, hentries]
  · rw [← hentries]
    exact map_namedProviders_ofCapability k r.entries
  · rw [names, filter_key_eq]
    exact map_name_ofCapability k r.entries
  · exact providers_eq_map_snd k (r.entriesFor k)

end Registry

end Telemetry.Provider
