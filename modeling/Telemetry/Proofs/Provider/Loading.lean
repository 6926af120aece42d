import Telemetry.Provider.Loader

/-!
# What loaders find

* `Provider.Source`: a registry, or linked providers. Chains of loaders come down to these.
* `Loader.sources`: the sources of a loader from left to right, however deep its chains are.
* `Catalogue.held`, `Catalogue.found`: the entries of a source, and those that a loader is bound to
  find.
* `load_accounts`: a loader finds the entries of its sources, one source after the other. Linked
  providers may be made on the way, but no source holds other entries afterwards.
-/

namespace Telemetry.Provider

/-! ## Sources -/

/-- Where entries come from in the end: a registry or linked providers, by their numbers. -/
inductive Source where
  | registry (number : Nat)
  | linked (number : Nat)
  deriving DecidableEq

mutual

/-- The sources of a loader, from left to right. -/
def Loader.sources : Loader → List Source
  | .registry number => [.registry number]
  | .linked number => [.linked number]
  | .chain loaders => Loader.sourcesOfAll loaders

/-- The sources of loaders in a row. -/
def Loader.sourcesOfAll : List Loader → List Source
  | [] => []
  | l :: rest => l.sources ++ Loader.sourcesOfAll rest

end

theorem Loader.sources_andThen (a b : Loader) :
    (a.andThen b).sources = a.sources ++ b.sources := by
  simp only [andThen, sources, sourcesOfAll, List.append_nil]

variable {κ : Type} {π : κ → Type} [DecidableEq κ]

/-- The entries of linked providers, made already or still to be made. -/
def Linked.all (l : Linked κ π) (registrations : List (Registration κ π)) : List (Entry κ π) :=
  l.made.getD (link registrations).1

theorem Linked.entries_accounts (l : Linked κ π) (registrations : List (Registration κ π)) :
    (l.entries registrations).1 = l.all registrations ∧
      (l.entries registrations).2.1.all registrations = l.all registrations := by
  unfold entries
  split
  · rename_i es hes
    have hall : l.all registrations = es := by rw [all, hes, Option.getD_some]
    exact ⟨hall.symm, rfl⟩
  · rename_i hes
    have hall : l.all registrations = (link registrations).1 := by rw [all, hes, Option.getD_none]
    exact ⟨hall.symm, hall.symm⟩

namespace Catalogue

/-- The entries of a source. -/
def held (c : Catalogue κ π) : Source → List (Entry κ π)
  | .registry number => (c.registry number).entries
  | .linked number => ((c.linked[number]?).getD {}).all c.registrations

/-- The entries of a capability that the sources of a loader hold, one source after the other. -/
def found (c : Catalogue κ π) (k : κ) (l : Loader) : List (Entry κ π) :=
  l.sources.flatMap fun source => ofCapability k (c.held source)

theorem found_andThen (c : Catalogue κ π) (k : κ) (a b : Loader) :
    c.found k (a.andThen b) = c.found k a ++ c.found k b := by
  rw [found, Loader.sources_andThen, List.flatMap_append]
  rfl

/-! ## Loading -/

/-- Linked providers that were made in place of those still to be made are the same ones. -/
theorem held_setLinked (c : Catalogue κ π) (number : Nat) {l : Linked κ π}
    (h : l.all c.registrations = c.held (.linked number)) :
    ({ c with linked := c.linked.set number l } : Catalogue κ π).held = c.held := by
  funext source
  cases source with
  | registry n => rfl
  | linked n =>
    change (((c.linked.set number l)[n]?).getD {}).all c.registrations = _
    rw [List.getElem?_set]
    by_cases hn : number = n
    · subst hn
      by_cases hlt : number < c.linked.length
      · rw [if_pos rfl, if_pos hlt, Option.getD_some, h]
      · rw [if_pos rfl, if_neg hlt, held, List.getElem?_eq_none (Nat.not_lt.1 hlt)]
    · rw [if_neg hn]
      rfl

mutual

/-- **A loader finds the entries of its sources**, one source after the other, and leaves them as
they are. -/
theorem load_accounts (c : Catalogue κ π) (k : κ) :
    (l : Loader) → (c.load k l).1 = c.found k l ∧ (c.load k l).2.1.held = c.held
  | .registry number => by
    refine ⟨?_, rfl⟩
    rw [found, Loader.sources, List.flatMap_singleton]
    rfl
  | .linked number => by
    obtain ⟨hfst, hall⟩ := ((c.linked[number]?).getD {}).entries_accounts c.registrations
    refine ⟨?_, held_setLinked c number hall⟩
    rw [found, Loader.sources, List.flatMap_singleton, held, ← hfst]
    rfl
  | .chain loaders => by
    rw [load, found, Loader.sources]
    exact loadAll_accounts c k loaders

theorem loadAll_accounts (c : Catalogue κ π) (k : κ) :
    (ls : List Loader) →
      (c.loadAll k ls).1 =
          (Loader.sourcesOfAll ls).flatMap (fun source => ofCapability k (c.held source)) ∧
        (c.loadAll k ls).2.1.held = c.held
  | [] => ⟨rfl, rfl⟩
  | l :: rest => by
    obtain ⟨hfirst, hheld⟩ := load_accounts c k l
    obtain ⟨hothers, hrest⟩ := loadAll_accounts (c.load k l).2.1 k rest
    rw [loadAll, Loader.sourcesOfAll, List.flatMap_append]
    refine ⟨?_, hrest.trans hheld⟩
    change (c.load k l).1 ++ ((c.load k l).2.1.loadAll k rest).1 = _
    rw [hfirst, hothers, hheld]
    rfl

end

end Catalogue

end Telemetry.Provider
