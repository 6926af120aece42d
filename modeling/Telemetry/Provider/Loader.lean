import Telemetry.Provider.Linked

/-!
# Loaders

* `Provider.Loader`: where providers are looked for: a registry, linked providers, or loaders in a
  row, of which earlier ones have priority.
* `Provider.Catalogue`: the registries and linked providers that loaders refer to.
* `Catalogue.load`: the entries of a capability that a loader finds. It reads registries as they are
  at the time; linked providers may be made on the way.
-/

namespace Telemetry.Provider

variable {κ : Type} {π : κ → Type} [DecidableEq κ]

/-- Where providers are looked for. Registries and linked providers are given by their numbers. -/
inductive Loader where
  | registry (number : Nat)
  | linked (number : Nat)
  | chain (loaders : List Loader)
  deriving Inhabited

/-- A loader followed by another one. -/
def Loader.andThen (a b : Loader) : Loader := .chain [a, b]

/-- What loaders refer to. -/
structure Catalogue (κ : Type) (π : κ → Type) where
  registries : List (Registry κ π) := []
  registrations : List (Registration κ π) := []
  linked : List (Linked κ π) := []

namespace Catalogue

/-- A registry by its number; one that does not exist is empty. -/
def registry (c : Catalogue κ π) (number : Nat) : Registry κ π :=
  (c.registries[number]?).getD Registry.empty

/-- Puts a registry in place of the one with a number. -/
def setRegistry (c : Catalogue κ π) (number : Nat) (r : Registry κ π) : Catalogue κ π :=
  { c with registries := c.registries.set number r }

/-- Adds a registry and gives its number. -/
def addRegistry (c : Catalogue κ π) : Nat × Catalogue κ π :=
  (c.registries.length, { c with registries := c.registries ++ [Registry.empty] })

/-- Adds a loader of linked providers and gives its number. -/
def addLinked (c : Catalogue κ π) : Nat × Catalogue κ π :=
  (c.linked.length, { c with linked := c.linked ++ [{}] })

mutual

/-- The entries of a capability that a loader finds. -/
def load (c : Catalogue κ π) (k : κ) :
    Loader → List (Entry κ π) × Catalogue κ π × List (LinkStep κ)
  | .registry number => ((c.registry number).entriesFor k, c, [])
  | .linked number =>
    let (entries, l, steps) := ((c.linked[number]?).getD {}).load c.registrations k
    (entries, { c with linked := c.linked.set number l }, steps)
  | .chain loaders => loadAll c k loaders

/-- The entries of a capability that loaders in a row find, one after the other. -/
def loadAll (c : Catalogue κ π) (k : κ) :
    List Loader → List (Entry κ π) × Catalogue κ π × List (LinkStep κ)
  | [] => ([], c, [])
  | l :: rest =>
    let (first, c, steps) := load c k l
    let (others, c, more) := loadAll c k rest
    (first ++ others, c, steps ++ more)

end

end Catalogue

end Telemetry.Provider
