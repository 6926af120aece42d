/-!
# Provider registries

* `Provider.Key`: a capability with its title. Titles are for messages, but keys are compared whole.
* `Provider.Entry`: a provider with its capability and its name. What a provider is depends on the
  capability: `π k` holds the providers for `k`.
* `Provider.Registry`: entries in the order of their registration.
* `Registry.register`: adds an entry unless its capability and name are taken.
* `Registry.offer`: the same for a registry that stays as it is when it refuses an entry.
* `Registry.entriesFor`, `Registry.names`, `Registry.providers`: the entries of a capability.
-/

namespace Telemetry.Provider

/-- Capabilities have titles. Different ones may share a title. -/
class Titled (κ : Type) where
  title : κ → String

/-- A capability with its title. -/
structure Key (κ : Type) where
  capability : κ
  title : String
  deriving DecidableEq

/-- The key of a capability. -/
def Key.of {κ : Type} [Titled κ] (k : κ) : Key κ := ⟨k, Titled.title k⟩

variable {κ : Type} {π : κ → Type} [DecidableEq κ]

/-- A provider with its capability and its name. -/
structure Entry (κ : Type) (π : κ → Type) where
  capability : κ
  name : String
  provider : π capability

/-- The provider of an entry, if it is one for the capability. -/
def Entry.as? (k : κ) (e : Entry κ π) : Option (π k) :=
  if h : e.capability = k then some (h ▸ e.provider) else none

/-- The key of an entry's capability. -/
def Entry.key [Titled κ] (e : Entry κ π) : Key κ := .of e.capability

/-- Whether an entry has the given capability and name. -/
def Entry.isAt [Titled κ] (k : κ) (name : String) (e : Entry κ π) : Bool :=
  decide (e.key = .of k) && e.name == name

/-- The entries of a capability. -/
def ofCapability (k : κ) (entries : List (Entry κ π)) : List (Entry κ π) :=
  entries.filter fun e => decide (e.capability = k)

/-- The providers for a capability, with their names. -/
def namedProviders (k : κ) (entries : List (Entry κ π)) : List (String × π k) :=
  entries.filterMap fun e => (e.as? k).map fun p => (e.name, p)

/-- The providers for a capability. -/
def providers (k : κ) (entries : List (Entry κ π)) : List (π k) := entries.filterMap (Entry.as? k)

/-- A capability and a name that are taken. -/
structure Duplicate (κ : Type) where
  capability : κ
  name : String
  deriving DecidableEq

/-- A registry. -/
structure Registry (κ : Type) (π : κ → Type) where
  entries : List (Entry κ π)

namespace Registry

/-- The registry without entries. -/
def empty : Registry κ π := ⟨[]⟩

/-- The number of entries. -/
def size (r : Registry κ π) : Nat := r.entries.length

/-- Adds a provider at the end, unless there is one of the same capability and name. -/
def register [Titled κ] (r : Registry κ π) (k : κ) (name : String) (provider : π k) :
    Except (Duplicate κ) (Registry κ π) :=
  if r.entries.any (Entry.isAt k name) then .error ⟨k, name⟩
  else .ok ⟨r.entries ++ [⟨k, name, provider⟩]⟩

/-- Offers an entry to a registry, which stays as it is if it refuses the entry. -/
def offer [Titled κ] (e : Entry κ π) (r : Registry κ π) : Except (Duplicate κ) Unit × Registry κ π :=
  match r.register e.capability e.name e.provider with
  | .ok extended => (.ok (), extended)
  | .error taken => (.error taken, r)

/-- The entries of a capability, in the order of their registration. -/
def entriesFor (r : Registry κ π) (k : κ) : List (Entry κ π) := ofCapability k r.entries

/-- The names registered for a capability. -/
def names [Titled κ] (r : Registry κ π) (k : κ) : List String :=
  (r.entries.filter fun e => decide (e.key = .of k)).map Entry.name

end Registry

end Telemetry.Provider
