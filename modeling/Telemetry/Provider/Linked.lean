import Telemetry.Provider.Registry

/-!
# Providers linked into the program

* `Provider.Registration`: a provider that is made when it is first asked for.
* `Provider.link`: the entries of registrations, of which the first one of each capability and name
  counts, with what happened on the way.
* `Provider.Linked`: a loader of registrations. It makes the providers at its first use and keeps
  them.
-/

namespace Telemetry.Provider

variable {κ : Type} {π : κ → Type} [DecidableEq κ]

/-- A provider linked into the program. -/
structure Registration (κ : Type) (π : κ → Type) where
  capability : κ
  name : String
  /-- Makes the provider. -/
  factory : Unit → π capability

/-- What happens when registrations are linked. -/
inductive LinkStep (κ : Type) where
  /-- The factory of a registration ran. -/
  | made (capability : κ) (name : String)
  /-- A registration was passed over, its capability and name being taken. -/
  | ignored (capability : κ) (name : String)
  /-- All registrations have been seen, and so many providers were made. -/
  | ready (count : Nat)
  deriving DecidableEq

/-- Links registrations after the given capabilities and names. -/
def linkAfter (seen : List (κ × String)) :
    List (Registration κ π) → List (Entry κ π) × List (LinkStep κ)
  | [] => ([], [])
  | r :: rest =>
    if (r.capability, r.name) ∈ seen then
      let (entries, steps) := linkAfter seen rest
      (entries, .ignored r.capability r.name :: steps)
    else
      let (entries, steps) := linkAfter ((r.capability, r.name) :: seen) rest
      (⟨r.capability, r.name, r.factory ()⟩ :: entries, .made r.capability r.name :: steps)

/-- Links registrations. -/
def link (registrations : List (Registration κ π)) : List (Entry κ π) × List (LinkStep κ) :=
  let (entries, steps) := linkAfter [] registrations
  (entries, steps ++ [.ready entries.length])

/-- A loader of linked providers, with the entries it has made, if it was used. -/
structure Linked (κ : Type) (π : κ → Type) where
  made : Option (List (Entry κ π)) := none

namespace Linked

/-- All entries, made at the first use. -/
def entries (l : Linked κ π) (registrations : List (Registration κ π)) :
    List (Entry κ π) × Linked κ π × List (LinkStep κ) :=
  match l.made with
  | some entries => (entries, l, [])
  | none =>
    let (entries, steps) := link registrations
    (entries, ⟨some entries⟩, steps)

/-- The entries of a capability. -/
def load (l : Linked κ π) (registrations : List (Registration κ π)) (k : κ) :
    List (Entry κ π) × Linked κ π × List (LinkStep κ) :=
  let (entries, l, steps) := l.entries registrations
  (ofCapability k entries, l, steps)

end Linked

end Telemetry.Provider
