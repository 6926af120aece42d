import Telemetry.Export.Capability

/-!
# The store

* `Resource`: what has to be closed once it is not needed any more.
* `Notice`: what happened: an event was logged, a linked plugin was made, a plugin was asked for an
  exporter, a resource was closed.
* `Store`: plugins, channels, exporters and resources, with the journal of what happened.
* `Store.load`, `Store.compressors`, `Store.resolve`: what a loader finds.
-/

namespace Telemetry

/-- What has to be closed: a channel or an exporter by its number, or something from outside with
its name and what closing it fails with, if it fails. -/
inductive Resource where
  | channel (number : Nat)
  | exporter (number : Nat)
  | external (name : String) (failure : Option String)
  deriving DecidableEq

/-- What happened. -/
inductive Notice where
  | logged (e : Log.Event)
  | made (capability : Capability) (name : String)
  | asked (provider : String)
  | closed (r : Resource)
  deriving DecidableEq

/-- Plugins, channels, exporters and resources. -/
structure Store where
  catalogue : PluginCatalogue := {}
  channels : List Channel := []
  exporters : List Exporter := []
  resources : List Resource := []
  journal : List Notice := []

namespace Store

/-- Notes what happened. -/
def note (n : Notice) (s : Store) : Store := { s with journal := s.journal ++ [n] }

/-- Logs an event. -/
def log (e : Log.Event) (s : Store) : Store := s.note (.logged e)

/-- Logs events. -/
def logAll (es : List Log.Event) (s : Store) : Store :=
  { s with journal := s.journal ++ es.map .logged }

/-- A channel by its number. -/
def channel (s : Store) (number : Nat) : Channel := (s.channels[number]?).getD {}

/-- Puts a channel in place of the one with a number. -/
def setChannel (number : Nat) (c : Channel) (s : Store) : Store :=
  { s with channels := s.channels.set number c }

/-- Adds a channel and gives its number. -/
def addChannel (c : Channel) (s : Store) : Nat × Store :=
  (s.channels.length, { s with channels := s.channels ++ [c] })

/-- Puts an exporter in place of the one with a number. -/
def setExporter (number : Nat) (e : Exporter) (s : Store) : Store :=
  { s with exporters := s.exporters.set number e }

/-- Adds an exporter and gives its number. -/
def addExporter (e : Exporter) (s : Store) : Nat × Store :=
  (s.exporters.length, { s with exporters := s.exporters ++ [e] })

/-- Adds a resource. -/
def push (r : Resource) (s : Store) : Store := { s with resources := s.resources ++ [r] }

/-- Adds a resource and gives it back. -/
def pushReturning (r : Resource) (s : Store) : Resource × Store := (r, s.push r)

/-- The description of the resources. -/
def describeResources (s : Store) : String :=
  "ResourceRegistry \x7b len: " ++ toString s.resources.length ++ " \x7d"

/-! ## Plugins -/

/-- The notice of a step of linking. -/
def linkNotice : Provider.LinkStep Capability → Notice
  | .made k name => .made k name
  | .ignored k name =>
    .logged ⟨.warn, "otk_spi::inventory_loader", "duplicate provider registration ignored",
      [("capability", .quoted k.title), ("name", .quoted name)]⟩
  | .ready count =>
    .logged ⟨.debug, "otk_spi::inventory_loader", "provider registry initialised",
      [("providers", .count count)]⟩

/-- The entries of a capability that a loader finds. -/
def load (k : Capability) (loader : Provider.Loader) (s : Store) :
    List (Provider.Entry Capability Plugin) × Store :=
  let (entries, catalogue, steps) := s.catalogue.load k loader
  (entries, { s with catalogue, journal := s.journal ++ steps.map linkNotice })

/-- The compressors that a loader finds. -/
def compressors (loader : Provider.Loader) (s : Store) : List Compressor × Store :=
  let (entries, s) := s.load .compressor loader
  (Provider.providers .compressor entries, s)

/-- The event that a method was resolved. -/
def methodResolved (method : String) : Log.Event :=
  ⟨.debug, "otk_compress::resolve", "compression method resolved", [("method", .quoted method)]⟩

/-- The compressor of a method among those that a loader finds; without compression none is looked
for. -/
def resolve (loader : Provider.Loader) (method : String) (s : Store) :
    Except CompressionFault (Option Compressor) × Store :=
  if method = Compression.noMethod then (.ok none, s)
  else
    let (found, s) := s.compressors loader
    match Compression.resolve found method with
    | .ok c => (.ok c, s.log (methodResolved method))
    | .error fault => (.error fault, s)

/-- The methods that compressors found by a loader allow. -/
def supported (loader : Provider.Loader) (s : Store) : List String × Store :=
  let (found, s) := s.compressors loader
  (Compression.supported found, s)

end Store

end Telemetry
