import Telemetry.Export.Exporter
import Telemetry.Log.Event

/-!
# Capabilities of plugins

* `Capability`: what plugins can provide: compressors and exporters.
* `ExporterProvider`: a plugin that makes exporters from configurations.
* `Plugin`: the providers of a capability, and with it the registries and loaders of plugins.
* `PluginRegistry.describe`: the description of a registry.
-/

namespace Telemetry

/-- What plugins can provide. -/
inductive Capability where
  | compressor
  | exporter
  deriving DecidableEq

/-- The name of a capability in messages. -/
def Capability.title : Capability → String
  | .compressor => "dyn otk_compress::CompressorProvider"
  | .exporter =>
    "dyn otk_config::component::ComponentProvider<dyn otk_exporter::exporter::MetricExporter>"

instance : Provider.Titled Capability := ⟨Capability.title⟩

/-- A plugin that makes exporters. -/
structure ExporterProvider where
  /-- The name by which configurations ask for it. -/
  name : String
  /-- Makes an exporter from a configuration and from the compressors that are found through the
  loader of its view. It may log events on the way. -/
  create : Properties → List Compressor → Except ConfigFault PluginExporter × List Log.Event

/-- The providers of a capability. -/
@[reducible]
def Plugin : Capability → Type
  | .compressor => Compressor
  | .exporter => ExporterProvider

/-- A registry of plugins. -/
abbrev PluginRegistry := Provider.Registry Capability Plugin

/-- A plugin linked into the program. -/
abbrev PluginRegistration := Provider.Registration Capability Plugin

/-- The registries and linked plugins that loaders refer to. -/
abbrev PluginCatalogue := Provider.Catalogue Capability Plugin

/-- The wording of a provider's name that is taken. -/
def duplicateMessage (d : Provider.Duplicate Capability) : String :=
  "a provider named \x22" ++ d.name ++ "\x22 is already registered for " ++ d.capability.title

/-- The description of an entry. -/
def describeEntry (e : Provider.Entry Capability Plugin) : String :=
  "ProviderEntry \x7b spi: " ++ e.capability.title ++ ", name: " ++ quoted e.name ++ ", .. \x7d"

/-- The description of a registry. -/
def PluginRegistry.describe (r : PluginRegistry) : String :=
  "ComponentRegistry \x7b entries: " ++ bracketed (r.entries.map describeEntry) ++ " \x7d"

/-- The name under which an entry's provider goes by itself: the encoding of a compressor, the name
of a provider of exporters. -/
def ownName (e : Provider.Entry Capability Plugin) : String :=
  match e with
  | ⟨.compressor, _, c⟩ => c.encoding
  | ⟨.exporter, _, p⟩ => p.name

end Telemetry
