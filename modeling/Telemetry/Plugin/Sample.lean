import Telemetry.Configuration.Exporter
import Telemetry.Export.Store

/-!
# Sample plugins

* `Sample.compressor`: a compressor of a given kind: one that fails, one that turns bytes around,
  or one that leaves them as they are.
* `Sample.provider`: a provider of exporters that do nothing. It fails, or reads from its view which
  compressor to look for and what closing the exporter fails with.
* `Sample.registrations`: plugins to be linked into a program, among them some that go by the name
  of something built in, and one that is there twice.
-/

namespace Telemetry.Sample

/-- The kind of plugins that fail. -/
def failingKind : String := "fail"

/-- The kind of compressors that turn bytes around. -/
def reversingKind : String := "reverse"

/-- A compressor of the given encoding and kind. -/
def compressor (encoding kind : String) : Compressor where
  encoding := encoding
  description :=
    "PluginCompressor \x7b encoding: " ++ quoted encoding ++ ", kind: " ++ quoted kind ++ " \x7d"
  compress b :=
    if kind = failingKind then .error (.failed encoding "disk full")
    else if kind = reversingKind then .ok b.reverse
    else .ok b

/-- The encoding that a view asks for, if it asks for one, with the events of looking for it. -/
def encodingFor (view : Properties) (compressors : List Compressor) :
    Except ConfigFault (Option String) × List Log.Event :=
  match view.text? "compression" with
  | none => (.ok none, [])
  | some method =>
    match Compression.resolve compressors method with
    | .error fault => (.error (.compression fault), [])
    | .ok none => (.ok none, [])
    | .ok (some c) => (.ok (some c.encoding), [Store.methodResolved method])

/-- A provider of the given name and kind. -/
def provider (name kind : String) : ExporterProvider where
  name := name
  create view compressors :=
    if kind = failingKind then
      (.error (.plugin ((view.text? "message").getD "plugin failed")), [])
    else
      let (encoding, events) := encodingFor view compressors
      (encoding.map fun encoding =>
        { provider := name, view, encoding,
          closeFault := (view.text? "close_error").map fun reason => ⟨name, reason⟩ },
        events)

/-- The registration of a compressor. -/
def compressorRegistration (name encoding kind : String) : PluginRegistration :=
  ⟨.compressor, name, fun _ => compressor encoding kind⟩

/-- The registration of a provider. -/
def providerRegistration (name kind : String) : PluginRegistration :=
  ⟨.exporter, name, fun _ => provider name kind⟩

/-- Plugins to be linked into a program. -/
def registrations : List PluginRegistration :=
  [compressorRegistration "identity" "identity" "identity",
    compressorRegistration "rogue-gzip" Compressor.gzipEncoding failingKind,
    compressorRegistration "twin" "twin" reversingKind,
    compressorRegistration "twin" "twin" reversingKind,
    providerRegistration "test" "ok",
    providerRegistration ExporterNode.otlpKey failingKind,
    providerRegistration "twin" "ok"]

end Telemetry.Sample
