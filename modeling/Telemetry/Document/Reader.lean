import Telemetry.Configuration.Model
import Telemetry.Document.Format
import Telemetry.Json.Reader
import Telemetry.Reference.Expansion
import Telemetry.Toml.Reader

/-!
# Reading documents

* `Document.Fault`: why no configuration could be read, and its wording.
* `Document.tree`: the tree of a text in a notation. A document of no known notation is read as JSON
  and, if it is not that, as YAML.
* `Document.read`: the tree with its references replaced, and what it denotes.
-/

namespace Telemetry.Document

/-- Why a document could not be read. -/
inductive Fault where
  | unreadable (path reason : String)
  | json (fault : Json.Fault)
  | yaml
  | toml
  | shape (fault : ShapeFault)
  deriving DecidableEq

namespace Fault

/-- What the fault was in itself, where that is known. -/
def source : Fault → Option String
  | .unreadable _ reason => some reason
  | .json fault => some fault.message
  | .yaml => none
  | .toml => none
  | .shape fault => some fault.message

/-- What was being done. -/
def heading : Fault → String
  | .unreadable path _ => "failed to read configuration at " ++ path
  | .json _ => "failed to parse configuration as JSON"
  | .yaml => "failed to parse configuration as YAML"
  | .toml => "failed to parse configuration as TOML"
  | .shape _ => "invalid configuration"

/-- The wording of a fault. -/
def message (f : Fault) : String :=
  match f.source with
  | some reason => f.heading ++ ": " ++ reason
  | none => f.heading

end Fault

/-- The tree of a JSON text. -/
def jsonTree (s : String) : Except Fault Tree := (Tree.ofJson? s).mapError .json

/-- The tree of a YAML text. -/
def yamlTree (s : String) : Except Fault Tree :=
  match Tree.ofYaml? s with
  | some t => .ok t
  | none => .error .yaml

/-- The tree of a TOML text. -/
def tomlTree (s : String) : Except Fault Tree :=
  match Tree.ofToml? s with
  | some t => .ok t
  | none => .error .toml

/-- The tree of a text in a notation. -/
def tree (format : Format) (s : String) : Except Fault Tree :=
  match format with
  | .json => jsonTree s
  | .yaml => yamlTree s
  | .toml => tomlTree s
  | .unknown =>
    match jsonTree s with
    | .ok t => .ok t
    | .error _ => yamlTree s

/-- What the tree of a document denotes once its references are replaced. -/
def read {α : Type} (shape : Tree → Shaped α) (format : Format) (lookup : Lookup) (s : String) :
    Except Fault α := do
  let t ← tree format s
  (shape (t.expand lookup)).mapError .shape

/-- The variables that a document refers to. -/
def referenceNames (format : Format) (s : String) : List String :=
  match tree format s with
  | .ok t => t.referenceNames
  | .error _ => []

/-- The variables that a document refers to in vain. -/
def unsetNames (format : Format) (lookup : Lookup) (s : String) : List String :=
  match tree format s with
  | .ok t => t.unsetNames lookup
  | .error _ => []

end Telemetry.Document
