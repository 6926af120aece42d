import Telemetry.Text.Blank

/-!
# Notations of documents

`Document.Format`: the three notations, and documents of no known one. `Format.ofPath` goes by the
ending of a file name.
-/

namespace Telemetry.Document

/-- A notation of documents. -/
inductive Format where
  | json
  | yaml
  | toml
  | unknown
  deriving DecidableEq

/-- The name of the file that a path leads to: the last component that is not empty or `.`, unless
it is `..`. -/
def fileName? (path : List Char) : Option (List Char) :=
  let components := (splitOnChar '/' path).filter fun c => c != [] && c != ['.']
  match components.getLast? with
  | some name => if name = ['.', '.'] then none else some name
  | none => none

/-- What follows the last point of a file name, unless nothing stands before it. -/
def ending? (name : List Char) : Option (List Char) :=
  match splitFirst? '.' name.reverse with
  | some (after, before) => if before.isEmpty then none else some after.reverse
  | none => none

namespace Format

/-- The notation of a file by the ending of its name, in capital or small letters. -/
def ofPath (path : String) : Format :=
  match fileName? path.toList >>= ending? with
  | none => .unknown
  | some ending =>
    let is (s : String) : Bool := sameIgnoringCase (String.ofList ending) s
    if is "json" then .json
    else if is "yaml" || is "yml" then .yaml
    else if is "toml" then .toml
    else .unknown

/-- The name of a notation. -/
def name : Format → String
  | .json => "json"
  | .yaml => "yaml"
  | .toml => "toml"
  | .unknown => "unknown"

end Format

end Telemetry.Document
