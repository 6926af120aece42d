import Telemetry.Tree

/-!
# Shapes of configuration trees

* `ShapeFault`: how a tree fails to have the shape that is wanted, and its wording.
* `Shape.bool`, `Shape.integer`, `Shape.text`, `Shape.list`: the trees of simple values.
* `Shape.record`: the trees of records, which give their fields by name or by position.
* `Shape.optional`, `Shape.required`: fields that may be missing and fields that may not.

A record given by name may hold other names too. Its fields are read in the order of their names,
so of several faults the one under the first name counts, and a missing field comes last.
-/

namespace Telemetry

/-- What a tree was wanted to be. -/
inductive Wanted where
  | bool
  | integer
  | text
  | sequence
  | map
  | unit
  | textOrMap
  | singleEntry
  | record (name : String)
  deriving DecidableEq

/-- The wording of what was wanted. -/
def Wanted.message : Wanted → String
  | .bool => "a boolean"
  | .integer => "i64"
  | .text => "a string"
  | .sequence => "a sequence"
  | .map => "a map"
  | .unit => "unit"
  | .textOrMap => "string or map"
  | .singleEntry => "map with a single key"
  | .record name => "struct " ++ name

/-- How a tree fails to have a shape. -/
inductive ShapeFault where
  | wrongType (found : Tree) (wanted : Wanted)
  | wrongValue (found : Tree) (wanted : Wanted)
  | missingField (name : String)
  /-- Too few items for a record of `size` fields. -/
  | tooShort (count : Nat) (record : String) (size : Nat)
  /-- More items than a record has fields. -/
  | tooLong (count : Nat)
  | unknownVariant (found : String) (known : List String)
  | entryCount (count : Nat)
  | unstructured (key : String)
  /-- A fault below a key. -/
  | under (key : String) (fault : ShapeFault)
  deriving DecidableEq

/-- The wording of what was found in place of something else. -/
def Tree.found : Tree → String
  | .null => "null"
  | .bool true => "boolean \x60true\x60"
  | .bool false => "boolean \x60false\x60"
  | .number (.int n) => "integer \x60" ++ toString n ++ "\x60"
  | .number (.double x) => "floating point \x60" ++ x.render .json ++ "\x60"
  | .text s => "string " ++ quoted s
  | .list _ => "sequence"
  | .node _ => "map"

/-- Words in backticks, as alternatives. -/
def alternatives : List String → String
  | [] => "nothing"
  | [a] => "\x60" ++ a ++ "\x60"
  | [a, b] => "\x60" ++ a ++ "\x60 or \x60" ++ b ++ "\x60"
  | many => "one of " ++ joined ", " (many.map fun a => "\x60" ++ a ++ "\x60")

/-- The wording of a fault. -/
def ShapeFault.message : ShapeFault → String
  | .wrongType found wanted => "invalid type: " ++ found.found ++ ", expected " ++ wanted.message
  | .wrongValue found wanted => "invalid value: " ++ found.found ++ ", expected " ++ wanted.message
  | .missingField name => "missing field \x60" ++ name ++ "\x60"
  | .tooShort count record size =>
    "invalid length " ++ toString count ++ ", expected struct " ++ record ++ " with " ++
      toString size ++ (if size = 1 then " element" else " elements")
  | .tooLong count => "invalid length " ++ toString count ++ ", expected fewer elements in array"
  | .unknownVariant found known =>
    "unknown variant \x60" ++ found ++ "\x60, expected " ++ alternatives known
  | .entryCount count => "exporter must have exactly one entry, found " ++ toString count
  | .unstructured key => "exporter \x22" ++ key ++ "\x22 must be a structured node"
  | .under key fault => key ++ ": " ++ fault.message

/-- The outcome of reading a tree. -/
abbrev Shaped (α : Type) := Except ShapeFault α

namespace Shape

/-- A boolean. -/
def bool : Tree → Shaped Bool
  | .bool b => .ok b
  | t => .error (.wrongType t .bool)

/-- A text. -/
def text : Tree → Shaped String
  | .text s => .ok s
  | t => .error (.wrongType t .text)

/-- An integer of 64 bits with sign. -/
def integer : Tree → Shaped Int64
  | .number (.int n) =>
    if fitsSigned 64 n then .ok (Int64.ofInt n)
    else .error (.wrongValue (.int n) .integer)
  | t => .error (.wrongType t .integer)

/-- A list, item by item. -/
def list {α : Type} (item : Tree → Shaped α) : Tree → Shaped (List α)
  | .list items => items.mapM item
  | t => .error (.wrongType t .sequence)

/-- A field that may be missing or null. -/
def optional {α : Type} (read : Tree → Shaped α) : Option Tree → Shaped (Option α)
  | none => .ok none
  | some .null => .ok none
  | some t => (read t).map some

/-- A field that is read if it is there. -/
def present {α : Type} (read : Tree → Shaped α) : Option Tree → Shaped (Option α)
  | none => .ok none
  | some t => (read t).map some

/-- A field that has to be there, once it has been looked for under its name. -/
def required {α : Type} (fault : ShapeFault) : Option α → Shaped α
  | some a => .ok a
  | none => .error fault

/-- A record of `size` fields, by name or by position. -/
def record {α : Type} (name : String) (size : Nat) (byName : Entries → Shaped α)
    (byPosition : List Tree → Shaped α) : Tree → Shaped α
  | .node entries => byName entries
  | .list items => do
    let a ← byPosition items
    if size < items.length then .error (.tooLong items.length) else .ok a
  | t => .error (.wrongType t (.record name))

end Shape

/-- A field of a record that is written if it has a value. -/
def optionalField (name : String) (value : Option Tree) : List (String × Tree) :=
  match value with
  | some t => [(name, t)]
  | none => []

/-- How a record is written: the node made of its fields. `Tree.node` keeps them in the order of the
record, `Tree.ofPairs` puts them in the order of their names. -/
abbrev Layout := List (String × Tree) → Tree

end Telemetry
