import Telemetry.Export.Fault
import Telemetry.Provider.Loader

/-!
# Properties

* `Properties`: a view of one node of a configuration, with the loader through which components
  below it are found.
* `Properties.text?`, `bool?`, `integer?`, `double?`, `millis?`: a property of the wanted type. One
  that is absent, null or of another type is `none`.
* `Properties.textOr`, `integerOr`, `boolOr`: the same with a value to fall back on.
* `Properties.texts?`, …: a list all items of which have the wanted type.
* `Properties.structured?`, `structuredList?`: views of the nodes below.
-/

namespace Telemetry

namespace Tree

/-- The text of a tree. -/
def text? : Tree → Option String
  | .text s => some s
  | _ => none

/-- The boolean of a tree. -/
def bool? : Tree → Option Bool
  | .bool b => some b
  | _ => none

/-- The integer of a tree, if it fits into 64 bits with sign. -/
def integer? : Tree → Option Int64
  | .number (.int n) => if fitsSigned 64 n then some (Int64.ofInt n) else none
  | _ => none

/-- The double of a tree; an integer counts as the double nearest to it. -/
def double? : Tree → Option Binary64
  | .number (.int n) => some (Binary64.ofInt n)
  | .number (.double x) => some x
  | _ => none

/-- The entries of a node. -/
def entries? : Tree → Option Entries
  | .node entries => some entries
  | _ => none

/-- The items of a list, if each of them has the wanted type. -/
def itemsAs? {α : Type} (read : Tree → Option α) : Tree → Option (List α)
  | .list items => items.mapM read
  | _ => none

end Tree

/-- A view of a node. -/
structure Properties where
  entries : Entries
  loader : Provider.Loader

namespace Properties

/-- The view of a tree: of a node, or of null as if it were an empty node. -/
def ofTree (t : Tree) (loader : Provider.Loader) : Except ConfigFault Properties :=
  match t with
  | .node entries => .ok ⟨entries, loader⟩
  | .null => .ok ⟨[], loader⟩
  | t => .error (.unstructured t.kind)

/-- The view of a map with keys of any kind, all of which have to be texts. -/
def ofMap (pairs : List (Tree × Tree)) (loader : Provider.Loader) :
    Except ConfigFault Properties :=
  match pairs.mapM fun (key, value) => key.text?.map fun name => (name, value) with
  | some pairs => .ok ⟨Entries.ofPairs pairs, loader⟩
  | none => .error .keyNotText

/-- The view of an empty node. -/
def empty (loader : Provider.Loader) : Properties := ⟨[], loader⟩

/-- A property that is neither absent nor null. -/
def get? (p : Properties) (name : String) : Option Tree :=
  match p.entries.get? name with
  | some .null => none
  | found => found

/-- A property that is a text. -/
def text? (p : Properties) (name : String) : Option String := p.get? name >>= Tree.text?

/-- A property that is a boolean. -/
def bool? (p : Properties) (name : String) : Option Bool := p.get? name >>= Tree.bool?

/-- A property that is an integer. -/
def integer? (p : Properties) (name : String) : Option Int64 := p.get? name >>= Tree.integer?

/-- A property that is a number. -/
def double? (p : Properties) (name : String) : Option Binary64 := p.get? name >>= Tree.double?

/-- A property that is a number of milliseconds, not a negative one. -/
def millis? (p : Properties) (name : String) : Option Nat :=
  match p.integer? name with
  | some n => if 0 ≤ n.toInt then some n.toInt.toNat else none
  | none => none

/-- A property that is a text, or another text in its place. -/
def textOr (p : Properties) (name default : String) : String := (p.text? name).getD default

/-- A property that is an integer, or another integer in its place. -/
def integerOr (p : Properties) (name : String) (default : Int64) : Int64 :=
  (p.integer? name).getD default

/-- A property that is a boolean, or another boolean in its place. -/
def boolOr (p : Properties) (name : String) (default : Bool) : Bool := (p.bool? name).getD default

/-- A property that is a list of texts. -/
def texts? (p : Properties) (name : String) : Option (List String) :=
  p.get? name >>= Tree.itemsAs? Tree.text?

/-- A property that is a list of booleans. -/
def bools? (p : Properties) (name : String) : Option (List Bool) :=
  p.get? name >>= Tree.itemsAs? Tree.bool?

/-- A property that is a list of integers. -/
def integers? (p : Properties) (name : String) : Option (List Int64) :=
  p.get? name >>= Tree.itemsAs? Tree.integer?

/-- A property that is a list of numbers. -/
def doubles? (p : Properties) (name : String) : Option (List Binary64) :=
  p.get? name >>= Tree.itemsAs? Tree.double?

/-- The view of other entries through the same loader. -/
def child (p : Properties) (entries : Entries) : Properties := ⟨entries, p.loader⟩

/-- A property that is a node. -/
def structured? (p : Properties) (name : String) : Option Properties :=
  (p.get? name >>= Tree.entries?).map p.child

/-- A property that is a list of nodes. -/
def structuredList? (p : Properties) (name : String) : Option (List Properties) :=
  (p.get? name >>= Tree.itemsAs? Tree.entries?).map fun nodes => nodes.map p.child

/-- The names of the properties, in ascending order. -/
def keys (p : Properties) : List String := p.entries.keys

/-- The description of a view. -/
def describe (p : Properties) : String :=
  "DeclarativeConfigProperties \x7b values: " ++ p.entries.inspect ++ ", .. \x7d"

end Properties

end Telemetry
