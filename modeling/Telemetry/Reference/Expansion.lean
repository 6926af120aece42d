import Telemetry.Reference.Substitution
import Telemetry.Yaml.Reader

/-!
# Expansion of trees

* `Tree.expand`: a tree with the references in its texts replaced. Names of entries and the shape of
  the tree stay. A text that is one reference and nothing else takes the type of what it stands for
  if that is a number or a boolean, and becomes null if it stands for nothing.
* `Tree.referenceNames`, `Tree.unsetNames`: the variables a tree refers to, and those it lacks.
-/

namespace Telemetry

namespace Reference

/-- Whether a text is one reference and nothing else. -/
def isWhole (s : String) : Bool :=
  match pieces s.toList with
  | [.reference _ _ _] => true
  | _ => false

/-- The number or boolean that a text denotes as a YAML document. -/
def typed? (s : String) : Option Tree :=
  match Tree.ofYaml? s with
  | some (.number n) => some (.number n)
  | some (.bool b) => some (.bool b)
  | _ => none

/-- The value of a text that a whole reference stood for. -/
def retype (s : String) : Tree := if s.isEmpty then .null else (typed? s).getD (.text s)

/-- The value of a text with its references replaced. -/
def expandText (lookup : Lookup) (s : String) : Tree :=
  if !hasReferences s then .text s
  else if isWhole s then retype (substitute lookup s)
  else .text (substitute lookup s)

end Reference

namespace Tree

mutual

/-- A tree with the references in its texts replaced. -/
def expand (lookup : Lookup) : Tree → Tree
  | .text s => Reference.expandText lookup s
  | .list items => .list (expandItems lookup items)
  | .node entries => .node (expandEntries lookup entries)
  | t => t

/-- The items of a list, expanded. -/
def expandItems (lookup : Lookup) : List Tree → List Tree
  | [] => []
  | t :: ts => expand lookup t :: expandItems lookup ts

/-- The entries of a node, their values expanded. -/
def expandEntries (lookup : Lookup) : List (String × Tree) → List (String × Tree)
  | [] => []
  | (k, t) :: ts => (k, expand lookup t) :: expandEntries lookup ts

end

mutual

/-- The texts of a tree, names of entries left out, in order. -/
def texts : Tree → List String
  | .text s => [s]
  | .list items => textsOfItems items
  | .node entries => textsOfEntries entries
  | _ => []

/-- The texts of the items of a list. -/
def textsOfItems : List Tree → List String
  | [] => []
  | t :: ts => texts t ++ textsOfItems ts

/-- The texts of the values of entries. -/
def textsOfEntries : List (String × Tree) → List String
  | [] => []
  | (_, t) :: ts => texts t ++ textsOfEntries ts

end

/-- The names of the variables that the texts of a tree refer to, in order. -/
def referenceNames (t : Tree) : List String := t.texts.flatMap Reference.names

/-- The names of the variables that the texts of a tree lack, in order. -/
def unsetNames (lookup : Lookup) (t : Tree) : List String :=
  t.texts.flatMap (Reference.unsetNames lookup)

end Tree

end Telemetry
