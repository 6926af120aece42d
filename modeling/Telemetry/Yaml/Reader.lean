import Telemetry.Yaml.Node
import Telemetry.Yaml.Scalar

/-!
# Reading YAML

`Tree.ofYaml?`: the tree of a YAML text, which holds one document at most. Aliases are replaced by
the nodes they mean, keys are the texts of scalars whatever these look like, and of several entries
of one key the last one stays. Collections may nest 128 deep, and there may be a hundred times as
many replacements as the document has parts.
-/

namespace Telemetry

namespace Yaml

/-- How deep collections may nest. -/
def maxDepth : Nat := 128

/-- Counts the replacements of aliases against what is left of them. -/
abbrev Resolve (α : Type) := StateT Nat Option α

/-- The node meant by a node, which differs for aliases only. -/
def dereference (d : Document) : Node → Resolve Node
  | .alias n => do
    match ← get with
    | 0 => failure
    | left + 1 =>
      set left
      match d.target? n with
      | some node => pure node
      | none => failure
  | node => pure node

/-- Whether a tag has a meaning for collections; local ones have none. -/
def isKnownTag (tag : Option Bytes) : Bool := !tag.any isLocal

/-- The key that a node denotes. -/
def keyOf (d : Document) (node : Node) : Resolve String := do
  match ← dereference d node with
  | .scalar _ _ text => pure (String.ofList text)
  | _ => failure

/-- The tree that a node denotes, collections nesting `depth` deep at most. -/
def treeOf (d : Document) : (depth : Nat) → Node → Resolve Tree
  | 0, node => do
    match ← dereference d node with
    | .scalar tag plain text => StateT.lift (scalarValue tag plain text)
    | _ => failure
  | depth + 1, node => do
    match ← dereference d node with
    | .scalar tag plain text => StateT.lift (scalarValue tag plain text)
    | .sequence tag items =>
      if isKnownTag tag then pure (.list (← items.mapM (treeOf d depth))) else failure
    | .mapping tag entries =>
      if isKnownTag tag then
        pure (Tree.ofPairs (← entries.mapM fun (key, item) => do
          let key ← keyOf d key
          pure (key, ← treeOf d depth item)))
      else failure
    | .alias _ => failure

/-- The tree of a document; the empty document is null. -/
def Document.tree? (d : Document) : Option Tree :=
  match d.root with
  | none => some .null
  | some node => ((treeOf d maxDepth node).run (100 * d.size)).map Prod.fst

end Yaml

/-- The tree of a YAML text. -/
def Tree.ofYamlChars? (cs : List Char) : Option Tree := do
  let tokens ← Yaml.Token.ofChars? cs
  let document ← Yaml.Document.ofTokens? tokens
  document.tree?

/-- The tree of a YAML text. -/
def Tree.ofYaml? (s : String) : Option Tree := Tree.ofYamlChars? s.toList

end Telemetry
