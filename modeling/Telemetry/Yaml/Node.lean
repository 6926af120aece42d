import Telemetry.Yaml.Token.Layout

/-!
# Nodes of a YAML document

* `Yaml.Node`: scalars, sequences and mappings with their tags, and aliases.
* `Yaml.Document`: the root of a document with the nodes that its anchors name.
* `Document.ofTokens?`: the only document of a token list; `none` if the tokens do not form one, or
  if there are several. An empty text has no root.

An anchor gets as number how many names of anchors there were before it, so after a name was used
again two anchors may share a number. Then the later one is meant.
-/

namespace Telemetry.Yaml

/-- A node of a document. -/
inductive Node where
  | scalar (tag : Option Bytes) (plain : Bool) (text : List Char)
  | sequence (tag : Option Bytes) (items : List Node)
  | mapping (tag : Option Bytes) (entries : List (Node × Node))
  | alias (number : Nat)

/-- A node with an anchor: its number, its place among all nodes, and the node. -/
structure Anchored where
  number : Nat
  place : Nat
  node : Node

/-- A document. -/
structure Document where
  root : Option Node
  anchored : List Anchored
  /-- The number of scalars, of aliases, and of beginnings and ends of collections. -/
  size : Nat

/-- The node that a number means. -/
def Document.target? (d : Document) (number : Nat) : Option Node :=
  (d.anchored.foldl (fun best a =>
    if a.number = number then
      match best with
      | some b => if b.place < a.place then some a else best
      | none => some a
    else best) none).map Anchored.node

namespace Node

/-- An empty plain scalar, which stands where a node is missing. -/
def missing : Node := .scalar none true []

/-- What forming nodes keeps track of. -/
structure Builder where
  tokens : List Token
  /-- What the handles of tags stand for. -/
  handles : List (List Char × Bytes)
  /-- The numbers of the names of anchors. -/
  names : List (List Char × Nat)
  anchored : List Anchored
  /-- The number of nodes so far. -/
  nodes : Nat
  size : Nat

/-- Steps of forming nodes. -/
abbrev Build (α : Type) := StateT Builder Option α

/-- The next token; past the end there is none. -/
def peek : Build (Option Token) := do pure (← get).tokens.head?

/-- Steps over a token. -/
def advance : Build Unit := modify fun b => { b with tokens := b.tokens.drop 1 }

/-- Steps over a token if it is the given one. -/
def accept (t : Token) : Build Bool := do
  if (← peek) = some t then
    advance
    pure true
  else pure false

/-- Whether the next token is one of the given ones. -/
def nextIn (ts : List Token) : Build Bool := do
  match ← peek with
  | some t => pure (ts.contains t)
  | none => pure false

/-- Counts a node. -/
def count (size : Nat) : Build Unit :=
  modify fun b => { b with nodes := b.nodes + 1, size := b.size + size }

/-- A node that is missing. -/
def empty : Build Node := do
  count 1
  pure missing

/-- Gives a name of an anchor its number. -/
def number (name : List Char) : Build Nat := do
  let b ← get
  let n := b.names.length
  set { b with names := (name, n) :: b.names.filter fun (other, _) => other != name }
  pure n

/-- Notes the node of an anchor that stood at a place. -/
def note (anchor : Option Nat) (place : Nat) (node : Node) : Build Node := do
  match anchor with
  | some number => modify fun b => { b with anchored := ⟨number, place, node⟩ :: b.anchored }
  | none => pure ()
  pure node

/-- A tag in full. -/
def fullTag (handle : List Char) (suffix : Bytes) : Build Bytes := do
  if handle.isEmpty then pure suffix
  else match (← get).handles.lookup handle with
    | some expansion => pure (expansion ++ suffix)
    | none => failure

/-- The anchor and the tag before a node, in either order. -/
def properties : Build (Option (List Char) × Option Bytes) := do
  match ← peek with
  | some (.anchor name) =>
    advance
    match ← peek with
    | some (.tag handle suffix) =>
      advance
      pure (some name, some (← fullTag handle suffix))
    | _ => pure (some name, none)
  | some (.tag handle suffix) =>
    advance
    let tag ← fullTag handle suffix
    match ← peek with
    | some (.anchor name) =>
      advance
      pure (some name, some tag)
    | _ => pure (none, some tag)
  | _ => pure (none, none)

mutual

/-- Forms a node. `block` allows blocks, and `dashes` a sequence that is not indented. An anchor or
a tag may stand alone, before a node that is missing. -/
def build (block dashes : Bool) : (fuel : Nat) → Build Node
  | 0 => failure
  | fuel + 1 => do
    match ← peek with
    | some (.alias name) =>
      advance
      match (← get).names.lookup name with
      | some n =>
        count 1
        pure (.alias n)
      | none => failure
    | _ =>
      let (name, tag) ← properties
      let place := (← get).nodes
      let anchor ← match name with
        | some name => do pure (some (← number name))
        | none => pure none
      match ← peek, block, dashes with
      | some (.scalar plain text), _, _ =>
        advance
        count 1
        note anchor place (.scalar tag plain text)
      | some .flowSequenceStart, _, _ =>
        advance
        count 2
        note anchor place (.sequence tag (← flowItems true [] fuel))
      | some .flowMappingStart, _, _ =>
        advance
        count 2
        note anchor place (.mapping tag (← flowEntries true [] fuel))
      | some .blockEntry, _, true =>
        count 2
        note anchor place (.sequence tag (← dashedItems [] fuel))
      | some .blockSequenceStart, true, _ =>
        advance
        count 2
        note anchor place (.sequence tag (← blockItems [] fuel))
      | some .blockMappingStart, true, _ =>
        advance
        count 2
        note anchor place (.mapping tag (← blockEntries [] fuel))
      | _, _, _ =>
        if name.isSome || tag.isSome then
          count 1
          note anchor place (.scalar tag true [])
        else failure

/-- Forms a node unless one of the given tokens is next, in which case the node is missing. -/
def buildUnless (block dashes : Bool) (ends : List Token) : (fuel : Nat) → Build Node
  | 0 => failure
  | fuel + 1 => do
    if ← nextIn ends then empty else build block dashes fuel

/-- The items of an indented block sequence. -/
def blockItems (seen : List Node) : (fuel : Nat) → Build (List Node)
  | 0 => failure
  | fuel + 1 => do
    if ← accept .blockEntry then
      let item ← buildUnless true false [.blockEntry, .blockEnd] fuel
      blockItems (item :: seen) fuel
    else if ← accept .blockEnd then pure seen.reverse
    else failure

/-- The items of a sequence that is not indented; it ends where no dash follows. -/
def dashedItems (seen : List Node) : (fuel : Nat) → Build (List Node)
  | 0 => failure
  | fuel + 1 => do
    if ← accept .blockEntry then
      let item ← buildUnless true false [.blockEntry, .key, .value, .blockEnd] fuel
      dashedItems (item :: seen) fuel
    else pure seen.reverse

/-- The entries of a block mapping. -/
def blockEntries (seen : List (Node × Node)) : (fuel : Nat) → Build (List (Node × Node))
  | 0 => failure
  | fuel + 1 => do
    if ← accept .key then
      let key ← buildUnless true true [.key, .value, .blockEnd] fuel
      let item ← blockValue fuel
      blockEntries ((key, item) :: seen) fuel
    else if ← accept .blockEnd then pure seen.reverse
    else failure

/-- The value of an entry of a block mapping. -/
def blockValue : (fuel : Nat) → Build Node
  | 0 => failure
  | fuel + 1 => do
    if ← accept .value then buildUnless true true [.key, .value, .blockEnd] fuel else empty

/-- The items of a flow sequence. A key among them begins a mapping of one entry; if its key is
missing, the token after it is dropped. -/
def flowItems (first : Bool) (seen : List Node) : (fuel : Nat) → Build (List Node)
  | 0 => failure
  | fuel + 1 => do
    if ← accept .flowSequenceEnd then pure seen.reverse
    else
      let more ← if first then pure true else accept .flowEntry
      if !more then failure
      else if ← accept .key then
        count 2
        let key ←
          if ← nextIn [.value, .flowEntry, .flowSequenceEnd] then do
            advance
            empty
          else build false false fuel
        let item ← flowValue .flowSequenceEnd fuel
        flowItems false (.mapping none [(key, item)] :: seen) fuel
      else if ← accept .flowSequenceEnd then pure seen.reverse
      else
        let item ← build false false fuel
        flowItems false (item :: seen) fuel

/-- The entries of a flow mapping. A node without a key mark has no value. -/
def flowEntries (first : Bool) (seen : List (Node × Node)) :
    (fuel : Nat) → Build (List (Node × Node))
  | 0 => failure
  | fuel + 1 => do
    if ← accept .flowMappingEnd then pure seen.reverse
    else
      let more ← if first then pure true else accept .flowEntry
      if !more then failure
      else if ← accept .key then
        let key ← buildUnless false false [.value, .flowEntry, .flowMappingEnd] fuel
        let item ← flowValue .flowMappingEnd fuel
        flowEntries false ((key, item) :: seen) fuel
      else if ← accept .flowMappingEnd then pure seen.reverse
      else
        let key ← build false false fuel
        let item ← empty
        flowEntries false ((key, item) :: seen) fuel

/-- The value of an entry of a flow collection that ends with the given token. -/
def flowValue (closing : Token) : (fuel : Nat) → Build Node
  | 0 => failure
  | fuel + 1 => do
    if ← accept .value then buildUnless false false [.flowEntry, closing] fuel else empty

end

/-- What the handles `!` and `!!` stand for. -/
def defaultHandles : List (List Char × Bytes) :=
  [(['!'], Bytes.ofString "!"), (['!', '!'], Bytes.ofString "tag:yaml.org,2002:")]

/-- Reads the directives before a document: at most one version, which has to be 1.1 or 1.2, and
handles of tags, each one once. -/
def directives (versions : Nat) (own : List (List Char × Bytes)) :
    (fuel : Nat) → Build (List (List Char × Bytes))
  | 0 => failure
  | fuel + 1 => do
    match ← peek with
    | some (.version major minor) =>
      if versions ≠ 0 ∨ major ≠ 1 ∨ (minor ≠ 1 ∧ minor ≠ 2) then failure
      else
        advance
        directives 1 own fuel
    | some (.tagShorthand handle expansion) =>
      if (own.lookup handle).isSome then failure
      else
        advance
        directives versions ((handle, expansion) :: own) fuel
    | _ => pure own

/-- Steps over document ends. -/
def skipEnds : (fuel : Nat) → Build Unit
  | 0 => pure ()
  | fuel + 1 => do
    if ← accept .documentEnd then skipEnds fuel else pure ()

/-- Forms the root of the only document. -/
def root : Build (Option Node) := do
  let fuel := 2 * (← get).tokens.length + 4
  match ← peek with
  | none => pure none
  | some first =>
    let explicit : Bool := match first with
      | .version _ _ | .tagShorthand _ _ | .documentStart => true
      | _ => false
    let node ←
      if explicit then do
        let own ← directives 0 [] fuel
        modify fun b => { b with handles := own ++ defaultHandles }
        if ← accept .documentStart then
          let next ← peek
          let bare : Bool := match next with
            | some (.version _ _) | some (.tagShorthand _ _) | some .documentStart
            | some .documentEnd | none => true
            | _ => false
          if bare then empty else build true false fuel
        else failure
      else build true false fuel
    skipEnds fuel
    if (← peek).isSome then failure else pure (some node)

end Node

/-- The document that a list of tokens forms. -/
def Document.ofTokens? (tokens : List Token) : Option Document :=
  (Node.root.run ⟨tokens, Node.defaultHandles, [], [], 0, 0⟩).map fun (root, b) =>
    ⟨root, b.anchored, b.size⟩

end Telemetry.Yaml
