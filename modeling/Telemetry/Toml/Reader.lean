import Telemetry.Toml.Scalar
import Telemetry.Toml.Table

/-!
# Reading TOML

`Tree.ofToml?`: the tree of a TOML text. Arrays and inline tables may nest 80 deep, and as many keys
may be joined by dots.
-/

namespace Telemetry

namespace Toml

/-- How deep arrays and inline tables may nest. -/
def maxDepth : Nat := 80

mutual

/-- Takes a value. -/
def value (depth : Nat) : (fuel : Nat) → List Char → Option (Item × List Char)
  | 0, _ => none
  | fuel + 1, cs =>
    match cs with
    | [] => none
    | c :: rest =>
      if c = '\x22' ∨ c = '\'' then
        (quotedText cs).map fun (s, after) => (.leaf (.text s), after)
      else if c = '[' then
        if depth = 0 then none else items (depth - 1) [] fuel (skipLines (rest.length + 1) rest)
      else if c = '\x7b' then
        if depth = 0 then none
        else entries (depth - 1) (.table .inline []) fuel (skipLines (rest.length + 1) rest)
      else (bareValue cs).map fun (t, after) => (.leaf t, after)

/-- Takes the items of an array and its closing bracket. -/
def items (depth : Nat) (seen : List Item) : (fuel : Nat) → List Char → Option (Item × List Char)
  | 0, _ => none
  | fuel + 1, cs =>
    match cs with
    | ']' :: rest => some (.array false seen.reverse, rest)
    | cs => do
      let (item, rest) ← value depth fuel cs
      match skipLines (rest.length + 1) rest with
      | ',' :: more => items depth (item :: seen) fuel (skipLines (more.length + 1) more)
      | ']' :: more => pure (.array false (item :: seen).reverse, more)
      | _ => none

/-- Takes the entries of an inline table and its closing brace. Line breaks and comments may stand
anywhere but between the parts of a key. -/
def entries (depth : Nat) (seen : Item) : (fuel : Nat) → List Char → Option (Item × List Char)
  | 0, _ => none
  | fuel + 1, cs =>
    match cs with
    | '\x7d' :: rest => some (seen, rest)
    | cs => do
      let (path, rest) ← keyPath cs
      match skipLines (rest.length + 1) rest with
      | '=' :: rest =>
        let (item, rest) ← value depth fuel (skipLines (rest.length + 1) rest)
        let seen ← seen.assign path.dropLast (path.getLast?.getD "") item
        match skipLines (rest.length + 1) rest with
        | ',' :: more => entries depth seen fuel (skipLines (more.length + 1) more)
        | '\x7d' :: more => pure (seen, more)
        | _ => none
      | _ => none

end

/-- The header under which keys are being read. -/
structure Header where
  path : List String
  key : String
  isArray : Bool

/-- A document under construction: the tables before the current header, the header, and the
table that belongs to it. -/
structure Draft where
  root : Item
  header : Option Header
  current : Item

namespace Draft

/-- The document before its first line. -/
def start : Draft := ⟨.table .header [], none, .table .header []⟩

/-- The entries of the current table. -/
def currentEntries (d : Draft) : List (String × Item) :=
  match d.current with
  | .table _ entries => entries
  | _ => []

/-- The tables with the current one put into its place. -/
def closed (d : Draft) : Option Item :=
  match d.header with
  | none => some d.current
  | some h =>
    if h.isArray then d.root.append h.path h.key d.currentEntries
    else d.root.close h.path h.key d.currentEntries

/-- Begins the table of a header. -/
def openTable (h : Header) (d : Draft) : Option Draft := do
  let root ← d.closed
  if h.isArray then pure ⟨root, some h, .table .header []⟩
  else
    let entries ← root.reopened h.path h.key
    pure ⟨root, some h, .table .header entries⟩

end Draft

/-- Takes a header, the opening brackets of which are taken already. -/
def header (isArray : Bool) (cs : List Char) : Option (Header × List Char) := do
  let (path, rest) ← keyPath cs
  let h : Header := ⟨path.dropLast, path.getLast?.getD "", isArray⟩
  match isArray, rest with
  | true, ']' :: ']' :: rest => pure (h, rest)
  | false, ']' :: rest => pure (h, rest)
  | _, _ => none

/-- Takes line after line: headers, keys with values, comments and empty lines. -/
def lines : (fuel : Nat) → Draft → List Char → Option Item
  | 0, _, _ => none
  | fuel + 1, d, cs =>
    match skipBlanks cs with
    | [] => d.closed
    | '[' :: '[' :: rest => do
      let (h, rest) ← header true rest
      lines fuel (← d.openTable h) (← endOfLine rest)
    | '[' :: rest => do
      let (h, rest) ← header false rest
      lines fuel (← d.openTable h) (← endOfLine rest)
    | c :: rest =>
      if c = '#' ∨ c = '\n' ∨ c = '\r' then do
        lines fuel d (← endOfLine (c :: rest))
      else do
        let (path, rest) ← keyPath (c :: rest)
        match rest with
        | '=' :: rest =>
          let (item, rest) ← value maxDepth (2 * rest.length + 2) (skipBlanks rest)
          let current ← d.current.assign path.dropLast (path.getLast?.getD "") item
          lines fuel { d with current } (← endOfLine rest)
        | _ => none

/-- The byte order mark. -/
def byteOrderMark : Char := Char.ofNat 0xFEFF

end Toml

/-- The tree of a TOML text; `none` if it is malformed. A byte order mark in front is skipped. -/
def Tree.ofToml? (s : String) : Option Tree :=
  let cs := s.toList
  let cs := if cs.head? = some Toml.byteOrderMark then cs.drop 1 else cs
  (Toml.lines (cs.length + 1) .start cs).map Toml.Item.toTree

end Telemetry
