import Telemetry.Tree

/-!
# Tables of TOML under construction

* `Toml.Item`: a value, an array or a table, tables with their origin.
* `Toml.Item.update`: the change of the table at the end of a path of keys, where missing tables are
  made. Inline tables are closed, and dotted keys do not reach into tables that have a header.
* `Toml.Item.toTree`: the tree of an item.
-/

namespace Telemetry.Toml

/-- How a table came about: by its header, by the path of another header, by dotted keys, or inline
among the values. -/
inductive Origin where
  | header
  | path
  | dotted
  | inline
  deriving DecidableEq

/-- A part of a document. -/
inductive Item where
  | leaf (value : Tree)
  | array (ofTables : Bool) (items : List Item)
  | table (origin : Origin) (entries : List (String × Item))

namespace Item

/-- Puts an item under a key in place of the one that is there, or at the end. -/
def put (key : String) (item : Item) : List (String × Item) → List (String × Item)
  | [] => [(key, item)]
  | (other, old) :: rest =>
    if other = key then (key, item) :: rest else (other, old) :: put key item rest

/-- Changes the last item of an array of tables. -/
def updateLast (f : Item → Option Item) : List Item → Option (List Item)
  | [] => none
  | [item] => (f item).map fun changed => [changed]
  | item :: rest => (updateLast f rest).map (item :: ·)

/-- Changes the table at the end of a path by `f`. `dotted` tells whether the path consists of
dotted keys or of the keys of a header. An array of tables stands for its last table. -/
def update (dotted : Bool) (f : Origin → List (String × Item) → Option (List (String × Item))) :
    List String → Item → Option Item
  | [], .table origin entries => (f origin entries).map (.table origin)
  | key :: path, .table origin entries => do
    let next := (entries.lookup key).getD (.table (if dotted then .dotted else .path) [])
    let changed ← match next with
      | .leaf _ => none
      | .array ofTables items =>
        if ofTables then (updateLast (update dotted f path) items).map (.array true) else none
      | .table o e =>
        if o = .inline ∨ (dotted ∧ o = .header) then none else update dotted f path (.table o e)
    pure (.table origin (put key changed entries))
  | _, _ => none

/-- Adds a value under a path of dotted keys, which has to be new. The keys before the last one have
to lead to a table made by dotted keys. -/
def assign (table : Item) (path : List String) (key : String) (value : Item) : Option Item :=
  update (!path.isEmpty) (fun origin entries =>
    if (origin == .dotted) == path.isEmpty then none
    else if (entries.lookup key).isSome then none
    else some (put key value entries)) path table

/-- The entries with which the table of a header begins: none, or those of a table that the paths
of other headers have made. No other table can be given a header again. -/
def reopened (path : List String) (key : String) (root : Item) : Option (List (String × Item)) :=
  match path, root with
  | [], .table _ entries =>
    match entries.lookup key with
    | none => some []
    | some (.table .path inner) => some inner
    | some _ => none
  | k :: rest, .table _ entries =>
    match entries.lookup k with
    | none => some []
    | some (.array true items) =>
      match items.getLast? with
      | some item => reopened rest key item
      | none => none
    | some (.table .inline _) => none
    | some (.table o e) => reopened rest key (.table o e)
    | some _ => none
  | _, _ => none

/-- Puts the finished table of a header under its path. -/
def close (path : List String) (key : String) (entries : List (String × Item)) (root : Item) :
    Option Item :=
  update false (fun _ outer => some (put key (.table .header entries) outer)) path root

/-- Adds the finished table of a double header to the array under its path. -/
def append (path : List String) (key : String) (entries : List (String × Item)) (root : Item) :
    Option Item :=
  update false (fun _ outer =>
    match outer.lookup key with
    | none => some (put key (.array true [.table .header entries]) outer)
    | some (.array true items) =>
      some (put key (.array true (items ++ [.table .header entries])) outer)
    | some _ => none) path root

mutual

/-- The tree of an item. -/
def toTree : Item → Tree
  | .leaf value => value
  | .array _ items => .list (treesOf items)
  | .table _ entries => Tree.ofPairs (pairsOf entries)

/-- The trees of the items of an array. -/
def treesOf : List Item → List Tree
  | [] => []
  | item :: rest => toTree item :: treesOf rest

/-- The trees of the entries of a table. -/
def pairsOf : List (String × Item) → List (String × Tree)
  | [] => []
  | (key, item) :: rest => (key, toTree item) :: pairsOf rest

end

end Item

end Telemetry.Toml
