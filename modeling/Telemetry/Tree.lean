import Telemetry.Decimal.Style
import Telemetry.Text.Quoted

/-!
# Trees of values

* `Tree`: what a document holds once its notation is gone: null, booleans, numbers, texts, lists and
  nodes of named entries.
* `Entries`: the entries of a node. Every reader keeps them in ascending order of their names with
  no name twice (`Entries.insert`, `Entries.ofPairs`).
* `fitsSigned`, `fitsUnsigned`, `fitsWord`: whether an integer has a form in a given number of bits,
  with a sign, without one, or either way.
* `Tree.inspect`: the description of a tree that messages and listings show.
-/

namespace Telemetry

/-- A number: an integer as it was written, or a double. -/
inductive Number where
  | int (n : Int)
  | double (x : Binary64)
  deriving DecidableEq

/-! ## Ranges of integers -/

/-- Whether an integer fits into a number of bits, one of them for the sign. -/
def fitsSigned (bits : Nat) (n : Int) : Bool :=
  decide (-(Nat.pow 2 (bits - 1) : Int) ≤ n) && decide (n < (Nat.pow 2 (bits - 1) : Int))

/-- Whether an integer fits into a number of bits without a sign. -/
def fitsUnsigned (bits : Nat) (n : Int) : Bool :=
  decide (0 ≤ n) && decide (n < (Nat.pow 2 bits : Int))

/-- Whether an integer fits into a number of bits, with a sign or without one. -/
def fitsWord (bits : Nat) (n : Int) : Bool := fitsSigned bits n || fitsUnsigned bits n

/-! ## Values -/

/-- A value of a document. -/
inductive Tree where
  | null
  | bool (b : Bool)
  | number (n : Number)
  | text (s : String)
  | list (items : List Tree)
  | node (entries : List (String × Tree))

/-- Entries of a node, in order. -/
abbrev Entries := List (String × Tree)

namespace Tree

/-- An integer. -/
def int (n : Int) : Tree := .number (.int n)

/-- A double; one that is not finite has no number and is null. -/
def double (x : Binary64) : Tree := if x.isFinite then .number (.double x) else .null

/-! ## Equality -/

mutual

/-- Equality of trees, by their bits and characters. -/
def same : Tree → Tree → Bool
  | .null, .null => true
  | .bool a, .bool b => a == b
  | .number a, .number b => decide (a = b)
  | .text a, .text b => a == b
  | .list a, .list b => sameItems a b
  | .node a, .node b => sameEntries a b
  | _, _ => false

/-- Equality of lists of trees, item by item. -/
def sameItems : List Tree → List Tree → Bool
  | [], [] => true
  | a :: as, b :: bs => same a b && sameItems as bs
  | _, _ => false

/-- Equality of entries, name by name and value by value. -/
def sameEntries : List (String × Tree) → List (String × Tree) → Bool
  | [], [] => true
  | (j, a) :: as, (k, b) :: bs => j == k && same a b && sameEntries as bs
  | _, _ => false

end

mutual

theorem same_iff : (a b : Tree) → (same a b = true ↔ a = b)
  | .null, b => by cases b <;> simp [same]
  | .bool a, b => by cases b <;> simp [same]
  | .number a, b => by cases b <;> simp [same]
  | .text a, b => by cases b <;> simp [same]
  | .list as, b => by cases b <;> simp [same, sameItems_iff as]
  | .node as, b => by cases b <;> simp [same, sameEntries_iff as]

theorem sameItems_iff : (as bs : List Tree) → (sameItems as bs = true ↔ as = bs)
  | [], bs => by cases bs <;> simp [sameItems]
  | a :: as, bs => by
    cases bs with
    | nil => simp [sameItems]
    | cons b bs => simp [sameItems, same_iff a b, sameItems_iff as bs]

theorem sameEntries_iff : (as bs : List (String × Tree)) → (sameEntries as bs = true ↔ as = bs)
  | [], bs => by cases bs <;> simp [sameEntries]
  | (j, a) :: as, bs => by
    cases bs with
    | nil => simp [sameEntries]
    | cons b bs =>
      obtain ⟨k, b⟩ := b
      simp [sameEntries, same_iff a b, sameEntries_iff as bs, and_assoc]

end

instance : DecidableEq Tree := fun a b =>
  if h : same a b = true then isTrue ((same_iff a b).1 h)
  else isFalse fun e => h ((same_iff a b).2 e)

end Tree

/-! ## Entries -/

namespace Entries

/-- The value of a name. -/
def get? (entries : Entries) (name : String) : Option Tree := List.lookup name entries

/-- Puts a value under a name, at the name's place in the order; an earlier value gives way. -/
def insert (name : String) (value : Tree) : Entries → Entries
  | [] => [(name, value)]
  | (key, old) :: rest =>
    if name < key then (name, value) :: (key, old) :: rest
    else if name = key then (name, value) :: rest
    else (key, old) :: insert name value rest

/-- The entries given by pairs in any order; of several values of one name the last one stays. -/
def ofPairs (pairs : List (String × Tree)) : Entries :=
  pairs.foldl (fun entries (name, value) => insert name value entries) []

/-- The names, in order. -/
def keys (entries : Entries) : List String := entries.map Prod.fst

end Entries

namespace Tree

/-- The node of the given pairs, in order of their names. -/
def ofPairs (pairs : List (String × Tree)) : Tree := .node (Entries.ofPairs pairs)

/-! ## Descriptions -/

end Tree

/-- A number in the notation of documents. -/
def Number.render : Number → String
  | .int n => toString n
  | .double x => x.render .json

namespace Tree

mutual

/-- The description of a tree. -/
def inspect : Tree → String
  | .null => "Null"
  | .bool true => "Bool(true)"
  | .bool false => "Bool(false)"
  | .number n => "Number(" ++ n.render ++ ")"
  | .text s => "String(" ++ quoted s ++ ")"
  | .list items => "Array " ++ bracketed (inspectItems items)
  | .node entries => "Object " ++ "\x7b" ++ joined ", " (inspectEntries entries) ++ "\x7d"

/-- The descriptions of the items of a list. -/
def inspectItems : List Tree → List String
  | [] => []
  | t :: ts => inspect t :: inspectItems ts

/-- The descriptions of entries. -/
def inspectEntries : List (String × Tree) → List String
  | [] => []
  | (k, t) :: ts => (quoted k ++ ": " ++ inspect t) :: inspectEntries ts

end

/-- What kind of value a tree is, in the words of messages. -/
def kind : Tree → String
  | .null => "null"
  | .bool _ => "a boolean"
  | .number _ => "a number"
  | .text _ => "a string"
  | .list _ => "a list"
  | .node _ => "a structured node"

end Tree

/-- The description of a node's entries. -/
def Entries.inspect (entries : Entries) : String :=
  "\x7b" ++ joined ", " (Tree.inspectEntries entries) ++ "\x7d"

end Telemetry
