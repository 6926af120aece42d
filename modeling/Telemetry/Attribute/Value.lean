import Telemetry.Bytes.Hex
import Telemetry.Decimal.Style
import Telemetry.Text.Quoted

/-!
# Attribute values

* `Attribute.Value`: texts, booleans, 64-bit integers, doubles, byte strings, and lists and named
  lists of values. `Attribute`: a value with its name.
* `Value.render`: the text of a value, for sinks that understand nothing but text.
* Equality is equality of constructors and contents, doubles by their bits (`Value.same_iff`).
* `Value.feed`: the sequence of words a hash function is given for a value.
-/

namespace Telemetry

namespace Attribute

/-- The kinds of values. -/
inductive Kind where
  | text
  | bool
  | long
  | double
  | list
  | entries
  | bytes
  deriving DecidableEq

/-- The name of a kind. -/
def Kind.name : Kind → String
  | .text => "string"
  | .bool => "bool"
  | .long => "long"
  | .double => "double"
  | .list => "array"
  | .entries => "key_value_list"
  | .bytes => "bytes"

/-- The number of a kind. -/
def Kind.number : Kind → Nat
  | .text => 0
  | .bool => 1
  | .long => 2
  | .double => 3
  | .list => 4
  | .entries => 5
  | .bytes => 6

/-- A value that may be nested to any depth. -/
inductive Value where
  | text (s : String)
  | bool (b : Bool)
  | long (n : Int64)
  | double (x : Binary64)
  | list (items : List Value)
  | entries (pairs : List (String × Value))
  | bytes (b : Bytes)
  deriving Inhabited

namespace Value

/-- The kind of a value. -/
def kind : Value → Kind
  | .text _ => .text
  | .bool _ => .bool
  | .long _ => .long
  | .double _ => .double
  | .list _ => .list
  | .entries _ => .entries
  | .bytes _ => .bytes

/-! ## Texts -/

mutual

/-- The text of a value: bytes in base 16, lists in square brackets, named values after their name
and an equals sign. -/
def render : Value → String
  | .text s => s
  | .bool true => "true"
  | .bool false => "false"
  | .long n => toString n.toInt
  | .double x => x.render .plain
  | .list items => bracketed (renderItems items)
  | .entries pairs => bracketed (renderEntries pairs)
  | .bytes b => b.toHex

/-- The texts of a list of values. -/
def renderItems : List Value → List String
  | [] => []
  | v :: vs => render v :: renderItems vs

/-- The texts of named values. -/
def renderEntries : List (String × Value) → List String
  | [] => []
  | (k, v) :: vs => (k ++ "=" ++ render v) :: renderEntries vs

end

/-! ## Equality -/

mutual

/-- Equality of values. -/
def same : Value → Value → Bool
  | .text a, .text b => a == b
  | .bool a, .bool b => a == b
  | .long a, .long b => a == b
  | .double a, .double b => decide (a = b)
  | .list a, .list b => sameItems a b
  | .entries a, .entries b => sameEntries a b
  | .bytes a, .bytes b => a == b
  | _, _ => false

/-- Equality of lists of values, item by item. -/
def sameItems : List Value → List Value → Bool
  | [], [] => true
  | a :: as, b :: bs => same a b && sameItems as bs
  | _, _ => false

/-- Equality of named values, names included. -/
def sameEntries : List (String × Value) → List (String × Value) → Bool
  | [], [] => true
  | (j, a) :: as, (k, b) :: bs => j == k && same a b && sameEntries as bs
  | _, _ => false

end

mutual

theorem same_iff : (a b : Value) → (same a b = true ↔ a = b)
  | .text a, b => by cases b <;> simp [same]
  | .bool a, b => by cases b <;> simp [same]
  | .long a, b => by cases b <;> simp [same]
  | .double a, b => by cases b <;> simp [same]
  | .list as, b => by cases b <;> simp [same, sameItems_iff as]
  | .entries as, b => by cases b <;> simp [same, sameEntries_iff as]
  | .bytes a, b => by cases b <;> simp [same]

theorem sameItems_iff : (as bs : List Value) → (sameItems as bs = true ↔ as = bs)
  | [], bs => by cases bs <;> simp [sameItems]
  | a :: as, bs => by
    cases bs with
    | nil => simp [sameItems]
    | cons b bs => simp [sameItems, same_iff a b, sameItems_iff as bs]

theorem sameEntries_iff : (as bs : List (String × Value)) → (sameEntries as bs = true ↔ as = bs)
  | [], bs => by cases bs <;> simp [sameEntries]
  | (j, a) :: as, bs => by
    cases bs with
    | nil => simp [sameEntries]
    | cons b bs =>
      obtain ⟨k, b⟩ := b
      simp [sameEntries, same_iff a b, sameEntries_iff as bs, and_assoc]

end

instance : DecidableEq Value := fun a b =>
  if h : same a b = true then isTrue ((same_iff a b).1 h)
  else isFalse fun e => h ((same_iff a b).2 e)

/-! ## Words for a hash function -/

/-- A word given to a hash function: the number of a kind, a length, a byte, 64 bits, or a byte
string. -/
inductive Word where
  | tag (n : Nat)
  | length (n : Nat)
  | byte (b : UInt8)
  | bits (w : UInt64)
  | raw (b : Bytes)
  deriving DecidableEq

/-- The words of a text: its bytes and a closing mark, which no text contains. -/
def textFeed (s : String) : List Word := [.raw (Bytes.ofString s), .byte 0xFF]

mutual

/-- The words of a value: its kind, then its contents, lists after their length. -/
def feed : Value → List Word
  | .text s => .tag Kind.text.number :: textFeed s
  | .bool b => [.tag Kind.bool.number, .byte (if b then 1 else 0)]
  | .long n => [.tag Kind.long.number, .bits n.toUInt64]
  | .double x => [.tag Kind.double.number, .bits x.bits]
  | .list items => .tag Kind.list.number :: .length items.length :: feedItems items
  | .entries pairs => .tag Kind.entries.number :: .length pairs.length :: feedEntries pairs
  | .bytes b => [.tag Kind.bytes.number, .length b.length, .raw b]

/-- The words of a list of values. -/
def feedItems : List Value → List Word
  | [] => []
  | v :: vs => feed v ++ feedItems vs

/-- The words of named values. -/
def feedEntries : List (String × Value) → List Word
  | [] => []
  | (k, v) :: vs => textFeed k ++ feed v ++ feedEntries vs

end

/-- The description of a byte string. -/
def describeBytes (b : Bytes) : String := "AnyValueBytes\x7b" ++ b.toHex ++ "\x7d"

end Value

end Attribute

/-- A named value. -/
structure Attribute where
  key : String
  value : Attribute.Value
  deriving DecidableEq

end Telemetry
