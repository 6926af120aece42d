import Telemetry.Tree
import Telemetry.Bytes.Hex
import Telemetry.Decimal.Read

/-!
# What plain scalars mean

* `Yaml.isNull`, `Yaml.bool?`, `Yaml.integer?`, `Yaml.double?`: the texts of null, booleans and
  numbers.
* `Yaml.plainValue`: the value of a plain scalar without a tag; `Yaml.taggedValue` the one of a
  scalar with a tag. Both are `none` for integers past 64 bits that fit into 128.
-/

namespace Telemetry.Yaml

/-- The words for null. -/
def isNull (cs : List Char) : Bool :=
  ["null", "Null", "NULL", "~"].any fun w => w.toList == cs

/-- The words for the two booleans. -/
def bool? (cs : List Char) : Option Bool :=
  if ["true", "True", "TRUE"].any fun w => w.toList == cs then some true
  else if ["false", "False", "FALSE"].any fun w => w.toList == cs then some false
  else none

/-! ## Integers -/

/-- The value of a digit in a base up to sixteen. -/
def digit? (base : Nat) (c : Char) : Option Nat :=
  match hexValue? c with
  | some d => if d < base then some d else none
  | none => none

/-- The number that digits denote in a base; there has to be one at least. -/
def natural? (base : Nat) (cs : List Char) : Option Nat :=
  if cs.isEmpty then none
  else (cs.mapM (digit? base)).map (digitsValue base)

/-- Whether a text consists of decimal digits, the first of several being zero, after an optional
sign. Such a text is no number. -/
def isPadded (cs : List Char) : Bool :=
  let digits := match cs with
    | '-' :: ds => ds
    | '+' :: ds => ds
    | ds => ds
  1 < digits.length && digits.head? == some '0' && digits.all isDigit

/-- The base that a leading mark names, and the digits after it. -/
def based? : List Char → Option (Nat × List Char)
  | '0' :: 'x' :: ds => some (16, ds)
  | '0' :: 'o' :: ds => some (8, ds)
  | '0' :: 'b' :: ds => some (2, ds)
  | _ => none

/-- The natural number of a text: decimal, or in a base named by its mark. -/
def unsigned? (cs : List Char) : Option Nat :=
  match based? cs with
  | some (base, ds) => natural? base ds
  | none => if isPadded cs then none else natural? 10 cs

/-- The integer of a text with an optional sign. -/
def integer? (cs : List Char) : Option Int :=
  match cs with
  | '+' :: ds => (unsigned? ds).map Int.ofNat
  | '-' :: ds => (unsigned? ds).map fun n => -(n : Int)
  | ds => (unsigned? ds).map Int.ofNat

/-! ## Doubles -/

/-- The double of a text with an optional sign: infinity, no number, or a decimal that is not too
large. -/
def double? (cs : List Char) : Option Binary64 :=
  let unplussed := match cs with
    | '+' :: ds => ds
    | ds => ds
  if cs.head? == some '+' && (unplussed.head? == some '+' || unplussed.head? == some '-') then none
  else if [".inf", ".Inf", ".INF"].any fun w => w.toList == unplussed then
    some (.infinity false)
  else if ["-.inf", "-.Inf", "-.INF"].any fun w => w.toList == cs then some (.infinity true)
  else if [".nan", ".NaN", ".NAN"].any fun w => w.toList == cs then some .nan
  else match Numeral.ofChars? unplussed with
    | some n => if n.toBinary64.isFinite then some n.toBinary64 else none
    | none => none

/-! ## Values -/

/-- The value of an integer: one that needs more than 64 bits has none, but past 128 bits it is a
double. -/
def integerValue (n : Int) (cs : List Char) : Option Tree :=
  if fitsWord 64 n then some (.int n)
  else if fitsWord 128 n then none
  else match double? cs with
    | some x => some (.double x)
    | none => some (.text (String.ofList cs))

/-- The value of a plain scalar without a tag. -/
def plainValue (cs : List Char) : Option Tree :=
  if cs.isEmpty || isNull cs then some .null
  else match bool? cs with
    | some b => some (.bool b)
    | none =>
      match integer? cs with
      | some n => integerValue n cs
      | none =>
        if isPadded cs then some (.text (String.ofList cs))
        else match double? cs with
          | some x => some (.double x)
          | none => some (.text (String.ofList cs))

/-- A tag of the core schema. -/
def coreTag (name : String) : Bytes := Bytes.ofString ("tag:yaml.org,2002:" ++ name)

/-- Whether a tag begins as local ones do. -/
def hasLocalMark (tag : Bytes) : Bool := tag.head? == some 33

/-- Whether a tag is local: an exclamation mark with a name, which has to be a text, or without
one. -/
def isLocal (tag : Bytes) : Bool := hasLocalMark tag && (Bytes.toString? (tag.drop 1)).isSome

/-- The value of a scalar with a tag. Local tags have no meaning, the four tags of the core schema
ask for their type, one with the mark of local tags and no text is as good as none, and any other
tag makes a text. -/
def taggedValue (tag : Bytes) (plain : Bool) (cs : List Char) : Option Tree :=
  if isLocal tag then none
  else if hasLocalMark tag && plain then plainValue cs
  else if tag = coreTag "bool" then (bool? cs).map .bool
  else if tag = coreTag "int" then
    match integer? cs with
    | some n => if fitsWord 64 n then some (.int n) else none
    | none => none
  else if tag = coreTag "float" then (double? cs).map .double
  else if tag = coreTag "null" then (if isNull cs then some .null else none)
  else some (.text (String.ofList cs))

/-- The value of a scalar. -/
def scalarValue (tag : Option Bytes) (plain : Bool) (cs : List Char) : Option Tree :=
  match tag with
  | some tag => taggedValue tag plain cs
  | none => if plain then plainValue cs else some (.text (String.ofList cs))

end Telemetry.Yaml
