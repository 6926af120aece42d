import Telemetry.Tree
import Telemetry.Decimal.Read
import Telemetry.Bytes.Hex

/-!
# Reading JSON

* `Json.Reason`: why a text is no JSON document; `Json.Fault` adds the place.
* `Tree.ofJson?`: the tree of a JSON text. Integers that fit into 64 bits stay integers and every
  other number is a double; of several entries of one name the last one stays; values may nest 127
  deep.

Inside the reader a fault is located by the number of bytes that follow it, which is turned into a
line and a column at the end.
-/

namespace Telemetry

namespace Json

/-- Why a text is no JSON document. -/
inductive Reason where
  | endInValue
  | endInList
  | endInObject
  | endInText
  | expectedWord
  | expectedValue
  | expectedColon
  | expectedListEnd
  | expectedObjectEnd
  | keyNotText
  | trailingComma
  | trailingCharacters
  | invalidNumber
  | numberOutOfRange
  | invalidEscape
  | controlCharacter
  | loneSurrogate
  | endOfEscape
  | tooDeep
  deriving DecidableEq

/-- The wording of a reason. -/
def Reason.message : Reason → String
  | .endInValue => "EOF while parsing a value"
  | .endInList => "EOF while parsing a list"
  | .endInObject => "EOF while parsing an object"
  | .endInText => "EOF while parsing a string"
  | .expectedWord => "expected ident"
  | .expectedValue => "expected value"
  | .expectedColon => "expected \x60:\x60"
  | .expectedListEnd => "expected \x60,\x60 or \x60]\x60"
  | .expectedObjectEnd => "expected \x60,\x60 or \x60\x7d\x60"
  | .keyNotText => "key must be a string"
  | .trailingComma => "trailing comma"
  | .trailingCharacters => "trailing characters"
  | .invalidNumber => "invalid number"
  | .numberOutOfRange => "number out of range"
  | .invalidEscape => "invalid escape"
  | .controlCharacter => "control character (\\u0000-\\u001F) found while parsing a string"
  | .loneSurrogate => "lone leading surrogate in hex escape"
  | .endOfEscape => "unexpected end of hex escape"
  | .tooDeep => "recursion limit exceeded"

/-- A reason with its place: lines count from one, columns are the bytes of the line up to it. -/
structure Fault where
  reason : Reason
  line : Nat
  column : Nat
  deriving DecidableEq

/-- The text of a fault. -/
def Fault.message (f : Fault) : String :=
  f.reason.message ++ " at line " ++ toString f.line ++ " column " ++ toString f.column

/-- A fault as the reader finds it: by the number of bytes after it. -/
structure Located where
  reason : Reason
  following : Nat

/-- The fault at the place where `rest` begins. -/
def before {α : Type} (reason : Reason) (rest : List Char) : Except Located α :=
  .error ⟨reason, utf8Length rest⟩

/-- The fault one byte into `rest`, or at the end of the text. -/
def inside {α : Type} (reason : Reason) (rest : List Char) : Except Located α :=
  .error ⟨reason, utf8Length rest - 1⟩

/-- The line and the column of the place that `count` bytes precede. -/
def lineColumn (count : Nat) : List Char → Nat × Nat
  | [] => (1, count)
  | c :: rest =>
    if count < c.utf8Size then (1, count)
    else
      let (line, column) := lineColumn (count - c.utf8Size) rest
      if c = '\n' then (line + 1, column)
      else if line = 1 then (1, column + c.utf8Size)
      else (line, column)

/-- White space of JSON. -/
def isSpace (c : Char) : Bool := c == ' ' || c == '\n' || c == '\t' || c == '\r'

/-- The text from the first character on that is no white space. -/
def skip (cs : List Char) : List Char := cs.dropWhile isSpace

/-! ## Words and numbers -/

/-- Reads the rest of a word. -/
def word : List Char → List Char → Except Located (List Char)
  | [], rest => .ok rest
  | _ :: _, [] => before .endInValue []
  | w :: ws, c :: rest => if c = w then word ws rest else inside .expectedWord (c :: rest)

/-- The largest integer that is kept as such. -/
def maxInteger : Nat := 0xFFFFFFFFFFFFFFFF

/-- A number of a fraction or an exponent, as a double. -/
def double (negative : Bool) (n : Nat) (e : Int) (rest : List Char) :
    Except Located (Number × List Char) :=
  match Binary64.scaled negative n e with
  | some x => .ok (.double x, rest)
  | none => before .numberOutOfRange rest

/-- Reads the digits of an exponent. Exponents past 32 bits make zero of every number, or none. -/
def exponentDigits (negative : Bool) (n : Nat) (start : Int) (below : Bool) (e : Nat) :
    List Char → Except Located (Number × List Char)
  | [] => double negative n (start + if below then -(e : Int) else e) []
  | c :: rest =>
    if isDigit c then
      let next := e * 10 + (c.toNat - 48)
      if 0x80000000 ≤ next then
        if n ≠ 0 ∧ !below then before .numberOutOfRange rest
        else .ok (.double (Binary64.zero negative), rest.dropWhile isDigit)
      else exponentDigits negative n start below next rest
    else double negative n (start + if below then -(e : Int) else e) (c :: rest)

/-- Reads an exponent after its letter. -/
def exponent (negative : Bool) (n : Nat) (start : Int) (cs : List Char) :
    Except Located (Number × List Char) :=
  let (below, digits) := match cs with
    | '-' :: rest => (true, rest)
    | '+' :: rest => (false, rest)
    | rest => (false, rest)
  match digits with
  | [] => before .endInValue []
  | c :: rest =>
    if isDigit c then exponentDigits negative n start below 0 (c :: rest)
    else inside .invalidNumber (c :: rest)

/-- What may follow the digits of a number: an exponent, or anything else. -/
def scaledEnd (negative : Bool) (n : Nat) (e : Int) :
    List Char → Except Located (Number × List Char)
  | [] => double negative n e []
  | c :: rest =>
    if c = 'e' ∨ c = 'E' then exponent negative n e rest else double negative n e (c :: rest)

/-- Reads the digits after the point; those that no longer fit into 64 bits are dropped. -/
def fraction (negative : Bool) (n : Nat) (e : Int) :
    List Char → Except Located (Number × List Char)
  | [] => double negative n e []
  | c :: rest =>
    if isDigit c then
      let next := n * 10 + (c.toNat - 48)
      if maxInteger < next then scaledEnd negative n e (rest.dropWhile isDigit)
      else fraction negative next (e - 1) rest
    else scaledEnd negative n e (c :: rest)

/-- Reads what follows the point, which has to be a digit. -/
def pointed (negative : Bool) (n : Nat) (e : Int) :
    List Char → Except Located (Number × List Char)
  | [] => inside .endInValue []
  | c :: rest =>
    if isDigit c then fraction negative n e (c :: rest) else inside .invalidNumber (c :: rest)

/-- Reads the digits of an integer past 64 bits, of which only the number is kept. -/
def longDigits (negative : Bool) (n : Nat) (e : Int) :
    List Char → Except Located (Number × List Char)
  | [] => double negative n e []
  | c :: rest =>
    if isDigit c then longDigits negative n (e + 1) rest
    else if c = '.' then pointed negative n e rest
    else scaledEnd negative n e (c :: rest)

/-- The integer `±n`, if it fits into 64 bits; a negative zero is a double. -/
def integer (negative : Bool) (n : Nat) : Number :=
  if negative then
    if n ≠ 0 ∧ fitsSigned 64 (-n) then .int (-n) else .double (Binary64.ofRatio true n 1)
  else .int n

/-- Reads the digits of an integer. -/
def digits (negative : Bool) (n : Nat) : List Char → Except Located (Number × List Char)
  | [] => .ok (integer negative n, [])
  | c :: rest =>
    if isDigit c then
      let next := n * 10 + (c.toNat - 48)
      if maxInteger < next then longDigits negative n 1 rest else digits negative next rest
    else if c = '.' then pointed negative n 0 rest
    else if c = 'e' ∨ c = 'E' then exponent negative n 0 rest
    else .ok (integer negative n, c :: rest)

/-- Reads a number after its sign. -/
def number (negative : Bool) : List Char → Except Located (Number × List Char)
  | [] => before .endInValue []
  | c :: rest =>
    if c = '0' then
      match rest with
      | d :: _ => if isDigit d then inside .invalidNumber rest else digits negative 0 rest
      | [] => digits negative 0 []
    else if isDigit c then digits negative 0 (c :: rest)
    else inside .invalidNumber (c :: rest)

/-! ## Texts -/

/-- Reads the four digits of an escape. -/
def fourDigits (cs : List Char) : Except Located (Nat × List Char) :=
  let size := utf8Length cs
  if size < 4 then before .endInText []
  else
    let value := match cs with
      | a :: b :: c :: d :: rest =>
        match hexValue? a, hexValue? b, hexValue? c, hexValue? d with
        | some p, some q, some r, some s => some (((p * 16 + q) * 16 + r) * 16 + s, rest)
        | _, _, _, _ => none
      | _ => none
    match value with
    | some found => .ok found
    | none => .error ⟨.invalidEscape, size - 4⟩

/-- Reads a character given by its number; one past 16 bits takes two escapes. -/
def unicodeEscape (cs : List Char) : Except Located (Char × List Char) := do
  let (n, rest) ← fourDigits cs
  if 0xDC00 ≤ n ∧ n ≤ 0xDFFF then before .loneSurrogate rest
  else if 0xD800 ≤ n ∧ n ≤ 0xDBFF then
    match rest with
    | [] => before .endInText []
    | '\\' :: 'u' :: low => do
      let (m, rest) ← fourDigits low
      if 0xDC00 ≤ m ∧ m ≤ 0xDFFF then
        pure (Char.ofNat (0x10000 + (n - 0xD800) * 0x400 + (m - 0xDC00)), rest)
      else before .loneSurrogate rest
    | '\\' :: [] => before .endInText []
    | '\\' :: more => inside .endOfEscape more
    | more => inside .endOfEscape more
  else pure (Char.ofNat n, rest)

/-- The character of a one-letter escape. -/
def simpleEscape? (c : Char) : Option Char :=
  if c = '\x22' then some '\x22'
  else if c = '\\' then some '\\'
  else if c = '/' then some '/'
  else if c = 'b' then some '\x08'
  else if c = 'f' then some '\x0c'
  else if c = 'n' then some '\n'
  else if c = 'r' then some '\r'
  else if c = 't' then some '\t'
  else none

/-- Reads a text after its opening quote; `seen` holds the characters so far, the last one first.
Every step takes a character, so the length of the text is enough fuel. -/
def text (seen : List Char) : (fuel : Nat) → List Char → Except Located (String × List Char)
  | 0, _ => before .endInText []
  | _, [] => before .endInText []
  | fuel + 1, c :: rest =>
    if c = '\x22' then .ok (String.ofList seen.reverse, rest)
    else if c = '\\' then
      match rest with
      | [] => before .endInText []
      | e :: more =>
        if e = 'u' then
          match unicodeEscape more with
          | .ok (d, after) => text (d :: seen) fuel after
          | .error fault => .error fault
        else match simpleEscape? e with
          | some d => text (d :: seen) fuel more
          | none => inside .invalidEscape (e :: more)
    else if c.toNat < 0x20 then before .controlCharacter rest
    else text (c :: seen) fuel rest

/-! ## Values -/

/-- How deep values may nest. -/
def maxDepth : Nat := 127

mutual

/-- Reads a value. -/
def value (depth : Nat) : (fuel : Nat) → List Char → Except Located (Tree × List Char)
  | 0, cs => inside .tooDeep cs
  | fuel + 1, cs =>
    match skip cs with
    | [] => inside .endInValue []
    | c :: rest =>
      if c = 'n' then (word ['u', 'l', 'l'] rest).map fun more => (.null, more)
      else if c = 't' then (word ['r', 'u', 'e'] rest).map fun more => (.bool true, more)
      else if c = 'f' then (word ['a', 'l', 's', 'e'] rest).map fun more => (.bool false, more)
      else if c = '-' then (number true rest).map fun (n, more) => (.number n, more)
      else if isDigit c then (number false (c :: rest)).map fun (n, more) => (.number n, more)
      else if c = '\x22' then
        (text [] rest.length.succ rest).map fun (s, more) => (.text s, more)
      else if c = '[' then
        if depth = 0 then inside .tooDeep (c :: rest)
        else match skip rest with
          | [] => inside .endInList []
          | ']' :: more => .ok (.list [], more)
          | more => items (depth - 1) [] fuel more
      else if c = '\x7b' then
        if depth = 0 then inside .tooDeep (c :: rest)
        else match skip rest with
          | [] => inside .endInObject []
          | '\x7d' :: more => .ok (.node [], more)
          | more => entries (depth - 1) [] fuel more
      else inside .expectedValue (c :: rest)

/-- Reads the items of a list; `seen` holds those so far, the last one first. -/
def items (depth : Nat) (seen : List Tree) :
    (fuel : Nat) → List Char → Except Located (Tree × List Char)
  | 0, cs => inside .tooDeep cs
  | fuel + 1, cs =>
    match value depth fuel cs with
    | .error fault => .error fault
    | .ok (item, rest) =>
      match skip rest with
      | [] => inside .endInList []
      | ']' :: more => .ok (.list (item :: seen).reverse, more)
      | ',' :: more =>
        match skip more with
        | [] => inside .endInValue []
        | ']' :: last => inside .trailingComma (']' :: last)
        | next => items depth (item :: seen) fuel next
      | more => inside .expectedListEnd more

/-- Reads the entries of a node. -/
def entries (depth : Nat) (seen : Entries) :
    (fuel : Nat) → List Char → Except Located (Tree × List Char)
  | 0, cs => inside .tooDeep cs
  | fuel + 1, cs =>
    match cs with
    | '\x22' :: rest =>
      match text [] rest.length.succ rest with
      | .error fault => .error fault
      | .ok (name, rest) =>
        match skip rest with
        | [] => inside .endInObject []
        | ':' :: rest =>
          match value depth fuel rest with
          | .error fault => .error fault
          | .ok (item, rest) =>
            let seen := seen.insert name item
            match skip rest with
            | [] => inside .endInObject []
            | '\x7d' :: more => .ok (.node seen, more)
            | ',' :: more =>
              match skip more with
              | [] => inside .endInValue []
              | '\x7d' :: last => inside .trailingComma ('\x7d' :: last)
              | next => entries depth seen fuel next
            | more => inside .expectedObjectEnd more
        | more => inside .expectedColon more
    | cs => inside .keyNotText cs

end

/-- Reads a value and the white space around it, to the end of the text. -/
def document (cs : List Char) : Except Located Tree := do
  let (tree, rest) ← value maxDepth (2 * cs.length + 2) cs
  match skip rest with
  | [] => pure tree
  | more => inside .trailingCharacters more

end Json

/-- The tree of a JSON text. -/
def Tree.ofJson? (s : String) : Except Json.Fault Tree :=
  let cs := s.toList
  match Json.document cs with
  | .ok tree => .ok tree
  | .error ⟨reason, following⟩ =>
    let (line, column) := Json.lineColumn (utf8Length cs - following) cs
    .error ⟨reason, line, column⟩

end Telemetry
