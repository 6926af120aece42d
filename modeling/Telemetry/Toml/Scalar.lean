import Telemetry.Tree
import Telemetry.Toml.Lexical
import Telemetry.Toml.Moment

/-!
# Unquoted values of TOML

`Toml.bareValue?`: booleans, integers, doubles, dates and times. Underscores may stand between two
digits, decimal numbers do not begin with a zero, integers have to fit into 64 bits, with or without
sign, and decimals must not be too large for a double.
-/

namespace Telemetry.Toml

/-- The digits without their underscores, each of which has to stand between two digits. -/
def groupedDigits? (p : Char → Bool) : List Char → Option (List Char)
  | [] => none
  | [c] => if p c then some [c] else none
  | c :: '_' :: rest => if p c then (groupedDigits? p rest).map (c :: ·) else none
  | c :: rest => if p c then (groupedDigits? p rest).map (c :: ·) else none

/-- The digits of a decimal integer without sign. -/
def wholeDigits? (cs : List Char) : Option (List Char) := do
  let digits ← groupedDigits? isDigit cs
  if 1 < digits.length ∧ digits.head? = some '0' then none else pure digits

/-- Whether a character is a digit in a base. -/
def isDigitOf (base : Nat) (c : Char) : Bool :=
  match hexValue? c with
  | some d => d < base
  | none => false

/-- The natural number of a text in a base. -/
def based? (base : Nat) (cs : List Char) : Option Nat := do
  let digits ← groupedDigits? (isDigitOf base) cs
  let values ← digits.mapM hexValue?
  pure (digitsValue base values)

/-- The sign of a number and what follows it. -/
def signed (cs : List Char) : Bool × List Char :=
  match cs with
  | '-' :: rest => (true, rest)
  | '+' :: rest => (false, rest)
  | rest => (false, rest)

/-- The integer of a text. -/
def integer? (cs : List Char) : Option Int :=
  match cs with
  | '0' :: 'x' :: ds => (based? 16 ds).map Int.ofNat
  | '0' :: 'o' :: ds => (based? 8 ds).map Int.ofNat
  | '0' :: 'b' :: ds => (based? 2 ds).map Int.ofNat
  | cs =>
    let (negative, digits) := signed cs
    (wholeDigits? digits).map fun ds =>
      if negative then -(decimalValue ds : Int) else decimalValue ds

/-- The exponent of a number, after its letter. -/
def exponent? (cs : List Char) : Option Int :=
  let (negative, digits) := signed cs
  (groupedDigits? isDigit digits).map fun ds =>
    if negative then -(decimalValue ds : Int) else decimalValue ds

/-- Whether a character begins an exponent. -/
def isExponentMark (c : Char) : Bool := c == 'e' || c == 'E'

/-- The decimal of a text with a point or an exponent. -/
def numeral? (cs : List Char) : Option Numeral := do
  let (negative, cs) := signed cs
  let mantissa := cs.takeWhile fun c => !isExponentMark c
  let tail := cs.dropWhile fun c => !isExponentMark c
  let whole ← wholeDigits? (mantissa.takeWhile (· != '.'))
  let fraction ← match mantissa.dropWhile (· != '.') with
    | [] => some []
    | _ :: ds => groupedDigits? isDigit ds
  let exponent ← match tail with
    | [] => some 0
    | _ :: ds => exponent? ds
  if fraction.isEmpty ∧ tail.isEmpty then none else pure ⟨negative, whole, fraction, exponent⟩

/-- The key under which trees hold a moment. -/
def momentKey : String := "$__toml_private_datetime"

/-- The value of a text without quotes. -/
def bareValue? (cs : List Char) : Option Tree :=
  if cs = ['t', 'r', 'u', 'e'] then some (.bool true)
  else if cs = ['f', 'a', 'l', 's', 'e'] then some (.bool false)
  else
    let (negative, word) := signed cs
    if word = ['i', 'n', 'f'] then some (.double (.infinity negative))
    else if word = ['n', 'a', 'n'] then some (.double .nan)
    else match integer? cs with
      | some n => if fitsWord 64 n then some (.int n) else none
      | none =>
        match numeral? cs with
        | some n => if n.toBinary64.isFinite then some (.double n.toBinary64) else none
        | none =>
          (Moment.ofChars? cs).map fun m => .node [(momentKey, .text m.render)]

/-- The characters that end a text without quotes. -/
def endsBare (c : Char) : Bool :=
  isBlank c || ['\n', '\r', '#', ',', '=', '[', ']', '\x7b', '\x7d', '\x22', '\''].contains c

/-- Takes a value without quotes. One blank may part a date from a time. -/
def bareValue (cs : List Char) : Option (Tree × List Char) :=
  let word := cs.takeWhile fun c => !endsBare c
  let rest := cs.dropWhile fun c => !endsBare c
  let withTime : Option (Tree × List Char) :=
    match rest with
    | ' ' :: more =>
      let time := more.takeWhile fun c => !endsBare c
      match Moment.ofChars? (word ++ ' ' :: time) with
      | some m =>
        some (.node [(momentKey, .text m.render)], more.dropWhile fun c => !endsBare c)
      | none => none
    | _ => none
  match withTime with
  | some found => some found
  | none => (bareValue? word).map fun t => (t, rest)

end Telemetry.Toml
