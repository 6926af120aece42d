import Telemetry.Decimal.Shortest

/-!
# Texts of doubles

A `DoubleStyle` holds the decisions of one output format; `Binary64.render` applies them to the
shortest decimal of a double. Three formats occur:

* `DoubleStyle.json`: numbers of JSON documents;
* `DoubleStyle.inspect`: numbers in logs and in descriptions of values;
* `DoubleStyle.plain`: numbers inside attribute texts.
-/

namespace Telemetry

/-- The decisions of a text format for doubles. -/
structure DoubleStyle where
  /-- Numbers below `10 ^ lowest` are written with an exponent. -/
  lowest : Option Int
  /-- Numbers from `10 ^ highest` on are written with an exponent. -/
  highest : Option Int
  /-- Positional whole numbers end in `.0`. -/
  fraction : Bool
  /-- Positive exponents carry a `+`. -/
  plus : Bool
  tie : Tie
  infinity : String
  negativeInfinity : String
  notANumber : String

namespace DoubleStyle

/-- JSON numbers are positional from `0.00001` up to `10 ^ 16`, and what is no number is `null`. -/
def json : DoubleStyle where
  lowest := some (-5)
  highest := some 16
  fraction := true
  plus := true
  tie := .even
  infinity := "null"
  negativeInfinity := "null"
  notANumber := "null"

/-- Logged and inspected numbers are positional from `0.0001` up to `10 ^ 16`. -/
def inspect : DoubleStyle where
  lowest := some (-4)
  highest := some 16
  fraction := true
  plus := false
  tie := .up
  infinity := "inf"
  negativeInfinity := "-inf"
  notANumber := "NaN"

/-- Attribute texts are positional always, and whole numbers have no point. -/
def plain : DoubleStyle where
  lowest := none
  highest := none
  fraction := false
  plus := false
  tie := .up
  infinity := "inf"
  negativeInfinity := "-inf"
  notANumber := "NaN"

end DoubleStyle

/-- The decimal digits of a number. -/
def digitChars (n : Nat) : List Char := Nat.toDigits 10 n

namespace Decimal

/-- The digits at and before the point and the digits after it. -/
def positional (d : Decimal) : List Char × List Char :=
  let digits := digitChars d.coefficient
  if 0 ≤ d.exponent then (digits ++ List.replicate d.exponent.toNat '0', [])
  else
    let after := (-d.exponent).toNat
    if after < digits.length then
      (digits.take (digits.length - after), digits.drop (digits.length - after))
    else (['0'], List.replicate (after - digits.length) '0' ++ digits)

/-- The power of ten of the first digit. -/
def leading (d : Decimal) : Int := d.exponent + (digitChars d.coefficient).length - 1

/-- One digit, the point and the others if there are any, and the exponent. -/
def scientific (plus : Bool) (d : Decimal) : List Char :=
  let digits := digitChars d.coefficient
  let rest := digits.drop 1
  let e := d.leading
  digits.take 1 ++ (if rest.isEmpty then [] else '.' :: rest) ++ ['e'] ++
    (if e < 0 then ['-'] else if plus then ['+'] else []) ++ digitChars e.natAbs

/-- The text of a decimal in a style. -/
def render (style : DoubleStyle) (d : Decimal) : List Char :=
  let low := match style.lowest with
    | some e => decide (d.leading < e)
    | none => false
  let high := match style.highest with
    | some e => decide (e ≤ d.leading)
    | none => false
  if d.coefficient ≠ 0 ∧ (low || high) then d.scientific style.plus
  else
    let (whole, after) := d.positional
    if after.isEmpty then whole ++ (if style.fraction then ['.', '0'] else [])
    else whole ++ '.' :: after

end Decimal

/-- The text of a double in a style. -/
def Binary64.render (style : DoubleStyle) (x : Binary64) : String :=
  if x.isNaN then style.notANumber
  else if !x.isFinite then (if x.isNegative then style.negativeInfinity else style.infinity)
  else String.ofList ((if x.isNegative then ['-'] else []) ++
    (Decimal.shortest style.tie x).render style)

end Telemetry
