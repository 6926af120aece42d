import Telemetry.Binary64

/-!
# Reading decimals

* `Binary64.ofDecimal`: the double nearest to `n · 10 ^ e`, of either sign.
* `Binary64.scaled`: the same value by way of doubles, that is, the integer rounded to a double and
  then multiplied or divided by rounded powers of ten. It may differ from the nearest double in the
  last place, and JSON documents are read this way.
* `Numeral`: the parts of a written decimal.
-/

namespace Telemetry

/-- Whether a character is a decimal digit of ASCII. -/
def isDigit (c : Char) : Bool := '0' ≤ c && c ≤ '9'

/-- The number a list of digit characters denotes in a base, most significant first. -/
def digitsValue (base : Nat) (digits : List Nat) : Nat :=
  digits.foldl (fun n d => n * base + d) 0

/-- The number that a list of decimal digit characters denotes. -/
def decimalValue (cs : List Char) : Nat := digitsValue 10 (cs.map fun c => c.toNat - 48)

namespace Binary64

/-- The double nearest to `±n · 10 ^ e`. Exponents far outside the range of doubles are settled
without computing the power. -/
def ofDecimal (negative : Bool) (n : Nat) (e : Int) : Binary64 :=
  if n = 0 then zero negative
  else
    let size := (n.log2 : Int) * 30103 / 100000 + e
    if 310 < size then infinity negative
    else if size < -330 then zero negative
    else if 0 ≤ e then ofRatio negative (n * Nat.pow 10 e.toNat) 1
    else ofRatio negative n (Nat.pow 10 (-e).toNat)

/-- The double nearest to `10 ^ k`. -/
def powerOfTen (k : Nat) : Binary64 := ofRatio false (Nat.pow 10 k) 1

/-- `x · 10 ^ e`, the power rounded first and then the product or quotient; below `10 ^ -308` the
division is done in steps of `10 ^ 308`, of which `fuel` bounds the number. `none` on overflow. -/
def scaleBy (x : Binary64) (e : Int) : (fuel : Nat) → Option Binary64
  | 0 => some x
  | fuel + 1 =>
    if e.natAbs ≤ 308 then
      if 0 ≤ e then
        let y := x.times (powerOfTen e.natAbs)
        if y.isFinite then some y else none
      else some (x.dividedBy (powerOfTen e.natAbs))
    else if x.significand = 0 then some x
    else if 0 ≤ e then none
    else scaleBy (x.dividedBy (powerOfTen 308)) (e + 308) fuel

/-- `±n · 10 ^ e` by way of doubles; `none` if that overflows. Three divisions by `10 ^ 308` bring
every double to zero, so the steps are bounded. -/
def scaled (negative : Bool) (n : Nat) (e : Int) : Option Binary64 :=
  (scaleBy (ofRatio false n 1) e 8).map fun x => if negative then x.neg else x

end Binary64

/-- The parts of a written decimal: sign, digits before and after the point, exponent. -/
structure Numeral where
  negative : Bool
  whole : List Char
  fraction : List Char
  exponent : Int
  deriving DecidableEq

namespace Numeral

/-- The double nearest to a written decimal. -/
def toBinary64 (n : Numeral) : Binary64 :=
  Binary64.ofDecimal n.negative (decimalValue (n.whole ++ n.fraction))
    (n.exponent - n.fraction.length)

/-- Reads an exponent: `e` or `E`, a sign or none, and digits to the end. No exponent is zero. -/
def exponentPart? : List Char → Option Int
  | [] => some 0
  | c :: rest =>
    if c = 'e' ∨ c = 'E' then
      let (negative, digits) := match rest with
        | '-' :: ds => (true, ds)
        | '+' :: ds => (false, ds)
        | ds => (false, ds)
      if digits.isEmpty || !digits.all isDigit then none
      else some (if negative then -(decimalValue digits : Int) else decimalValue digits)
    else none

/-- Reads digits with at most one point among them, at least one digit in all, and an exponent:
`1`, `1.`, `.5`, `1.5e-3`. -/
def ofUnsigned? (negative : Bool) (cs : List Char) : Option Numeral :=
  let whole := cs.takeWhile isDigit
  let rest := cs.dropWhile isDigit
  let (fraction, tail) := match rest with
    | '.' :: more => (more.takeWhile isDigit, more.dropWhile isDigit)
    | more => ([], more)
  if whole.isEmpty && fraction.isEmpty then none
  else (exponentPart? tail).map fun e => ⟨negative, whole, fraction, e⟩

/-- Reads a decimal with an optional sign. -/
def ofChars? : List Char → Option Numeral
  | '-' :: cs => ofUnsigned? true cs
  | '+' :: cs => ofUnsigned? false cs
  | cs => ofUnsigned? false cs

end Numeral

end Telemetry
