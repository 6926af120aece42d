/-!
# Binary64 numbers as words

* `Binary64`: a double, kept as its 64 bits, so that equality is equality of bits.
* `significand`, `scale`: a finite double is `±significand · 2 ^ scale`.
* `ofRatio`: the double nearest to a ratio, ties to the even significand.
* `ofInt`, `times`, `dividedBy`: conversion and the two operations that reading a scaled decimal
  needs, each the exact result rounded once.
-/

namespace Telemetry

/-- A binary64 number, kept as its 64 bits. -/
structure Binary64 where
  bits : UInt64
  deriving DecidableEq, Inhabited

namespace Binary64

/-! ## Fields of the word -/

/-- The place value of the sign bit, `2 ^ 63`. -/
def signPlace : Nat := 0x8000000000000000

/-- The place value of the lowest exponent bit, `2 ^ 52`; it is also that of the hidden bit. -/
def exponentPlace : Nat := 0x10000000000000

/-- The number of exponents, `2 ^ 11`. -/
def exponentCount : Nat := 0x800

/-- The sign bit. -/
def isNegative (x : Binary64) : Bool := decide (signPlace ≤ x.bits.toNat)

/-- The eleven exponent bits. -/
def exponentField (x : Binary64) : Nat := x.bits.toNat / exponentPlace % exponentCount

/-- The fifty-two fraction bits. -/
def fractionField (x : Binary64) : Nat := x.bits.toNat % exponentPlace

/-- Neither infinite nor a NaN. -/
def isFinite (x : Binary64) : Bool := x.exponentField != 2047

/-- Not a number: the top exponent with a fraction. -/
def isNaN (x : Binary64) : Bool := x.exponentField == 2047 && x.fractionField != 0

/-- The integer factor of a finite double, hidden bit included. -/
def significand (x : Binary64) : Nat :=
  if x.exponentField = 0 then x.fractionField else x.fractionField + exponentPlace

/-- The power of two of a finite double. -/
def scale (x : Binary64) : Int :=
  if x.exponentField = 0 then -1074 else (x.exponentField : Int) - 1075

/-- The word with the given fields. -/
def ofFields (negative : Bool) (exponent fraction : Nat) : Binary64 :=
  ⟨UInt64.ofNat ((if negative then signPlace else 0) + exponent * exponentPlace + fraction)⟩

/-- Zero of either sign. -/
def zero (negative : Bool) : Binary64 := ofFields negative 0 0

/-- Infinity of either sign. -/
def infinity (negative : Bool) : Binary64 := ofFields negative 2047 0

/-- The quiet NaN without payload. -/
def nan : Binary64 := ofFields false 2047 (exponentPlace / 2)

/-- The double `±m · 2 ^ q`, for `m < 2 ^ 53` and `q ≥ -1074`; past the largest double, infinity. -/
def pack (negative : Bool) (m : Nat) (q : Int) : Binary64 :=
  if 971 < q then infinity negative
  else if m < exponentPlace then ofFields negative 0 m
  else ofFields negative (q + 1075).toNat (m - exponentPlace)

/-! ## Rounding -/

/-- The integer nearest to `num / den`, a half going to the even neighbour. -/
def roundHalfEven (num den : Nat) : Nat :=
  let below := num / den
  let twice := 2 * (num % den)
  if twice < den then below
  else if den < twice then below + 1
  else below + below % 2

/-- Whether `2 ^ e ≤ num / den`. -/
def powerLe (e : Int) (num den : Nat) : Bool :=
  if 0 ≤ e then decide (den * Nat.pow 2 e.toNat ≤ num)
  else decide (den ≤ num * Nat.pow 2 (-e).toNat)

/-- The largest `e` with `2 ^ e ≤ num / den`, for positive `num` and `den`. -/
def binaryExponent (num den : Nat) : Int :=
  let guess := (num.log2 : Int) - (den.log2 : Int)
  if powerLe guess num den then guess else guess - 1

/-- `num / den` in units of `2 ^ q`, rounded. -/
def roundAt (q : Int) (num den : Nat) : Nat :=
  if 0 ≤ q then roundHalfEven num (den * Nat.pow 2 q.toNat)
  else roundHalfEven (num * Nat.pow 2 (-q).toNat) den

/-- The double nearest to `±num / den`, a tie going to the even significand. -/
def ofRatio (negative : Bool) (num den : Nat) : Binary64 :=
  if num = 0 then zero negative
  else
    let q := max (binaryExponent num den - 52) (-1074)
    let m := roundAt q num den
    if m = 2 * exponentPlace then pack negative exponentPlace (q + 1) else pack negative m q

/-- The double nearest to an integer. -/
def ofInt (n : Int) : Binary64 := ofRatio (decide (n < 0)) n.natAbs 1

/-- `±a · 2 ^ p / (b · 2 ^ q)`, rounded once. -/
def ofScaledRatio (negative : Bool) (a b : Nat) (p q : Int) : Binary64 :=
  if q ≤ p then ofRatio negative (a * Nat.pow 2 (p - q).toNat) b
  else ofRatio negative a (b * Nat.pow 2 (q - p).toNat)

/-- The product of two finite doubles. -/
def times (x y : Binary64) : Binary64 :=
  ofScaledRatio (x.isNegative != y.isNegative) (x.significand * y.significand) 1
    (x.scale + y.scale) 0

/-- The quotient of two finite doubles, the second one not zero. -/
def dividedBy (x y : Binary64) : Binary64 :=
  ofScaledRatio (x.isNegative != y.isNegative) x.significand y.significand x.scale y.scale

/-- The double of opposite sign. -/
def neg (x : Binary64) : Binary64 :=
  ofFields (!x.isNegative) x.exponentField x.fractionField

end Binary64

end Telemetry
