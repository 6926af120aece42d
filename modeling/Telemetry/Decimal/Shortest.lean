import Telemetry.Binary64

/-!
# Shortest decimals

* `Decimal`: `coefficient · 10 ^ exponent`.
* `Decimal.shortest`: of the decimals that round to a given finite double, one with the fewest
  digits, and of those the nearest to the double.

The decimals that round to a double form an interval around it. On the grid of multiples of
`10 ^ k` only the two neighbours of the double need a test: if any point of the grid lies in the
interval, so does one of them.
-/

namespace Telemetry

/-- A decimal `coefficient · 10 ^ exponent`. -/
structure Decimal where
  coefficient : Nat
  exponent : Int
  deriving DecidableEq

/-- Which of two equally near decimals is taken. -/
inductive Tie where
  | even
  | up
  deriving DecidableEq

namespace Decimal

/-- Numerator and denominator of `2 ^ s / 10 ^ k`. -/
def gridUnit (s k : Int) : Nat × Nat :=
  (Nat.pow 2 s.toNat * Nat.pow 10 (-k).toNat, Nat.pow 2 (-s).toNat * Nat.pow 10 k.toNat)

/-- Whether `10 ^ e ≤ x · 2 ^ s`. -/
def powerLe (e : Int) (x : Nat) (s : Int) : Bool :=
  let (a, b) := gridUnit s e
  decide (b ≤ x * a)

/-- The largest `e` with `10 ^ e ≤ x · 2 ^ s`, for positive `x`. -/
def leadingExponent (x : Nat) (s : Int) : Int :=
  let guess := ((x.log2 : Int) + s) * 30103 / 100000
  if powerLe (guess + 1) x s then guess + 1
  else if powerLe guess x s then guess
  else guess - 1

/-- The same decimal without trailing zeros in the coefficient; `fuel` bounds their number. -/
def trim (d : Decimal) : (fuel : Nat) → Decimal
  | 0 => d
  | fuel + 1 =>
    if d.coefficient % 10 = 0 then trim ⟨d.coefficient / 10, d.exponent + 1⟩ fuel else d

/-- The numerators, in units of `2 ^ (scale - 2)`, of the ends of the interval of numbers that round
to the double `m · 2 ^ q`: half a unit to either side, but a quarter below a power of two, where
the doubles are twice as dense. -/
def interval (x : Binary64) : Nat × Nat :=
  let m := x.significand
  if m = Binary64.exponentPlace ∧ 1 < x.exponentField then (4 * m - 1, 4 * m + 2)
  else (4 * m - 2, 4 * m + 2)

/-- A point of the grid `10 ^ k` that rounds to `x`: the nearer one of the two neighbours of `x`. -/
def onGrid (tie : Tie) (x : Binary64) (k : Int) : Option Nat :=
  let (lo, hi) := interval x
  let (a, b) := gridUnit (x.scale - 2) k
  let closed := x.significand % 2 = 0
  let inside (c : Nat) : Bool :=
    if closed then decide (lo * a ≤ c * b ∧ c * b ≤ hi * a)
    else decide (lo * a < c * b ∧ c * b < hi * a)
  let value := 4 * x.significand * a
  let below := value / b
  let twice := 2 * (value % b)
  let nearerAbove :=
    decide (b < twice) || (decide (twice = b) && (tie == .up || below % 2 == 1))
  match inside below, inside (below + 1) with
  | true, true => some (if nearerAbove then below + 1 else below)
  | true, false => some below
  | false, true => some (below + 1)
  | false, false => none

/-- The first grid, from `digits` digits on, with a point that rounds to `x`. -/
def search (tie : Tie) (x : Binary64) (lead : Int) (digits : Nat) : (fuel : Nat) → Decimal
  | 0 => ⟨0, 0⟩
  | fuel + 1 =>
    let k := lead - digits + 1
    match onGrid tie x k with
    | some c => trim ⟨c, k⟩ 20
    | none => search tie x lead (digits + 1) fuel

/-- The shortest decimal that rounds to the finite double `|x|`, and the nearest of those;
seventeen digits always suffice. -/
def shortest (tie : Tie) (x : Binary64) : Decimal :=
  if x.significand = 0 then ⟨0, 0⟩
  else search tie x (leadingExponent x.significand x.scale) 1 18

end Decimal

end Telemetry
