import Telemetry.Bytes.Hex

/-!
# Base 64

`Bytes.toBase64` writes three bytes as four digits of the standard alphabet and pads the last group
with `=`; `Bytes.ofBase64Chars?` reads that form back and no other.
-/

namespace Telemetry

/-- The digit of a number below sixty-four. -/
def base64Digit (n : Nat) : Char :=
  if n < 26 then Char.ofNat (65 + n)
  else if n < 52 then Char.ofNat (71 + n)
  else if n < 62 then Char.ofNat (n - 4)
  else if n = 62 then '+'
  else '/'

/-- The value of a digit of base 64. -/
def base64Value? (c : Char) : Option Nat :=
  if 'A' ≤ c ∧ c ≤ 'Z' then some (c.toNat - 65)
  else if 'a' ≤ c ∧ c ≤ 'z' then some (c.toNat - 71)
  else if '0' ≤ c ∧ c ≤ '9' then some (c.toNat + 4)
  else if c = '+' then some 62
  else if c = '/' then some 63
  else none

namespace Bytes

/-- Four digits for each group of three bytes, the last group padded. -/
def base64Chars : Bytes → List Char
  | [] => []
  | [a] =>
    [base64Digit (a.toNat / 4), base64Digit (a.toNat % 4 * 16), '=', '=']
  | [a, b] =>
    [base64Digit (a.toNat / 4), base64Digit (a.toNat % 4 * 16 + b.toNat / 16),
      base64Digit (b.toNat % 16 * 4), '=']
  | a :: b :: c :: rest =>
    base64Digit (a.toNat / 4) :: base64Digit (a.toNat % 4 * 16 + b.toNat / 16) ::
      base64Digit (b.toNat % 16 * 4 + c.toNat / 64) :: base64Digit (c.toNat % 64) ::
      base64Chars rest

/-- The text in base 64. -/
def toBase64 (bytes : Bytes) : String := String.ofList bytes.base64Chars

/-- Reads groups of four digits. -/
def ofBase64Chars? : List Char → Option Bytes
  | [] => some []
  | w :: x :: y :: z :: rest => do
    let a ← base64Value? w
    let b ← base64Value? x
    if y = '=' then
      if z = '=' ∧ rest = [] ∧ b % 16 = 0 then pure [UInt8.ofNat (a * 4 + b / 16)] else none
    else
      let c ← base64Value? y
      if z = '=' then
        if rest = [] ∧ c % 4 = 0 then
          pure [UInt8.ofNat (a * 4 + b / 16), UInt8.ofNat (b % 16 * 16 + c / 4)]
        else none
      else
        let d ← base64Value? z
        let tail ← ofBase64Chars? rest
        pure (UInt8.ofNat (a * 4 + b / 16) :: UInt8.ofNat (b % 16 * 16 + c / 4) ::
          UInt8.ofNat (c % 4 * 64 + d) :: tail)
  | _ => none

end Bytes

end Telemetry
