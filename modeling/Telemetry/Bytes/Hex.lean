import Telemetry.Binary64

/-!
# Base 16

* `Bytes`: a byte string.
* `Bytes.toHex`, `Bytes.ofHex?`: two lowercase digits per byte, high half first.
* `Bytes.ofString`, `Bytes.toString?`: the UTF-8 form of a text.
-/

namespace Telemetry

/-- A byte string. -/
abbrev Bytes := List UInt8

/-- The lowercase digit of a number below sixteen. -/
def hexDigit (n : Nat) : Char := if n < 10 then Char.ofNat (48 + n) else Char.ofNat (87 + n)

/-- The value of a digit of base 16, of either case. -/
def hexValue? (c : Char) : Option Nat :=
  if '0' ≤ c ∧ c ≤ '9' then some (c.toNat - 48)
  else if 'a' ≤ c ∧ c ≤ 'f' then some (c.toNat - 87)
  else if 'A' ≤ c ∧ c ≤ 'F' then some (c.toNat - 55)
  else none

namespace Bytes

/-- Two digits for each byte. -/
def hexChars (bytes : Bytes) : List Char :=
  bytes.flatMap fun b => [hexDigit (b.toNat / 16), hexDigit (b.toNat % 16)]

/-- Two digits for each byte, as a text. -/
def toHex (bytes : Bytes) : String := String.ofList bytes.hexChars

/-- Reads pairs of digits. -/
def ofHexChars? : List Char → Option Bytes
  | [] => some []
  | [_] => none
  | h :: l :: rest => do
    let high ← hexValue? h
    let low ← hexValue? l
    let bytes ← ofHexChars? rest
    pure (UInt8.ofNat (high * 16 + low) :: bytes)

/-- Reads pairs of digits from a text. -/
def ofHex? (s : String) : Option Bytes := ofHexChars? s.toList

/-- The UTF-8 form of a text. -/
def ofString (s : String) : Bytes := s.toUTF8.toList

/-- The text whose UTF-8 form the bytes are, if there is one. -/
def toString? (bytes : Bytes) : Option String := String.fromUTF8? (ByteArray.mk bytes.toArray)

end Bytes

/-- The number of bytes of the UTF-8 form of a list of characters. -/
def utf8Length : List Char → Nat
  | [] => 0
  | c :: cs => c.utf8Size + utf8Length cs

/-- A word in base 16, all sixteen digits. -/
def Binary64.toHex (x : Binary64) : String :=
  let digits := (Nat.toDigits 16 x.bits.toNat)
  String.ofList (List.replicate (16 - digits.length) '0' ++ digits)

end Telemetry
