import Telemetry.Bytes.Hex

/-!
# Gzip

* `Bytes.crc32`: the checksum of a byte string, bits taken from the lowest on, by the polynomial
  `0xEDB88320`.
* `Gzip.compress`: a byte string as a gzip member: header, deflate blocks, checksum and length. The
  blocks are stored ones, which hold the bytes as they are.
* `Gzip.decompress?`: the byte string of such a member, if checksum and length agree with it.
-/

namespace Telemetry

/-! ## Checksums -/

/-- The register after one more bit. -/
def crcBit (r : UInt32) : UInt32 :=
  if r &&& 1 == 1 then (r >>> 1) ^^^ 0xEDB88320 else r >>> 1

/-- The register after `n` more bits. -/
def crcBits : Nat → UInt32 → UInt32
  | 0, r => r
  | n + 1, r => crcBits n (crcBit r)

/-- The register after one more byte. -/
def crcByte (r : UInt32) (b : UInt8) : UInt32 := crcBits 8 (r ^^^ b.toUInt32)

/-- The checksum of a byte string. -/
def Bytes.crc32 (b : Bytes) : UInt32 := b.foldl crcByte 0xFFFFFFFF ^^^ 0xFFFFFFFF

/-! ## Members -/

namespace Gzip

/-- The header: deflate, no flags, no time, unknown system. -/
def header : Bytes := [0x1f, 0x8b, 8, 0, 0, 0, 0, 0, 0, 0xff]

/-- The `width` bytes of a number, the lowest first. -/
def littleEndian : (width : Nat) → Nat → Bytes
  | 0, _ => []
  | width + 1, n => UInt8.ofNat n :: littleEndian width (n / 256)

/-- The number of bytes, the lowest first. -/
def ofLittleEndian : Bytes → Nat
  | [] => 0
  | b :: rest => b.toNat + 256 * ofLittleEndian rest

/-- The largest number of bytes in a stored block. -/
def maxBlock : Nat := 65535

/-- A stored block; the last one is marked. -/
def block (last : Bool) (content : Bytes) : Bytes :=
  UInt8.ofNat last.toNat :: littleEndian 2 content.length ++
    littleEndian 2 (maxBlock - content.length) ++ content

/-- The blocks of a byte string, which `fuel` bounds in number. -/
def blocks : (fuel : Nat) → Bytes → Bytes
  | 0, b => block true b
  | fuel + 1, b =>
    if b.length ≤ maxBlock then block true b
    else block false (b.take maxBlock) ++ blocks fuel (b.drop maxBlock)

/-- The trailer: checksum and length, both modulo `2 ^ 32`. -/
def trailer (b : Bytes) : Bytes := littleEndian 4 b.crc32.toNat ++ littleEndian 4 b.length

/-- A byte string as a gzip member. -/
def compress (b : Bytes) : Bytes := header ++ blocks b.length b ++ trailer b

/-- Reads stored blocks, and gives their content and what follows them. -/
def readBlocks : (fuel : Nat) → Bytes → Option (Bytes × Bytes)
  | 0, _ => none
  | fuel + 1, b =>
    match b with
    | mark :: rest =>
      let size := ofLittleEndian (rest.take 2)
      let check := ofLittleEndian ((rest.drop 2).take 2)
      let body := rest.drop 4
      if mark.toNat < 2 ∧ size + check = maxBlock ∧ size ≤ body.length then
        if mark = 1 then some (body.take size, body.drop size)
        else (readBlocks fuel (body.drop size)).map fun (more, after) =>
          (body.take size ++ more, after)
      else none
    | [] => none

/-- The byte string of a gzip member made of stored blocks. -/
def decompress? (b : Bytes) : Option Bytes :=
  if b.take header.length = header then
    match readBlocks b.length (b.drop header.length) with
    | some (content, rest) => if rest = trailer content then some content else none
    | none => none
  else none

end Gzip

end Telemetry
