import Telemetry.Bytes.Hex
import Telemetry.Yaml.Cursor

/-!
# Names, tags and directives of YAML

* `Cursor.name`: the name of an anchor or an alias.
* `Cursor.tag`: a tag, as its handle and the bytes of its suffix.
* `Cursor.versionNumber`, `Cursor.shorthand`: what the two directives hold.

Each one takes what stands at a place and gives the place after it, or `none` if it is malformed.
-/

namespace Telemetry.Yaml.Cursor

/-- Takes the name after `&` or `*`, which has to end at a gap or an indicator. -/
def name (c : Cursor) : Option (List Char × Cursor) :=
  let (name, c) := c.skip.takeWhile isNameChar
  let closed := atGap c.rest ||
    startsWith (fun d => ['?', ':', ',', ']', '\x7d', '%', '@', '\x60'].contains d) c.rest
  if name.isEmpty || !closed then none else some (name, c)

/-! ## Tags -/

/-- Takes a handle: `!`, or a name between two of them, or the beginning of a local tag. -/
def handle (c : Cursor) : Option (List Char × Cursor) :=
  if startsWith (· == '!') c.rest then
    let (name, c) := c.skip.takeWhile isNameChar
    if startsWith (· == '!') c.rest then some ('!' :: name ++ ['!'], c.skip)
    else some ('!' :: name, c)
  else none

/-- The characters of a tag; verbatim ones may hold some flow marks too. -/
def isTagChar (verbatim : Bool) (c : Char) : Bool :=
  isNameChar c ||
    [';', '/', '?', ':', '@', '&', '=', '+', '$', '.', '%', '!', '~', '*', '\'', '(',
      ')'].contains c ||
    (verbatim && [',', '[', ']'].contains c)

/-- The byte of a percent escape. -/
def escapedByte? : List Char → Option UInt8
  | '%' :: h :: l :: _ => do
    let high ← hexValue? h
    let low ← hexValue? l
    pure (UInt8.ofNat (high * 16 + low))
  | _ => none

/-- The number of bytes of the UTF-8 form of a character with the given first byte. -/
def encodedLength? (lead : UInt8) : Option Nat :=
  if lead < 0x80 then some 1
  else if lead &&& 0xE0 == 0xC0 then some 2
  else if lead &&& 0xF0 == 0xE0 then some 3
  else if lead &&& 0xF8 == 0xF0 then some 4
  else none

/-- Takes `n` escapes of bytes that continue a character. -/
def continuation : Nat → Cursor → Option (Bytes × Cursor)
  | 0, c => some ([], c)
  | n + 1, c => do
    let byte ← escapedByte? c.rest
    if byte &&& 0xC0 == 0x80 then
      let (more, c) ← continuation n (c.skipMany 3)
      pure (byte :: more, c)
    else none

/-- Takes the escapes of one character. Their number and the high bits of each byte have to be
right, but nothing else about the character is checked. -/
def escapedChar (c : Cursor) : Option (Bytes × Cursor) := do
  let lead ← escapedByte? c.rest
  let n ← encodedLength? lead
  let (more, c) ← continuation (n - 1) (c.skipMany 3)
  pure (lead :: more, c)

/-- The bytes of characters of ASCII. -/
def asciiBytes (cs : List Char) : Bytes := cs.map fun c => UInt8.ofNat c.toNat

/-- Takes the characters of a tag, as bytes. -/
def tagBytes (verbatim : Bool) (taken : Bytes) :
    (fuel : Nat) → Cursor → Option (Bytes × Cursor)
  | 0, c => some (taken, c)
  | fuel + 1, c =>
    match c.rest with
    | [] => some (taken, c)
    | d :: _ =>
      if d == '%' then do
        let (decoded, c) ← escapedChar c
        tagBytes verbatim (taken ++ decoded) fuel c
      else if isTagChar verbatim d then
        tagBytes verbatim (taken ++ asciiBytes [d]) fuel c.skip
      else some (taken, c)

/-- A byte string up to its first zero, where it ends for whoever reads it. -/
def untilZero (bytes : Bytes) : Bytes := bytes.takeWhile (· != 0)

/-- Takes a tag: `!<…>`, or a handle and a suffix. A tag with the handle `!` keeps the rest as its
suffix, and `!` alone has no handle. -/
def tag (c : Cursor) : Option (List Char × Bytes × Cursor) :=
  match c.rest with
  | '!' :: '<' :: _ => do
    let c := c.skipMany 2
    let (suffix, c) ← tagBytes true [] (c.rest.length + 1) c
    if suffix.isEmpty || !startsWith (· == '>') c.rest then none
    else pure ([], untilZero suffix, c.skip)
  | _ => do
    let (handle, c) ← c.handle
    if 1 < handle.length ∧ handle.getLast? = some '!' then
      let (suffix, c) ← tagBytes false [] (c.rest.length + 1) c
      if suffix.isEmpty then none else pure (handle, untilZero suffix, c)
    else
      let (suffix, c) ← tagBytes false (asciiBytes (handle.drop 1)) (c.rest.length + 1) c
      let suffix := untilZero suffix
      if suffix.isEmpty then pure ([], asciiBytes ['!'], c) else pure (['!'], suffix, c)

/-! ## Directives -/

/-- Takes a number of at most nine digits. -/
def shortNumber (c : Cursor) : Option (Nat × Cursor) :=
  let (digits, c) := c.takeWhile fun d => '0' ≤ d && d ≤ '9'
  if digits.isEmpty || 9 < digits.length then none
  else some (digits.foldl (fun n d => n * 10 + (d.toNat - 48)) 0, c)

/-- Takes the two numbers of a version. -/
def versionNumber (c : Cursor) : Option (Nat × Nat × Cursor) := do
  let (major, c) ← (c.skipWhile isBlank).shortNumber
  if startsWith (· == '.') c.rest then
    let (minor, c) ← c.skip.shortNumber
    pure (major, minor, c)
  else none

/-- Takes a handle and what it stands for. -/
def shorthand (c : Cursor) : Option (List Char × Bytes × Cursor) := do
  let (handle, c) ← (c.skipWhile isBlank).handle
  if handle ≠ ['!'] ∧ handle.getLast? ≠ some '!' then none
  else if !startsWith isBlank c.rest then none
  else
    let c := c.skipWhile isBlank
    let (expansion, c) ← tagBytes true [] (c.rest.length + 1) c
    if expansion.isEmpty || !atGap c.rest then none
    else pure (handle, untilZero expansion, c)

end Telemetry.Yaml.Cursor
