/-!
# Places in a YAML text

* `Yaml.isAllowed`: the characters a YAML text may hold.
* `Yaml.Cursor`: the text that is left, with its line and its column in characters and the number
  of bytes before it.
* `Cursor.skip`, `Cursor.takeBreak`: stepping over a character and over a line break.
-/

namespace Telemetry.Yaml

/-- The characters a YAML text may hold. -/
def isAllowed (c : Char) : Bool :=
  let n := c.toNat
  n == 0x9 || n == 0xA || n == 0xD || (0x20 ≤ n && n ≤ 0x7E) || n == 0x85 ||
    (0xA0 ≤ n && n ≤ 0xD7FF) || (0xE000 ≤ n && n ≤ 0xFFFD) || 0x10000 ≤ n

/-- The byte order mark. -/
def byteOrderMark : Char := Char.ofNat 0xFEFF

/-- A space or a tab. -/
def isBlank (c : Char) : Bool := c == ' ' || c == '\t'

/-- A line break. -/
def isBreak (c : Char) : Bool :=
  let n := c.toNat
  n == 0xA || n == 0xD || n == 0x85 || n == 0x2028 || n == 0x2029

/-- The characters of names: ASCII letters and digits, `_` and `-`. -/
def isNameChar (c : Char) : Bool :=
  ('a' ≤ c && c ≤ 'z') || ('A' ≤ c && c ≤ 'Z') || ('0' ≤ c && c ≤ '9') || c == '_' || c == '-'

/-- Whether a text begins with a character of a class. -/
def startsWith (p : Char → Bool) : List Char → Bool
  | [] => false
  | c :: _ => p c

/-- Whether a text begins with a line break or is at its end. -/
def atLineEnd (cs : List Char) : Bool := cs.isEmpty || startsWith isBreak cs

/-- Whether a text begins with a blank or a line break or is at its end. -/
def atGap (cs : List Char) : Bool := cs.isEmpty || startsWith (fun c => isBlank c || isBreak c) cs

/-- What is left of a text, and where it begins. -/
structure Cursor where
  rest : List Char
  line : Nat
  column : Nat
  /-- The number of bytes before it. -/
  index : Nat

namespace Cursor

/-- The beginning of a text. -/
def start (cs : List Char) : Cursor := ⟨cs, 0, 0, 0⟩

/-- The place after the next character, which is no line break. -/
def skip (c : Cursor) : Cursor :=
  match c.rest with
  | [] => c
  | d :: rest => { c with rest, column := c.column + 1, index := c.index + d.utf8Size }

/-- The place after the next `n` characters. -/
def skipMany : Nat → Cursor → Cursor
  | 0, c => c
  | n + 1, c => skipMany n c.skip

/-- The place after `taken`, which holds no line break. -/
def after (c : Cursor) (taken : List Char) : Cursor := c.skipMany taken.length

/-- Takes the characters of a class, of which none is a line break. -/
def takeWhile (p : Char → Bool) (c : Cursor) : List Char × Cursor :=
  let taken := c.rest.takeWhile p
  (taken, c.after taken)

/-- The place after the characters of a class, of which none is a line break. -/
def skipWhile (p : Char → Bool) (c : Cursor) : Cursor := (c.takeWhile p).2

/-- Takes a line break, if there is one. All breaks count as a line feed but the line and the
paragraph separator, which stay what they are. -/
def takeBreak (c : Cursor) : List Char × Cursor :=
  match c.rest with
  | '\r' :: '\n' :: rest => (['\n'], ⟨rest, c.line + 1, 0, c.index + 2⟩)
  | b :: rest =>
    if isBreak b then
      (if b.toNat = 0x2028 ∨ b.toNat = 0x2029 then [b] else ['\n'],
        ⟨rest, c.line + 1, 0, c.index + b.utf8Size⟩)
    else ([], c)
  | [] => ([], c)

/-- The place after a line break, if there is one. -/
def skipBreak (c : Cursor) : Cursor := c.takeBreak.2

/-- The place after a comment, if there is one. -/
def skipComment (c : Cursor) : Cursor :=
  if startsWith (· == '#') c.rest then c.skipWhile fun d => !isBreak d else c

/-- Whether a document marker stands here: three dashes or three points at the start of a line. -/
def atMarker (c : Cursor) : Bool :=
  c.column == 0 && match c.rest with
    | '-' :: '-' :: '-' :: rest => atGap rest
    | '.' :: '.' :: '.' :: rest => atGap rest
    | _ => false

end Cursor

end Telemetry.Yaml
