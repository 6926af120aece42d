import Telemetry.Bytes.Hex
import Telemetry.Yaml.Cursor

/-!
# Scalars of YAML as they are written

* `Cursor.plainScalar`: a scalar without quotes.
* `Cursor.quotedScalar`: a scalar between quotes; double ones know escapes.
* `Cursor.blockScalar`: the lines below `|` or `>`.

Each one takes the scalar at a place and gives its text and the place after it, or `none` if it is
malformed. Inside plain and quoted scalars a single line break counts as a space and more of them as
one less.
-/

namespace Telemetry.Yaml.Cursor

/-- White space between two words of a scalar: the blanks of one line, or the first line break and
the others after it. `broken` tells that there was a line break, an escaped one included. -/
structure Gap where
  blanks : List Char
  first : List Char
  others : List Char
  broken : Bool

/-- No white space. -/
def Gap.none : Gap := ⟨[], [], [], false⟩

/-- The text that a gap stands for. -/
def Gap.text (g : Gap) : List Char :=
  if g.broken then
    if g.first = ['\n'] then (if g.others.isEmpty then [' '] else g.others)
    else g.first ++ g.others
  else g.blanks

/-- Takes white space. In a block, a tab may not stand in the indentation, that is, before column
`indent`. -/
def takeGap (indent : Nat) : (fuel : Nat) → Gap → Cursor → Option (Gap × Cursor)
  | 0, g, c => some (g, c)
  | fuel + 1, g, c =>
    match c.rest with
    | [] => some (g, c)
    | b :: _ =>
      if isBlank b then
        if g.broken && c.column < indent && b == '\t' then .none
        else
          takeGap indent fuel (if g.broken then g else { g with blanks := g.blanks ++ [b] }) c.skip
      else if isBreak b then
        let (taken, c) := c.takeBreak
        if g.broken then takeGap indent fuel { g with others := g.others ++ taken } c
        else takeGap indent fuel { g with blanks := [], first := taken, broken := true } c
      else some (g, c)

/-! ## Plain scalars -/

/-- The brackets and the comma of flow collections. -/
def isFlowMark (c : Char) : Bool := c == ',' || c == '[' || c == ']' || c == '\x7b' || c == '\x7d'

/-- Takes the characters of a plain scalar up to white space or to what ends it; `none` for a colon
that may not stand in a flow collection. -/
def plainWord (inFlow : Bool) : (fuel : Nat) → Cursor → Option (List Char × Cursor)
  | 0, c => some ([], c)
  | fuel + 1, c =>
    match c.rest with
    | [] => some ([], c)
    | d :: rest =>
      if isBlank d || isBreak d then some ([], c)
      else if inFlow && d == ':' && startsWith (fun e => isFlowMark e || e == '?') rest then none
      else if d == ':' && atGap rest then some ([], c)
      else if inFlow && isFlowMark d then some ([], c)
      else (plainWord inFlow fuel c.skip).map fun (word, c) => (d :: word, c)

/-- Takes words and the gaps between them. The text ends before the last gap; `true` tells that
this gap held a line break. -/
def plainWords (inFlow : Bool) (indent : Nat) (text : List Char) (gap : Gap) :
    (fuel : Nat) → Cursor → Option (List Char × Bool × Cursor)
  | 0, c => some (text, gap.broken, c)
  | fuel + 1, c =>
    if c.atMarker || startsWith (· == '#') c.rest then some (text, gap.broken, c)
    else do
      let (word, c) ← plainWord inFlow (c.rest.length + 1) c
      let (text, gap) := if word.isEmpty then (text, gap) else (text ++ gap.text ++ word, Gap.none)
      if startsWith (fun d => isBlank d || isBreak d) c.rest then
        let (gap, c) ← takeGap indent (c.rest.length + 1) gap c
        if !inFlow && c.column < indent then pure (text, gap.broken, c)
        else plainWords inFlow indent text gap fuel c
      else pure (text, gap.broken, c)

/-- Takes a plain scalar inside a block indented by `indent - 1`. -/
def plainScalar (inFlow : Bool) (indent : Nat) (c : Cursor) : Option (List Char × Bool × Cursor) :=
  plainWords inFlow indent [] Gap.none (c.rest.length + 1) c

/-! ## Quoted scalars -/

/-- The character of a one-letter escape. -/
def simpleEscape? (c : Char) : Option Char :=
  match c with
  | '0' => some '\x00'
  | 'a' => some '\x07'
  | 'b' => some '\x08'
  | 't' => some '\t'
  | '\t' => some '\t'
  | 'n' => some '\n'
  | 'v' => some '\x0b'
  | 'f' => some '\x0c'
  | 'r' => some '\r'
  | 'e' => some '\x1b'
  | ' ' => some ' '
  | '\x22' => some '\x22'
  | '/' => some '/'
  | '\\' => some '\\'
  | 'N' => some (Char.ofNat 0x85)
  | '_' => some (Char.ofNat 0xA0)
  | 'L' => some (Char.ofNat 0x2028)
  | 'P' => some (Char.ofNat 0x2029)
  | _ => none

/-- The number of digits after the letter of an escape by number. -/
def escapeDigits? (c : Char) : Option Nat :=
  if c = 'x' then some 2 else if c = 'u' then some 4 else if c = 'U' then some 8 else none

/-- The number that `n` digits of base 16 denote. -/
def hexNumber? (n : Nat) (cs : List Char) : Option Nat :=
  if cs.length < n then none
  else (cs.take n).foldl (fun value c => do
    let v ← value
    let d ← hexValue? c
    pure (v * 16 + d)) (some 0)

/-- The escape after a backslash: its character and the place after it. -/
def escape? (c : Cursor) : Option (Char × Cursor) :=
  match c.rest with
  | [] => none
  | e :: rest =>
    match escapeDigits? e with
    | some n => do
      let value ← hexNumber? n rest
      if (0xD800 ≤ value ∧ value ≤ 0xDFFF) ∨ 0x10FFFF < value then none
      else pure (Char.ofNat value, c.skipMany (n + 1))
    | none => (simpleEscape? e).map fun d => (d, c.skip)

/-- Takes the characters of a quoted scalar up to white space or the closing quote. `true` tells
that an escaped line break ended them. -/
def quotedWord (quote : Char) : (fuel : Nat) → Cursor → Option (List Char × Bool × Cursor)
  | 0, _ => none
  | fuel + 1, c =>
    let next (d : Char) (c : Cursor) : Option (List Char × Bool × Cursor) :=
      (quotedWord quote fuel c).map fun (word, ended, c) => (d :: word, ended, c)
    match c.rest with
    | [] => some ([], false, c)
    | d :: rest =>
      if isBlank d || isBreak d then some ([], false, c)
      else if quote == '\'' && d == '\'' && startsWith (· == '\'') rest then
        next d (c.skipMany 2)
      else if d == quote then some ([], false, c)
      else if quote == '\x22' && d == '\\' then
        if startsWith isBreak rest then some ([], true, c.skip.skipBreak)
        else do
          let (e, c) ← escape? c.skip
          next e c
      else next d c.skip

/-- Takes words and the gaps between them up to the closing quote. -/
def quotedWords (quote : Char) (text : List Char) :
    (fuel : Nat) → Cursor → Option (List Char × Cursor)
  | 0, _ => none
  | fuel + 1, c =>
    if c.atMarker || c.rest.isEmpty then none
    else do
      let (word, broken, c) ← quotedWord quote (c.rest.length + 1) c
      if startsWith (· == quote) c.rest then pure (text ++ word, c.skip)
      else
        let (gap, c) ← takeGap 0 (c.rest.length + 1) { Gap.none with broken } c
        quotedWords quote (text ++ word ++ gap.text) fuel c

/-- Takes a scalar between quotes. -/
def quotedScalar (quote : Char) (c : Cursor) : Option (List Char × Cursor) :=
  quotedWords quote [] (c.rest.length + 1) c.skip

/-! ## Block scalars -/

/-- What happens to the line breaks at the end of a block scalar. -/
inductive Chomping where
  | strip
  | clip
  | keep
  deriving DecidableEq

/-- The chomping that a sign asks for. -/
def chomping? (c : Char) : Option Chomping :=
  if c = '+' then some .keep else if c = '-' then some .strip else none

/-- The depth of indentation that a digit asks for; zero is none. -/
def indentDigit? (c : Char) : Option Nat :=
  if '1' ≤ c ∧ c ≤ '9' then some (c.toNat - 48) else none

/-- Takes the sign and the digit after `|` or `>`, in either order and both optional. -/
def blockHeader (c : Cursor) : Option (Chomping × Option Nat × Cursor) :=
  let digit (c : Cursor) : Option (Option Nat × Cursor) :=
    match c.rest with
    | d :: _ =>
      if d = '0' then none
      else match indentDigit? d with
        | some n => some (some n, c.skip)
        | none => some (none, c)
    | [] => some (none, c)
  match c.rest.head? >>= chomping? with
  | some chomping => (digit c.skip).map fun (n, c) => (chomping, n, c)
  | none => (digit c).map fun (n, c) =>
    if n.isSome then
      match c.rest.head? >>= chomping? with
      | some chomping => (chomping, n, c.skip)
      | none => (.clip, n, c)
    else (.clip, n, c)

/-- Takes empty lines and the indentation of the line after them, up to column `indent` if that is
known. Gives the breaks and the largest column met; `none` for a tab in the indentation. -/
def blockBreaks (indent : Option Nat) (breaks : List Char) (widest : Nat) :
    (fuel : Nat) → Cursor → Option (List Char × Nat × Cursor)
  | 0, c => some (breaks, widest, c)
  | fuel + 1, c =>
    let inIndent (c : Cursor) : Bool := match indent with
      | some n => c.column < n
      | none => true
    let spaces := c.rest.takeWhile (· == ' ')
    let c := c.skipMany (match indent with
      | some n => min spaces.length (n - c.column)
      | none => spaces.length)
    let widest := max widest c.column
    if inIndent c && startsWith (· == '\t') c.rest then none
    else if startsWith isBreak c.rest then
      let (taken, c) := c.takeBreak
      blockBreaks indent (breaks ++ taken) widest fuel c
    else some (breaks, widest, c)

/-- Takes the lines of a block scalar. `brk` is the break after the last line, `breaks` those of the
empty lines after it, `blank` tells that the last line began with a blank. -/
def blockLines (literal : Bool) (indent : Nat) (text brk breaks : List Char) (blank : Bool) :
    (fuel : Nat) → Cursor → Option (List Char × List Char × List Char × Cursor)
  | 0, c => some (text, brk, breaks, c)
  | fuel + 1, c =>
    if c.column == indent && !c.rest.isEmpty then do
      let nowBlank := startsWith isBlank c.rest
      let joint :=
        if !literal && brk == ['\n'] && !blank && !nowBlank then
          if breaks.isEmpty then [' '] else []
        else brk
      let (line, c) := c.takeWhile fun d => !isBreak d
      let (brk, c) := c.takeBreak
      let next ← blockBreaks (some indent) [] 0 (c.rest.length + 1) c
      blockLines literal indent (text ++ joint ++ breaks ++ line) brk next.1 nowBlank fuel next.2.2
    else some (text, brk, breaks, c)

/-- Takes a block scalar inside a block indented by `outer`. -/
def blockScalar (outer : Int) (c : Cursor) : Option (List Char × Cursor) := do
  let literal := startsWith (· == '|') c.rest
  let (chomping, depth, c) ← blockHeader c.skip
  let c := (c.skipWhile isBlank).skipComment
  if !atLineEnd c.rest then none
  else
    let c := c.skipBreak
    let known := depth.map fun n => if 0 ≤ outer then outer.toNat + n else n
    let (breaks, widest, c) ← blockBreaks known [] 0 (c.rest.length + 1) c
    let indent := match known with
      | some n => n
      | none => max widest (max (outer + 1).toNat 1)
    let (text, brk, breaks, c) ←
      blockLines literal indent [] [] breaks false (c.rest.length + 1) c
    let ending := match chomping with
      | .strip => []
      | .clip => brk
      | .keep => brk ++ breaks
    pure (text ++ ending, c)

end Telemetry.Yaml.Cursor
