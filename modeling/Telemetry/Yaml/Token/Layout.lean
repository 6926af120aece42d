import Telemetry.Yaml.Token.Scalar
import Telemetry.Yaml.Token.Tag

/-!
# The tokens of a YAML text

* `Yaml.Token`: the marks a YAML text consists of, with the beginnings and ends of blocks that its
  indentation stands for. Tags are byte strings, as their percent escapes need not be UTF-8.
* `Yaml.Layout`: the tokens found so far with what decides about the next ones: the indentation of
  the open blocks, the depth of flow collections, and where a key may have begun that only a colon
  after it will show.
* `Token.ofChars?`: the tokens of a text.

A simple key has to stand on one line and be at most 1024 bytes long.
-/

namespace Telemetry.Yaml

/-- A mark of a YAML text. -/
inductive Token where
  | version (major minor : Nat)
  | tagShorthand (handle : List Char) (expansion : Bytes)
  | documentStart
  | documentEnd
  | blockSequenceStart
  | blockMappingStart
  | blockEnd
  | flowSequenceStart
  | flowSequenceEnd
  | flowMappingStart
  | flowMappingEnd
  | blockEntry
  | flowEntry
  | key
  | value
  | alias (name : List Char)
  | anchor (name : List Char)
  | tag (handle : List Char) (suffix : Bytes)
  | scalar (plain : Bool) (text : List Char)
  deriving DecidableEq

/-- The place of a scalar or collection that is a key if a colon follows. -/
structure PossibleKey where
  /-- Whether it can be nothing else, as it stands at the indentation of its block. -/
  required : Bool
  /-- The number of tokens before it. -/
  position : Nat
  line : Nat
  column : Nat
  index : Nat

/-- The state of reading tokens. -/
structure Layout where
  cursor : Cursor
  /-- The tokens so far, the last one first. -/
  tokens : List Token
  /-- The column of the innermost open block, or `-1`. -/
  indent : Int
  /-- The columns of the blocks around it. -/
  outer : List Int
  /-- The number of open flow collections. -/
  flow : Nat
  /-- Whether a simple key may begin here. -/
  keyAllowed : Bool
  /-- The possible key of every open flow collection, the innermost first, and of the block. -/
  keys : List (Option PossibleKey)

namespace Layout

/-- The state at the beginning of a text. -/
def start (cs : List Char) : Layout := ⟨.start cs, [], -1, [], 0, true, [none]⟩

/-- Adds a token. -/
def add (t : Token) (s : Layout) : Layout := { s with tokens := t :: s.tokens }

/-- Puts a token behind the first `position` ones. -/
def insertAt (position : Nat) (t : Token) (s : Layout) : Layout :=
  let later := s.tokens.length - position
  { s with tokens := s.tokens.take later ++ t :: s.tokens.drop later }

/-- Adds a token for the next `n` characters. -/
def addSkipping (n : Nat) (t : Token) (s : Layout) : Layout :=
  { s.add t with cursor := s.cursor.skipMany n }

/-- Sets whether a simple key may begin here. -/
def allowKey (allowed : Bool) (s : Layout) : Layout := { s with keyAllowed := allowed }

/-! ## Simple keys -/

/-- Whether the text has gone on too far for a possible key. -/
def PossibleKey.isStale (k : PossibleKey) (c : Cursor) : Bool :=
  k.line < c.line || k.index + 1024 < c.index

/-- Gives up the possible keys that the text has left behind; `none` if one was required. -/
def dropStale (s : Layout) : Option Layout := do
  let keys ← s.keys.mapM fun key =>
    match key with
    | none => some none
    | some k =>
      if PossibleKey.isStale k s.cursor then (if k.required then none else some none)
      else some (some k)
  pure { s with keys }

/-- Gives up the possible key of the innermost collection; `none` if it was required. -/
def dropKey (s : Layout) : Option Layout :=
  match s.keys with
  | some k :: rest => if k.required then none else some { s with keys := none :: rest }
  | _ => some s

/-- Notes that a key may begin here. -/
def noteKey (s : Layout) : Option Layout :=
  if s.keyAllowed then
    (s.dropKey).map fun s =>
      let c := s.cursor
      let key : PossibleKey :=
        ⟨s.flow == 0 && s.indent == c.column, s.tokens.length, c.line, c.column, c.index⟩
      { s with keys := some key :: s.keys.drop 1 }
  else some s

/-! ## Blocks -/

/-- Opens a block at a column right of the innermost one, with its token behind the first
`position` ones or at the end. -/
def openBlock (column : Nat) (position : Option Nat) (t : Token) (s : Layout) : Layout :=
  if s.flow = 0 ∧ s.indent < column then
    let s := { s with indent := column, outer := s.indent :: s.outer }
    match position with
    | some p => s.insertAt p t
    | none => s.add t
  else s

/-- Closes the blocks right of a column, given the columns around the innermost one. -/
def closeTo (column : Int) : List Int → Layout → Layout
  | [], s => s
  | up :: more, s =>
    if column < s.indent then
      closeTo column more { s.add .blockEnd with indent := up, outer := more }
    else s

/-- Closes the blocks right of a column; none inside a flow collection. -/
def closeBlocks (column : Int) (s : Layout) : Layout :=
  if s.flow = 0 then closeTo column s.outer s else s

/-! ## Single tokens -/

/-- Skips blanks, comments and line breaks. After a break a simple key may begin again; where one
may begin, tabs are not skipped. A byte order mark at the start of a line is skipped too, but it
takes up a column. -/
def skipGap : (fuel : Nat) → Layout → Layout
  | 0, s => s
  | fuel + 1, s =>
    let c := s.cursor
    let c := if c.column = 0 && startsWith (· == byteOrderMark) c.rest then c.skip else c
    let tabs := s.flow != 0 || !s.keyAllowed
    let c := (c.skipWhile fun d => d == ' ' || (tabs && d == '\t')).skipComment
    if startsWith isBreak c.rest then
      skipGap fuel { s with cursor := c.skipBreak, keyAllowed := s.keyAllowed || s.flow == 0 }
    else { s with cursor := c }

/-- Takes a directive, which fills its line. -/
def directive (s : Layout) : Option Layout := do
  let s ← (s.closeBlocks (-1)).dropKey
  let (name, c) := s.cursor.skip.takeWhile isNameChar
  if !atGap c.rest then none
  else
    let (t, c) ←
      if name = ['Y', 'A', 'M', 'L'] then
        c.versionNumber.map fun (major, minor, c) => (Token.version major minor, c)
      else if name = ['T', 'A', 'G'] then
        c.shorthand.map fun (handle, expansion, c) => (Token.tagShorthand handle expansion, c)
      else none
    let c := (c.skipWhile isBlank).skipComment
    if !atLineEnd c.rest then none
    else pure { s.add t with cursor := c.skipBreak, keyAllowed := false }

/-- Takes a document marker. -/
def documentMarker (t : Token) (s : Layout) : Option Layout := do
  let s ← (s.closeBlocks (-1)).dropKey
  pure ((s.allowKey false).addSkipping 3 t)

/-- Takes the opening bracket of a flow collection. -/
def openFlow (t : Token) (s : Layout) : Option Layout := do
  let s ← s.noteKey
  let s := { s with flow := s.flow + 1, keys := none :: s.keys }
  pure ((s.allowKey true).addSkipping 1 t)

/-- Takes the closing bracket of a flow collection. -/
def closeFlow (t : Token) (s : Layout) : Option Layout := do
  let s ← s.dropKey
  let s := if s.flow = 0 then s else { s with flow := s.flow - 1, keys := s.keys.drop 1 }
  pure ((s.allowKey false).addSkipping 1 t)

/-- Takes the comma of a flow collection. -/
def flowEntry (s : Layout) : Option Layout := do
  let s ← s.dropKey
  pure ((s.allowKey true).addSkipping 1 .flowEntry)

/-- Takes the dash of a block entry. -/
def blockEntry (s : Layout) : Option Layout := do
  if s.flow = 0 ∧ !s.keyAllowed then none
  else
    let s ← (s.openBlock s.cursor.column none .blockSequenceStart).dropKey
    pure ((s.allowKey true).addSkipping 1 .blockEntry)

/-- Takes the question mark before a key. -/
def explicitKey (s : Layout) : Option Layout := do
  if s.flow = 0 ∧ !s.keyAllowed then none
  else
    let s ← (s.openBlock s.cursor.column none .blockMappingStart).dropKey
    pure ((s.allowKey (s.flow == 0)).addSkipping 1 .key)

/-- Takes the colon before a value. If what stands before it can be a simple key, the token of the
key is put in front of that. -/
def value (s : Layout) : Option Layout :=
  match s.keys with
  | some k :: rest =>
    let s := (s.insertAt k.position .key).openBlock k.column (some k.position) .blockMappingStart
    some (({ s with keys := none :: rest }.allowKey false).addSkipping 1 .value)
  | _ =>
    if s.flow = 0 ∧ !s.keyAllowed then none
    else
      let s := s.openBlock s.cursor.column none .blockMappingStart
      some ((s.allowKey (s.flow == 0)).addSkipping 1 .value)

/-- Takes an alias or an anchor. -/
def named (t : List Char → Token) (s : Layout) : Option Layout := do
  let s ← s.noteKey
  let (name, cursor) ← s.cursor.name
  pure { (s.add (t name)).allowKey false with cursor }

/-- Takes a tag, which has to end at a gap or before the comma of a flow collection. -/
def tag (s : Layout) : Option Layout := do
  let s ← s.noteKey
  let (handle, suffix, cursor) ← s.cursor.tag
  if atGap cursor.rest || (s.flow != 0 && startsWith (· == ',') cursor.rest) then
    pure { (s.add (.tag handle suffix)).allowKey false with cursor }
  else none

/-- Takes a block scalar. -/
def blockScalar (s : Layout) : Option Layout := do
  let s ← s.dropKey
  let (text, cursor) ← s.cursor.blockScalar s.indent
  pure { (s.add (.scalar false text)).allowKey true with cursor }

/-- Takes a quoted scalar. -/
def quotedScalar (quote : Char) (s : Layout) : Option Layout := do
  let s ← s.noteKey
  let (text, cursor) ← s.cursor.quotedScalar quote
  pure { (s.add (.scalar false text)).allowKey false with cursor }

/-- Takes a plain scalar. If a line break follows it, a simple key may begin after that. -/
def plainScalar (s : Layout) : Option Layout := do
  let s ← s.noteKey
  let (text, broken, cursor) ← s.cursor.plainScalar (s.flow != 0) (s.indent + 1).toNat
  pure { (s.add (.scalar true text)).allowKey broken with cursor }

/-- Whether a plain scalar may begin with `c`, `rest` being what follows. -/
def startsPlain (inFlow : Bool) (c : Char) (rest : List Char) : Bool :=
  let indicators := ['-', '?', ':', ',', '[', ']', '\x7b', '\x7d', '#', '&', '*', '!', '|', '>',
    '\'', '\x22', '%', '@', '\x60']
  !(isBlank c || isBreak c || indicators.contains c) ||
    (c == '-' && !startsWith isBlank rest) ||
    (!inFlow && (c == '?' || c == ':') && !atGap rest)

/-- Takes the next token that begins with `c`. -/
def token (c : Char) (rest : List Char) (s : Layout) : Option Layout :=
  let inFlow := s.flow != 0
  if s.cursor.column = 0 ∧ c = '%' then s.directive
  else if s.cursor.atMarker then
    s.documentMarker (if c = '-' then .documentStart else .documentEnd)
  else if c = '[' then s.openFlow .flowSequenceStart
  else if c = '\x7b' then s.openFlow .flowMappingStart
  else if c = ']' then s.closeFlow .flowSequenceEnd
  else if c = '\x7d' then s.closeFlow .flowMappingEnd
  else if c = ',' then s.flowEntry
  else if c = '-' ∧ atGap rest then s.blockEntry
  else if c = '?' ∧ (inFlow || atGap rest) then s.explicitKey
  else if c = ':' ∧ (inFlow || atGap rest) then s.value
  else if c = '*' then s.named .alias
  else if c = '&' then s.named .anchor
  else if c = '!' then s.tag
  else if (c = '|' ∨ c = '>') ∧ !inFlow then s.blockScalar
  else if c = '\'' ∨ c = '\x22' then s.quotedScalar c
  else if startsPlain inFlow c rest then s.plainScalar
  else none

/-- The end of the text, which closes all blocks. -/
def finish (s : Layout) : Option (List Token) := do
  let s ← (s.closeBlocks (-1)).dropKey
  pure s.tokens.reverse

/-- Takes token after token to the end. Each one takes a character, so the length of the text is
enough fuel. -/
def run : (fuel : Nat) → Layout → Option (List Token)
  | 0, _ => none
  | fuel + 1, s => do
    let s ← (s.skipGap (s.cursor.rest.length + 1)).dropStale
    let s := s.closeBlocks s.cursor.column
    match s.cursor.rest with
    | [] => s.finish
    | c :: rest =>
      let s ← s.token c rest
      run fuel s

end Layout

/-- The tokens of a text; `none` if it is no YAML. -/
def Token.ofChars? (cs : List Char) : Option (List Token) :=
  if cs.all isAllowed then (Layout.start cs).run (cs.length + 1) else none

end Telemetry.Yaml
