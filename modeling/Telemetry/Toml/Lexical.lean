import Telemetry.Bytes.Hex
import Telemetry.Decimal.Read

/-!
# Blanks, comments, texts and keys of TOML

* `Toml.skipBlanks`, `Toml.skipLines`, `Toml.endOfLine`: what may stand between the marks.
* `Toml.quotedText`: the four kinds of quoted texts.
* `Toml.keyPath`: a key, or several joined by dots.

Each one takes a piece from the front of a text and gives what is left, or `none` if the text is
malformed.
-/

namespace Telemetry.Toml

/-- A space or a tab. -/
def isBlank (c : Char) : Bool := c == ' ' || c == '\t'

/-- The text after its first blanks. -/
def skipBlanks (cs : List Char) : List Char := cs.dropWhile isBlank

/-- A character of a comment or a text: no control character but the tab. -/
def isVisible (c : Char) : Bool := c == '\t' || (0x20 ≤ c.toNat && c.toNat != 0x7F)

/-- The text after a line break; `none` if there is none. -/
def lineBreak? : List Char → Option (List Char)
  | '\n' :: rest => some rest
  | '\r' :: '\n' :: rest => some rest
  | _ => none

/-- The text after a comment, if there is one. -/
def skipComment (cs : List Char) : List Char :=
  match cs with
  | '#' :: rest => rest.dropWhile isVisible
  | cs => cs

/-- The text after blanks and a comment, which have to fill the line; the break is taken too. -/
def endOfLine (cs : List Char) : Option (List Char) :=
  let cs := skipComment (skipBlanks cs)
  if cs.isEmpty then some [] else lineBreak? cs

/-- The text after blanks, comments and line breaks. -/
def skipLines : (fuel : Nat) → List Char → List Char
  | 0, cs => cs
  | fuel + 1, cs =>
    let cs := skipComment (skipBlanks cs)
    match lineBreak? cs with
    | some rest => skipLines fuel rest
    | none => cs

/-! ## Quoted texts -/

/-- The character of a one-letter escape. -/
def simpleEscape? (c : Char) : Option Char :=
  match c with
  | 'b' => some '\x08'
  | 't' => some '\t'
  | 'n' => some '\n'
  | 'f' => some '\x0c'
  | 'r' => some '\r'
  | 'e' => some '\x1b'
  | '\x22' => some '\x22'
  | '\\' => some '\\'
  | _ => none

/-- The number of digits after the letter of an escape by number. -/
def escapeDigits? (c : Char) : Option Nat :=
  if c = 'x' then some 2 else if c = 'u' then some 4 else if c = 'U' then some 8 else none

/-- The character that the first `n` digits of base 16 denote. -/
def numberedChar? (n : Nat) (cs : List Char) : Option Char := do
  if cs.length < n then none
  else
    let digits ← (cs.take n).mapM hexValue?
    let value := digitsValue 16 digits
    if value < 0xD800 ∨ (0xDFFF < value ∧ value ≤ 0x10FFFF) then pure (Char.ofNat value) else none

/-- Takes an escape after its backslash. -/
def escape? : List Char → Option (Char × List Char)
  | [] => none
  | c :: rest =>
    match escapeDigits? c with
    | some n => (numberedChar? n rest).map fun d => (d, rest.drop n)
    | none => (simpleEscape? c).map fun d => (d, rest)

/-- Takes a text on one line up to its closing quote. -/
def lineText (quote : Char) (seen : List Char) :
    (fuel : Nat) → List Char → Option (List Char × List Char)
  | 0, _ => none
  | _, [] => none
  | fuel + 1, c :: rest =>
    if c = quote then some (seen.reverse, rest)
    else if c = '\\' ∧ quote = '\x22' then do
      let (d, rest) ← escape? rest
      lineText quote (d :: seen) fuel rest
    else if isVisible c then lineText quote (c :: seen) fuel rest
    else none

/-- The text after blanks and line breaks. -/
def skipGaps : (fuel : Nat) → List Char → List Char
  | 0, cs => cs
  | fuel + 1, cs =>
    match lineBreak? (skipBlanks cs) with
    | some rest => skipGaps fuel rest
    | none => skipBlanks cs

/-- The text after white space that holds a line break, which a backslash before it takes away. -/
def foldedBreak? (cs : List Char) : Option (List Char) :=
  (lineBreak? (skipBlanks cs)).map fun rest => skipGaps (rest.length + 1) rest

/-- Takes a text of several lines up to its three closing quotes; up to two more quotes before
these belong to the text. -/
def linesText (quote : Char) (seen : List Char) :
    (fuel : Nat) → List Char → Option (List Char × List Char)
  | 0, _ => none
  | _, [] => none
  | fuel + 1, c :: rest =>
    if c = quote then
      let quotes := (c :: rest).takeWhile (· == quote)
      let after := (c :: rest).dropWhile (· == quote)
      if quotes.length < 3 then linesText quote (quotes ++ seen) fuel after
      else if quotes.length ≤ 5 then some ((quotes.drop 3 ++ seen).reverse, after)
      else none
    else if c = '\\' ∧ quote = '\x22' then
      match foldedBreak? rest with
      | some rest => linesText quote seen fuel rest
      | none => do
        let (d, rest) ← escape? rest
        linesText quote (d :: seen) fuel rest
    else if c = '\n' then linesText quote (c :: seen) fuel rest
    else if c = '\r' then
      match rest with
      | '\n' :: rest => linesText quote ('\n' :: c :: seen) fuel rest
      | _ => none
    else if isVisible c then linesText quote (c :: seen) fuel rest
    else none

/-- Takes a quoted text. A line break right after three opening quotes is not part of it. -/
def quotedText (cs : List Char) : Option (String × List Char) :=
  match cs with
  | a :: b :: c :: rest =>
    if (a = '\x22' ∨ a = '\'') ∧ b = a ∧ c = a then
      let body := (lineBreak? rest).getD rest
      (linesText a [] (body.length + 1) body).map fun (s, after) => (String.ofList s, after)
    else if a = '\x22' ∨ a = '\'' then
      (lineText a [] (cs.length + 1) (b :: c :: rest)).map
        fun (s, after) => (String.ofList s, after)
    else none
  | a :: rest =>
    if a = '\x22' ∨ a = '\'' then
      (lineText a [] (cs.length + 1) rest).map fun (s, after) => (String.ofList s, after)
    else none
  | [] => none

/-! ## Keys -/

/-- The characters of keys without quotes. -/
def isBareChar (c : Char) : Bool :=
  ('a' ≤ c && c ≤ 'z') || ('A' ≤ c && c ≤ 'Z') || isDigit c || c == '_' || c == '-'

/-- Takes a key without dots; quotes of a key may not be threefold. -/
def simpleKey (cs : List Char) : Option (String × List Char) :=
  match cs with
  | '\x22' :: rest =>
    (lineText '\x22' [] (cs.length + 1) rest).map fun (s, after) => (String.ofList s, after)
  | '\'' :: rest =>
    (lineText '\'' [] (cs.length + 1) rest).map fun (s, after) => (String.ofList s, after)
  | cs =>
    let bare := cs.takeWhile isBareChar
    if bare.isEmpty then none else some (String.ofList bare, cs.dropWhile isBareChar)

/-- Takes keys joined by dots, and the blanks after them. -/
def keyParts : (fuel : Nat) → List Char → Option (List String × List Char)
  | 0, _ => none
  | fuel + 1, cs => do
    let (key, rest) ← simpleKey (skipBlanks cs)
    match skipBlanks rest with
    | '.' :: more => do
      let (path, rest) ← keyParts fuel more
      pure (key :: path, rest)
    | rest => pure ([key], rest)

/-- How many keys may be joined by dots. -/
def maxParts : Nat := 80

/-- Takes a key, or several joined by dots, and the blanks after it. -/
def keyPath (cs : List Char) : Option (List String × List Char) := do
  let (path, rest) ← keyParts (cs.length + 1) cs
  if maxParts < path.length then none else some (path, rest)

end Telemetry.Toml
