/-!
# References in texts

* `Reference.Piece`: what a text consists of: characters, the escape `$$`, and references to
  variables: `${NAME}`, `${env:NAME}`, `${NAME:-FALLBACK}` and `${env:NAME:-FALLBACK}`.
* `Reference.token?`: the escape or reference at the front of a text.
* `Reference.pieces`: the pieces of a text, from left to right. A character stands for itself only
  if no escape or reference begins at it.
-/

namespace Telemetry.Reference

/-- A character that may begin the name of a variable. -/
def isNameStart (c : Char) : Bool :=
  ('A' ≤ c && c ≤ 'Z') || ('a' ≤ c && c ≤ 'z') || c == '_'

/-- A character of the name of a variable. -/
def isNameChar (c : Char) : Bool := isNameStart c || ('0' ≤ c && c ≤ '9')

/-- A piece of a text. -/
inductive Piece where
  /-- A character that stands for itself. -/
  | literal (c : Char)
  /-- Two dollar signs, which stand for one. -/
  | escape
  /-- A reference to a variable; `marked` ones carry the mark `env:`. -/
  | reference (marked : Bool) (name : List Char) (fallback : Option (List Char))
  deriving DecidableEq

namespace Piece

/-- The mark of a marked reference. -/
def mark (marked : Bool) : List Char := if marked then ['e', 'n', 'v', ':'] else []

/-- A fallback with the mark before it. -/
def fallbackChars : Option (List Char) → List Char
  | none => []
  | some fallback => ':' :: '-' :: fallback

/-- A piece as it is written. -/
def chars : Piece → List Char
  | .literal c => [c]
  | .escape => ['$', '$']
  | .reference marked name fallback =>
    '$' :: '\x7b' :: mark marked ++ name ++ fallbackChars fallback ++ ['\x7d']

/-- Whether a piece is a character that stands for itself. -/
def isLiteral : Piece → Bool
  | .literal _ => true
  | _ => false

end Piece

/-- Reads the name, the fallback and the closing brace of a reference. -/
def body? (marked : Bool) (cs : List Char) : Option Piece :=
  let name := cs.takeWhile isNameChar
  match name with
  | [] => none
  | c :: _ =>
    if isNameStart c then
      match cs.dropWhile isNameChar with
      | '\x7d' :: _ => some (.reference marked name none)
      | ':' :: '-' :: rest =>
        if rest.contains '\x7d' then
          some (.reference marked name (some (rest.takeWhile (· != '\x7d'))))
        else none
      | _ => none
    else none

/-- The escape or reference at the front of a text. Where `env:` can be read as a mark it is one;
otherwise `env` may be a name. -/
def token? : List Char → Option Piece
  | '$' :: '$' :: _ => some .escape
  | '$' :: '\x7b' :: 'e' :: 'n' :: 'v' :: ':' :: rest =>
    match body? true rest with
    | some piece => some piece
    | none => body? false ('e' :: 'n' :: 'v' :: ':' :: rest)
  | '$' :: '\x7b' :: rest => body? false rest
  | _ => none

/-- The pieces of a text after its first `skipped` characters. -/
def piecesFrom : (skipped : Nat) → List Char → List Piece
  | _, [] => []
  | n + 1, _ :: rest => piecesFrom n rest
  | 0, c :: rest =>
    match token? (c :: rest) with
    | some piece => piece :: piecesFrom (piece.chars.length - 1) rest
    | none => .literal c :: piecesFrom 0 rest

/-- The pieces of a text. -/
def pieces (cs : List Char) : List Piece := piecesFrom 0 cs

end Telemetry.Reference
