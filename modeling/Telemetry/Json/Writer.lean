import Telemetry.Bytes.Hex
import Telemetry.Tree

/-!
# Writing JSON

* `Tree.toJson`: the compact form, entries in the order of the tree.
* `Tree.toPrettyJson`: the form with one item or entry a line, indented by two spaces.
-/

namespace Telemetry

namespace Json

/-- A character inside a JSON text: quotes, backslashes and controls are escaped. -/
def escapedChar (c : Char) : List Char :=
  if c = '\x22' ∨ c = '\\' then ['\\', c]
  else if c = '\x08' then ['\\', 'b']
  else if c = '\x0c' then ['\\', 'f']
  else if c = '\n' then ['\\', 'n']
  else if c = '\r' then ['\\', 'r']
  else if c = '\t' then ['\\', 't']
  else if c.toNat < 0x20 then
    ['\\', 'u', '0', '0', hexDigit (c.toNat / 16), hexDigit (c.toNat % 16)]
  else [c]

/-- A JSON text between its quotes. -/
def writtenText (s : String) : String :=
  String.ofList ('\x22' :: s.toList.flatMap escapedChar ++ ['\x22'])

/-- `n` levels of indentation. -/
def indent (n : Nat) : String := String.ofList (List.replicate (2 * n) ' ')

end Json

namespace Tree

mutual

/-- The compact JSON text of a tree. -/
def toJson : Tree → String
  | .null => "null"
  | .bool true => "true"
  | .bool false => "false"
  | .number n => n.render
  | .text s => Json.writtenText s
  | .list items => "[" ++ joined "," (itemsToJson items) ++ "]"
  | .node entries => "\x7b" ++ joined "," (entriesToJson entries) ++ "\x7d"

/-- The texts of the items of a list. -/
def itemsToJson : List Tree → List String
  | [] => []
  | t :: ts => toJson t :: itemsToJson ts

/-- The texts of entries. -/
def entriesToJson : List (String × Tree) → List String
  | [] => []
  | (k, t) :: ts => (Json.writtenText k ++ ":" ++ toJson t) :: entriesToJson ts

end

mutual

/-- The indented JSON text of a tree that stands `level` levels deep. -/
def toPrettyJson (level : Nat) : Tree → String
  | .list [] => "[]"
  | .node [] => "\x7b\x7d"
  | .list items =>
    "[\n" ++ joined ",\n" (itemsToPrettyJson (level + 1) items) ++ "\n" ++ Json.indent level ++ "]"
  | .node entries =>
    "\x7b\n" ++ joined ",\n" (entriesToPrettyJson (level + 1) entries) ++ "\n" ++
      Json.indent level ++ "\x7d"
  | t => toJson t

/-- The lines of the items of a list. -/
def itemsToPrettyJson (level : Nat) : List Tree → List String
  | [] => []
  | t :: ts => (Json.indent level ++ toPrettyJson level t) :: itemsToPrettyJson level ts

/-- The lines of entries. -/
def entriesToPrettyJson (level : Nat) : List (String × Tree) → List String
  | [] => []
  | (k, t) :: ts =>
    (Json.indent level ++ Json.writtenText k ++ ": " ++ toPrettyJson level t) ::
      entriesToPrettyJson level ts

end

end Tree

end Telemetry
