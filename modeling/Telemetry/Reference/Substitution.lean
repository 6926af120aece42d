import Telemetry.Reference.Piece

/-!
# Substitution of references

* `Lookup`: the values of variables.
* `substitute`: a text with its references replaced by values, or by their fallbacks. What is put in
  is not read again.
* `hasReferences`: whether a text holds an escape or a reference at all.
* `names`: the variables a text refers to; `unsetNames`: those that have neither a value nor a
  fallback.
-/

namespace Telemetry

/-- The value of a variable, if it is set. -/
abbrev Lookup := String → Option String

namespace Reference

/-- What a piece stands for. -/
def Piece.value (lookup : Lookup) : Piece → List Char
  | .literal c => [c]
  | .escape => ['$']
  | .reference _ name fallback =>
    match lookup (String.ofList name) with
    | some value => value.toList
    | none => fallback.getD []

/-- The variable of a piece. -/
def Piece.name? : Piece → Option String
  | .reference _ name _ => some (String.ofList name)
  | _ => none

/-- The variable of a piece that stands for nothing for want of a value. -/
def Piece.unsetName? (lookup : Lookup) : Piece → Option String
  | .reference _ name none =>
    match lookup (String.ofList name) with
    | some _ => none
    | none => some (String.ofList name)
  | _ => none

/-- The characters of a text with its references replaced. -/
def substituteChars (lookup : Lookup) (cs : List Char) : List Char :=
  (pieces cs).flatMap (Piece.value lookup)

/-- Whether a text holds an escape or a reference. -/
def hasReferences (s : String) : Bool := !(pieces s.toList).all Piece.isLiteral

/-- A text with its references replaced. -/
def substitute (lookup : Lookup) (s : String) : String :=
  String.ofList (substituteChars lookup s.toList)

/-- The names of the variables a text refers to, in order. -/
def names (s : String) : List String := (pieces s.toList).filterMap Piece.name?

/-- The names of the variables a text lacks, in order. -/
def unsetNames (lookup : Lookup) (s : String) : List String :=
  (pieces s.toList).filterMap (Piece.unsetName? lookup)

end Reference

end Telemetry
