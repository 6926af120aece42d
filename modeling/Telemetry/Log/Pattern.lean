/-!
# Patterns of field values

* `Log.Pattern`: a regular expression by which a filter asks for the value of a field, as far as it
  decides whether the pattern can be used; which characters a named class holds is left out.
* `Pattern.height`: how deep a pattern nests.
* `Pattern.check`: whether every part is allowed in the modes that hold for it, and whether the
  pattern asks for the edges of words in the sense of Unicode.

Patterns are matched against texts, so no part of one may match a piece of a character. Without the
mode `unicode` this rules out all classes that hold characters outside of ASCII.
-/

namespace Telemetry.Log

/-- A mode that a pattern can switch on and off. -/
inductive Mode where
  | caseless
  | lines
  | dotAll
  | greedSwapped
  | unicode
  | carriageReturns
  | spaced
  deriving DecidableEq

/-- The mode of a letter. -/
def Mode.ofChar? (c : Char) : Option Mode :=
  match c with
  | 'i' => some .caseless
  | 'm' => some .lines
  | 's' => some .dotAll
  | 'U' => some .greedSwapped
  | 'u' => some .unicode
  | 'R' => some .carriageReturns
  | 'x' => some .spaced
  | _ => none

/-- Modes that are switched on or off, no mode twice. -/
abbrev Switches := List (Mode × Bool)

/-- The state of a mode after switches, given the one before. -/
def Switches.state (w : Switches) (m : Mode) (old : Bool) : Bool := (w.lookup m).getD old

/-- A character that stands for itself. -/
structure Literal where
  char : Char
  /-- Whether it is given by the two digits of a byte. -/
  byByte : Bool := false
  deriving DecidableEq

/-- A set of characters between brackets. -/
inductive CharSet where
  | empty
  | literal (l : Literal)
  | range (first last : Literal)
  /-- The digits, the letters and so on, or all but these. -/
  | named (negated : Bool)
  /-- A general category of Unicode. -/
  | category
  | bracket (negated : Bool) (body : CharSet)
  | union (items : List CharSet)
  /-- An intersection, a difference or a symmetric difference. -/
  | combined (a b : CharSet)

/-- A pattern. -/
inductive Pattern where
  | empty
  | switches (w : Switches)
  | literal (l : Literal)
  | dot
  /-- The beginning or the end of a line or of the text. -/
  | boundary
  /-- An edge of a word, or a place that is none. -/
  | wordBoundary
  | named (negated : Bool)
  | category
  | set (s : CharSet)
  | repeated (p : Pattern)
  | group (w : Switches) (p : Pattern)
  | sequence (ps : List Pattern)
  | alternatives (ps : List Pattern)

/-! ## Height -/

namespace CharSet

mutual

/-- How deep brackets, unions and combinations nest. -/
def height : CharSet → Nat
  | .bracket _ body => body.height + 1
  | .union items => maxHeight items + 1
  | .combined a b => max a.height b.height + 1
  | _ => 0

/-- The largest height of some sets. -/
def maxHeight : List CharSet → Nat
  | [] => 0
  | s :: rest => max s.height (maxHeight rest)

end

mutual

/-- Whether a set is allowed. Without `unicode` its characters have to belong to ASCII. -/
def isAllowed (unicode : Bool) : CharSet → Bool
  | .empty => true
  | .literal l => unicode || decide (l.char.toNat < 0x80)
  | .range a b => unicode || decide (a.char.toNat < 0x80) && decide (b.char.toNat < 0x80)
  | .named negated => unicode || !negated
  | .category => unicode
  | .bracket negated body => (unicode || !negated) && isAllowed unicode body
  | .union items => allAllowed unicode items
  | .combined a b => isAllowed unicode a && isAllowed unicode b

/-- Whether all of some sets are allowed. -/
def allAllowed (unicode : Bool) : List CharSet → Bool
  | [] => true
  | s :: rest => isAllowed unicode s && allAllowed unicode rest

end

end CharSet

namespace Pattern

mutual

/-- How deep repetitions, groups, sequences, alternatives and sets nest. -/
def height : Pattern → Nat
  | .set s => s.height
  | .repeated p => p.height + 1
  | .group _ p => p.height + 1
  | .sequence ps => maxHeight ps + 1
  | .alternatives ps => maxHeight ps + 1
  | _ => 0

/-- The largest height of some patterns. -/
def maxHeight : List Pattern → Nat
  | [] => 0
  | p :: rest => max p.height (maxHeight rest)

end

/-- How deep a pattern may nest. -/
def heightLimit : Nat := 250

/-! ## Modes -/

/-- What is known at a place of a pattern. -/
structure Scope where
  /-- Whether characters are those of Unicode. -/
  unicode : Bool := true
  /-- Whether the edges of such words have been asked for. -/
  wordEdges : Bool := false

/-- The scope behind switches. -/
def Scope.enter (s : Scope) (w : Switches) : Scope :=
  { s with unicode := w.state .unicode s.unicode }

mutual

/-- The scope behind a pattern; `none` if a part of it is not allowed. Switches hold up to the end
of their group, through all its alternatives. -/
def check : Pattern → Scope → Option Scope
  | .empty, s => some s
  | .switches w, s => some (s.enter w)
  | .literal l, s =>
    if s.unicode || !l.byByte || decide (l.char.toNat < 0x80) then some s else none
  | .dot, s => if s.unicode then some s else none
  | .boundary, s => some s
  | .wordBoundary, s => some { s with wordEdges := s.wordEdges || s.unicode }
  | .named negated, s => if s.unicode || !negated then some s else none
  | .category, s => if s.unicode then some s else none
  | .set inner, s => if inner.isAllowed s.unicode then some s else none
  | .repeated p, s => p.check s
  | .group w p, s => (p.check (s.enter w)).map fun inner => { inner with unicode := s.unicode }
  | .sequence ps, s => checkAll ps s
  | .alternatives ps, s => checkAll ps s

/-- The scope behind several patterns. -/
def checkAll : List Pattern → Scope → Option Scope
  | [], s => some s
  | p :: rest, s =>
    match p.check s with
    | some s => checkAll rest s
    | none => none

end

end Pattern

end Telemetry.Log
