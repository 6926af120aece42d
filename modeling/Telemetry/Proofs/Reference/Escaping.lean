import Mathlib.Tactic.SplitIfs
import Telemetry.Proofs.Reference.Grammar
import Telemetry.Reference.Expansion

/-!
# Escaped documents

* `Tree.escape`: a tree with each dollar sign in its texts written twice.
* `pieces_escapeChars`: the pieces of an escaped text are characters and escapes only, so that
  nothing in it is looked up and no value takes its place.
* **`expand_escape_eq_self`**: the replacement of references undoes the escaping of a tree.
-/

namespace Telemetry

namespace Reference

/-! ## Escaped texts -/

/-- A list of characters with each dollar sign written twice. -/
def escapeChars (cs : List Char) : List Char :=
  cs.flatMap fun c => if c = '$' then ['$', '$'] else [c]

/-- A text with each dollar sign written twice. -/
def escapeText (s : String) : String := String.ofList (escapeChars s.toList)

/-- The piece that a character is after escaping. -/
def escapedPiece (c : Char) : Piece := if c = '$' then .escape else .literal c

/-- Doubled dollar signs pair up from the left, whatever comes after them. -/
theorem decomposes_escapeChars (cs : List Char) :
    Decomposes (escapeChars cs) (cs.map escapedPiece) := by
  induction cs with
  | nil => exact .nil
  | cons c cs ih =>
    rw [escapeChars, List.flatMap_cons, List.map_cons, escapedPiece]
    split_ifs with hc
    · exact .token (p := .escape) trivial ih
    · refine .literal (fun p hp hprefix => hc ?_) ih
      obtain ⟨_, hchars⟩ := hp.chars_eq
      rw [hchars] at hprefix
      exact (List.cons_prefix_cons.1 hprefix).1.symm

theorem pieces_escapeChars (cs : List Char) : pieces (escapeChars cs) = cs.map escapedPiece :=
  (decomposes_iff.1 (decomposes_escapeChars cs)).symm

theorem pieces_escapeText (s : String) :
    pieces (escapeText s).toList = s.toList.map escapedPiece := by
  rw [escapeText, String.toList_ofList, pieces_escapeChars]

theorem substitute_escapeText (lookup : Lookup) (s : String) :
    substitute lookup (escapeText s) = s := by
  have hvalue : ∀ c, (escapedPiece c).value lookup = [c] := by
    intro c
    rw [escapedPiece]
    split_ifs with hc
    · rw [hc, Piece.value]
    · rfl
  rw [substitute, substituteChars, pieces_escapeText, List.flatMap_map]
  simp only [hvalue, List.flatMap_singleton', String.ofList_toList]

theorem isWhole_escapeText (s : String) : isWhole (escapeText s) = false := by
  rw [isWhole, pieces_escapeText]
  split
  · rename_i h
    obtain ⟨c, _, _, hc, -⟩ := List.map_eq_cons_iff.1 h
    rw [escapedPiece] at hc
    split_ifs at hc
  · rfl

theorem names_escapeText (s : String) : names (escapeText s) = [] := by
  rw [names, pieces_escapeText, List.filterMap_eq_nil_iff]
  intro p hp
  obtain ⟨c, -, rfl⟩ := List.mem_map.1 hp
  rw [escapedPiece]
  split_ifs <;> rfl

/-- **An escaped text stands for the text itself** and stays a text. -/
theorem expandText_escapeText (lookup : Lookup) (s : String) :
    expandText lookup (escapeText s) = .text s := by
  have hsubstitute := substitute_escapeText lookup s
  unfold expandText
  cases hreferences : hasReferences (escapeText s) with
  | false =>
    rw [substitute_of_not_hasReferences hreferences] at hsubstitute
    rw [hsubstitute]
    rfl
  | true =>
    rw [isWhole_escapeText, hsubstitute]
    rfl

end Reference

/-! ## Escaped trees -/

namespace Tree

mutual

/-- A tree with each dollar sign in its texts written twice; names of entries stay. -/
def escape : Tree → Tree
  | .text s => .text (Reference.escapeText s)
  | .list items => .list (escapeItems items)
  | .node entries => .node (escapeEntries entries)
  | t => t

/-- The items of a list, escaped. -/
def escapeItems : List Tree → List Tree
  | [] => []
  | t :: ts => escape t :: escapeItems ts

/-- The entries of a node, their values escaped. -/
def escapeEntries : List (String × Tree) → List (String × Tree)
  | [] => []
  | (k, t) :: ts => (k, escape t) :: escapeEntries ts

end

mutual

theorem expand_escape (lookup : Lookup) : (t : Tree) → t.escape.expand lookup = t
  | .null | .bool _ | .number _ => rfl
  | .text s => Reference.expandText_escapeText lookup s
  | .list items => congrArg Tree.list (expandItems_escapeItems lookup items)
  | .node es => congrArg Tree.node (expandEntries_escapeEntries lookup es)

theorem expandItems_escapeItems (lookup : Lookup) :
    (ts : List Tree) → expandItems lookup (escapeItems ts) = ts
  | [] => rfl
  | t :: ts => by
    rw [escapeItems, expandItems, expand_escape lookup t, expandItems_escapeItems lookup ts]

theorem expandEntries_escapeEntries (lookup : Lookup) :
    (es : Entries) → expandEntries lookup (escapeEntries es) = es
  | [] => rfl
  | (k, t) :: es => by
    rw [escapeEntries, expandEntries, expand_escape lookup t,
      expandEntries_escapeEntries lookup es]

end

mutual

theorem texts_escape : (t : Tree) → t.escape.texts = t.texts.map Reference.escapeText
  | .null | .bool _ | .number _ => rfl
  | .text _ => rfl
  | .list items => textsOfItems_escapeItems items
  | .node es => textsOfEntries_escapeEntries es

theorem textsOfItems_escapeItems :
    (ts : List Tree) → textsOfItems (escapeItems ts) = (textsOfItems ts).map Reference.escapeText
  | [] => rfl
  | t :: ts => by
    rw [escapeItems, textsOfItems, textsOfItems, texts_escape t, textsOfItems_escapeItems ts,
      List.map_append]

theorem textsOfEntries_escapeEntries : (es : Entries) →
    textsOfEntries (escapeEntries es) = (textsOfEntries es).map Reference.escapeText
  | [] => rfl
  | (k, t) :: es => by
    rw [escapeEntries, textsOfEntries, textsOfEntries, texts_escape t,
      textsOfEntries_escapeEntries es, List.map_append]

end

/-- **Escaping makes any tree literal.** With each dollar sign in its texts written twice it expands
to itself and refers to no variable. -/
theorem expand_escape_eq_self (lookup : Lookup) (t : Tree) :
    t.escape.expand lookup = t ∧ t.escape.referenceNames = [] := by
  refine ⟨expand_escape lookup t, ?_⟩
  rw [referenceNames, texts_escape, List.flatMap_map, List.flatMap_eq_nil_iff]
  exact fun s _ => Reference.names_escapeText s

end Tree

end Telemetry
