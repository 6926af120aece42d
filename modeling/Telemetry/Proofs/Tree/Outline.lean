import Mathlib.Tactic.SplitIfs
import Telemetry.Reference.Expansion

/-!
# Outlines of trees

* `Tree.outline`: a tree with null in place of each scalar. Two trees have the same outline if they
  have the same names and the same lengths at every depth and differ in scalars only.
* `Tree.field`: what a record holds under a name or, given by position, at a place.
* **`outline_expand`**: the replacement of references keeps the outline of a tree.
-/

namespace Telemetry

namespace Tree

mutual

/-- A tree with null in place of each scalar. -/
def outline : Tree → Tree
  | .list items => .list (outlineItems items)
  | .node entries => .node (outlineEntries entries)
  | _ => .null

/-- The outlines of the items of a list. -/
def outlineItems : List Tree → List Tree
  | [] => []
  | t :: ts => outline t :: outlineItems ts

/-- Entries with the outlines of their values. -/
def outlineEntries : List (String × Tree) → List (String × Tree)
  | [] => []
  | (k, t) :: ts => (k, outline t) :: outlineEntries ts

end

@[simp]
theorem outlineItems_eq_map (ts : List Tree) : outlineItems ts = ts.map outline := by
  induction ts with
  | nil => rfl
  | cons t ts ih => rw [outlineItems, ih, List.map_cons]

theorem get?_outlineEntries (es : Entries) (name : String) :
    Entries.get? (outlineEntries es) name = (es.get? name).map outline := by
  unfold Entries.get?
  induction es with
  | nil => rfl
  | cons e es ih =>
    obtain ⟨k, t⟩ := e
    rw [outlineEntries, List.lookup_cons, List.lookup_cons, ih]
    cases name == k <;> rfl

/-! ## Fields of records -/

/-- What a tree holds under a name, or at a place if it is a list. -/
def field (name : String) (place : Nat) : Tree → Option Tree
  | .node es => Entries.get? es name
  | .list items => items[place]?
  | _ => none

theorem field_outline (t : Tree) (name : String) (place : Nat) :
    t.outline.field name place = (t.field name place).map outline := by
  cases t with
  | node es => exact get?_outlineEntries es name
  | list items => simp [outline, field]
  | _ => rfl

theorem field_outline_congr {t u : Tree} (h : t.outline = u.outline) (name : String) (place : Nat) :
    (t.field name place).map outline = (u.field name place).map outline := by
  rw [← field_outline, ← field_outline, h]

end Tree

/-! ## Replacing references -/

namespace Reference

theorem outline_typed? {s : String} {t : Tree} (h : typed? s = some t) : t.outline = .null := by
  unfold typed? at h
  split at h <;> cases h <;> rfl

theorem outline_retype (s : String) : (retype s).outline = .null := by
  unfold retype
  split_ifs
  · rfl
  · cases h : typed? s with
    | none => rfl
    | some t => exact outline_typed? h

/-- **A text becomes a scalar**, whatever its references stand for. -/
theorem outline_expandText (lookup : Lookup) (s : String) :
    (expandText lookup s).outline = .null := by
  unfold expandText
  split_ifs
  · rfl
  · exact outline_retype _
  · rfl

end Reference

namespace Tree

mutual

/-- **Replacing references keeps the outline of a tree**: all names, and the length of each list. -/
theorem outline_expand (lookup : Lookup) : (t : Tree) → (t.expand lookup).outline = t.outline
  | .null | .bool _ | .number _ => rfl
  | .text s => Reference.outline_expandText lookup s
  | .list items => congrArg Tree.list (outlineItems_expandItems lookup items)
  | .node es => congrArg Tree.node (outlineEntries_expandEntries lookup es)

theorem outlineItems_expandItems (lookup : Lookup) :
    (ts : List Tree) → outlineItems (expandItems lookup ts) = outlineItems ts
  | [] => rfl
  | t :: ts => by
    rw [expandItems, outlineItems, outlineItems, outline_expand lookup t,
      outlineItems_expandItems lookup ts]

theorem outlineEntries_expandEntries (lookup : Lookup) :
    (es : Entries) → outlineEntries (expandEntries lookup es) = outlineEntries es
  | [] => rfl
  | (k, t) :: es => by
    rw [expandEntries, outlineEntries, outlineEntries, outline_expand lookup t,
      outlineEntries_expandEntries lookup es]

end

end Tree

end Telemetry
