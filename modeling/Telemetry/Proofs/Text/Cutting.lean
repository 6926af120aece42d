import Mathlib.Data.List.DropRight
import Telemetry.Text.Blank
import Telemetry.Text.Quoted

/-!
# Cutting and joining texts

* `takeWhile_ne_append`: what stands before the first occurrence of a character.
* `splitOnChar_eq_splitOn`, `splitFirst?_eq`: pieces between all occurrences of a character, and
  around the first one.
* `exists_eq_append_trimBlank`: a text is its trimmed form between blanks. Blanks at the ends do not
  matter (`trimBlank_append_left`, `trimBlank_append_right`), and what is not blank stays
  (`mem_trimBlank`).
* `joined_eq_intercalate`: texts joined with a separator.
-/

namespace Telemetry

/-! ## Pieces -/

theorem takeWhile_ne_append {c : Char} {before : List Char} (h : c ∉ before) (after : List Char) :
    (before ++ c :: after).takeWhile (· != c) = before := by
  have hne : ∀ d ∈ before, (d != c) = true := fun d hd => bne_iff_ne.2 fun e => h (e ▸ hd)
  rw [List.takeWhile_append_of_pos hne, List.takeWhile_cons, bne_self_eq_false]
  exact List.append_nil before

theorem dropWhile_ne_append {c : Char} {before : List Char} (h : c ∉ before) (after : List Char) :
    (before ++ c :: after).dropWhile (· != c) = c :: after := by
  have hne : ∀ d ∈ before, (d != c) = true := fun d hd => bne_iff_ne.2 fun e => h (e ▸ hd)
  rw [List.dropWhile_append_of_pos hne, List.dropWhile_cons, bne_self_eq_false]
  rfl

theorem splitOnChar_eq_splitOn (sep : Char) (cs : List Char) :
    splitOnChar sep cs = cs.splitOn sep := by
  induction cs with
  | nil => rfl
  | cons c cs ih =>
    rw [splitOnChar, ih, List.splitOn, List.splitOn, List.splitOnP_cons_eq_if_modifyHead]
    by_cases h : c = sep
    · rw [if_pos h, if_pos (beq_iff_eq.2 h)]
    · rw [if_neg h, if_neg (mt beq_iff_eq.1 h)]
      cases hp : cs.splitOnP (· == sep) with
      | nil => exact absurd hp (List.splitOnP_ne_nil _ cs)
      | cons piece more => rfl

theorem splitFirst?_append {sep : Char} {before : List Char} (h : sep ∉ before)
    (after : List Char) : splitFirst? sep (before ++ sep :: after) = some (before, after) := by
  induction before with
  | nil => exact if_pos rfl
  | cons c before ih =>
    obtain ⟨hc, hbefore⟩ := not_or.1 (mt List.mem_cons.2 h)
    rw [List.cons_append, splitFirst?, if_neg (Ne.symm hc), ih hbefore]
    rfl

theorem splitFirst?_eq_none {sep : Char} {cs : List Char} (h : sep ∉ cs) :
    splitFirst? sep cs = none := by
  induction cs with
  | nil => rfl
  | cons c cs ih =>
    obtain ⟨hc, hcs⟩ := not_or.1 (mt List.mem_cons.2 h)
    rw [splitFirst?, if_neg (Ne.symm hc), ih hcs]
    rfl

/-! ## Blanks -/

theorem trimBlank_append_left {blanks : List Char} (h : ∀ c ∈ blanks, isBlank c = true)
    (cs : List Char) : trimBlank (blanks ++ cs) = trimBlank cs := by
  rw [trimBlank, trimBlank, List.dropWhile_append_of_pos h]

theorem trimBlank_append_right {blanks : List Char} (h : ∀ c ∈ blanks, isBlank c = true)
    (cs : List Char) : trimBlank (cs ++ blanks) = trimBlank cs := by
  rw [trimBlank, trimBlank, List.dropWhile_append]
  cases hcs : cs.dropWhile isBlank with
  | nil => rw [List.isEmpty_nil, if_pos rfl, List.dropWhile_eq_nil_iff.2 h]
  | cons c rest =>
    rw [List.isEmpty_cons, if_neg Bool.false_ne_true, List.reverse_append,
      List.dropWhile_append_of_pos fun d hd => h d (List.mem_reverse.1 hd)]

/-- A text is its trimmed form between blanks. -/
theorem exists_eq_append_trimBlank (cs : List Char) : ∃ left right,
    cs = left ++ (trimBlank cs ++ right) ∧ (∀ c ∈ left, isBlank c = true) ∧
      ∀ c ∈ right, isBlank c = true := by
  refine ⟨cs.takeWhile isBlank, (cs.dropWhile isBlank).rtakeWhile isBlank, ?_,
    fun c hc => List.mem_takeWhile_imp hc, fun c hc => List.mem_rtakeWhile_imp hc⟩
  have h : trimBlank cs ++ (cs.dropWhile isBlank).rtakeWhile isBlank = cs.dropWhile isBlank := by
    rw [trimBlank, List.rtakeWhile, ← List.reverse_append, List.takeWhile_append_dropWhile,
      List.reverse_reverse]
  rw [h, List.takeWhile_append_dropWhile]

/-- What is not blank stays when blanks are trimmed. -/
theorem mem_trimBlank {c : Char} (hc : isBlank c = false) {cs : List Char} :
    c ∈ trimBlank cs ↔ c ∈ cs := by
  obtain ⟨left, right, hcs, hleft, hright⟩ := exists_eq_append_trimBlank cs
  have hl : c ∉ left := fun h => Bool.false_ne_true (hc.symm.trans (hleft c h))
  have hr : c ∉ right := fun h => Bool.false_ne_true (hc.symm.trans (hright c h))
  conv_rhs => rw [hcs]
  simp only [List.mem_append, hl, hr, false_or, or_false]

theorem trimBlank_eq_nil {cs : List Char} : trimBlank cs = [] ↔ ∀ c ∈ cs, isBlank c = true := by
  constructor
  · intro h c hc
    by_contra hblank
    rw [← mem_trimBlank (Bool.eq_false_iff.2 hblank), h] at hc
    exact List.not_mem_nil hc
  · intro h
    rw [trimBlank, List.dropWhile_eq_nil_iff.2 h]
    rfl

/-! ## Joining -/

theorem joined_eq_intercalate (sep : String) (ss : List String) :
    joined sep ss = sep.intercalate ss := by
  induction ss with
  | nil => rw [joined, String.intercalate_nil]
  | cons s rest ih =>
    cases rest with
    | nil => rw [joined, String.intercalate_singleton]
    | cons s' rest =>
      rw [joined, ih, String.intercalate_cons_cons]
      exact nofun

end Telemetry
