import Mathlib.Tactic.SplitIfs
import Telemetry.Proofs.Tree.Locality
import Telemetry.Proofs.Yaml.Word

/-!
# Texts that are one reference

* `isWhole_iff`: a text is one reference and nothing else if and only if it is written as one.
* `Reference.standsFor`: what such a text stands for.
* **`Tree.expand_text`**: texts without tokens stay, texts that are one reference take the type of
  what they stand for, and all others stay texts.
-/

namespace Telemetry

namespace Reference

/-! ## The whole text -/

theorem pieces_chars {p : Piece} (h : p.IsToken) : pieces p.chars = [p] := by
  have hpieces := pieces_token h []
  rwa [List.append_nil] at hpieces

/-- A text with one piece, a token, is this token as it is written. -/
theorem of_pieces_eq_singleton {cs : List Char} {p : Piece} (hp : p.isLiteral = false)
    (h : pieces cs = [p]) : p.IsToken ∧ cs = p.chars := by
  have hcs : Decomposes cs [p] := decomposes_iff.2 h.symm
  cases hcs with
  | token htoken hrest =>
    cases hrest
    exact ⟨htoken, List.append_nil p.chars⟩
  | literal _ _ => cases hp

theorem isWhole_iff {s : String} : isWhole s = true ↔
    ∃ marked name fallback, (Piece.reference marked name fallback).IsToken ∧
      s.toList = (Piece.reference marked name fallback).chars := by
  constructor
  · intro h
    rw [isWhole] at h
    split at h
    · rename_i marked name fallback hpieces
      exact ⟨marked, name, fallback, of_pieces_eq_singleton rfl hpieces⟩
    · cases h
  · rintro ⟨marked, name, fallback, htoken, hs⟩
    rw [isWhole, hs, pieces_chars htoken]

theorem hasReferences_of_isWhole {s : String} (h : isWhole s = true) : hasReferences s = true := by
  obtain ⟨marked, name, fallback, htoken, hs⟩ := isWhole_iff.1 h
  rw [hasReferences, hs, pieces_chars htoken]
  rfl

/-! ## What it stands for -/

/-- What a reference stands for: the value of its variable if it has one, be it empty, and otherwise
the fallback if there is one. -/
def standsFor (lookup : Lookup) (name : List Char) (fallback : Option (List Char)) : String :=
  match lookup (String.ofList name) with
  | some value => value
  | none => String.ofList (fallback.getD [])

theorem substitute_of_whole {s : String} {marked : Bool} {name : List Char}
    {fallback : Option (List Char)} (htoken : (Piece.reference marked name fallback).IsToken)
    (hs : s.toList = (Piece.reference marked name fallback).chars) (lookup : Lookup) :
    substitute lookup s = standsFor lookup name fallback := by
  rw [substitute, substituteChars, hs, pieces_chars htoken, List.flatMap_singleton, Piece.value,
    standsFor]
  cases lookup (String.ofList name) with
  | some value => exact String.ofList_toList
  | none => rfl

/-! ## What it becomes -/

theorem typed?_eq_some_iff {v : String} {x : Tree} :
    typed? v = some x ↔ Tree.ofYaml? v = some x ∧ x.IsTyped := by
  unfold typed?
  constructor
  · intro h
    split at h <;> cases h <;> exact ⟨‹_›, trivial⟩
  · rintro ⟨hv, hx⟩
    rw [hv]
    cases x with
    | number n => rfl
    | bool b => rfl
    | _ => exact hx.elim

/-- **What a value becomes**: null if it is empty, the number or boolean that it is read as, or else
its text. -/
theorem retype_cases (v : String) :
    (v = "" → retype v = .null) ∧
    (∀ x, v ≠ "" → Tree.ofYaml? v = some x → x.IsTyped → retype v = x) ∧
    (v ≠ "" → (∀ x, Tree.ofYaml? v = some x → ¬ x.IsTyped) → retype v = .text v) := by
  have hretype : v ≠ "" → retype v = (typed? v).getD (.text v) := fun hv => by
    have hempty : ¬ v.isEmpty = true := by simpa using hv
    rw [retype, if_neg hempty]
  refine ⟨fun hv => ?_, fun x hv hx htyped => ?_, fun hv huntyped => ?_⟩
  · rw [hv]
    rfl
  · rw [hretype hv, typed?_eq_some_iff.2 ⟨hx, htyped⟩, Option.getD_some]
  · have hnone : typed? v = none := by
      rw [Option.eq_none_iff_forall_ne_some]
      intro x hx
      obtain ⟨hread, htyped⟩ := typed?_eq_some_iff.1 hx
      exact huntyped x hread htyped
    rw [hretype hv, hnone, Option.getD_none]

theorem expandText_of_isWhole {s : String} (h : isWhole s = true) (lookup : Lookup) :
    expandText lookup s = retype (substitute lookup s) := by
  rw [expandText, hasReferences_of_isWhole h, h]
  rfl

theorem expandText_of_not_isWhole {s : String} (h : isWhole s = false) (lookup : Lookup) :
    expandText lookup s = .text (substitute lookup s) := by
  rw [expandText, h]
  cases hreferences : hasReferences s with
  | true => rfl
  | false =>
    rw [substitute_of_not_hasReferences hreferences]
    rfl

end Reference

theorem Tree.expand_whole {s : String} {marked : Bool} {name : List Char}
    {fallback : Option (List Char)}
    (htoken : (Reference.Piece.reference marked name fallback).IsToken)
    (hs : s.toList = (Reference.Piece.reference marked name fallback).chars) (lookup : Lookup) :
    (Tree.text s).expand lookup =
      Reference.retype (Reference.standsFor lookup name fallback) := by
  have hwhole : Reference.isWhole s = true :=
    Reference.isWhole_iff.2 ⟨marked, name, fallback, htoken, hs⟩
  rw [expand, Reference.expandText_of_isWhole hwhole, Reference.substitute_of_whole htoken hs]

/-- **Only a whole reference is retyped.** A text without tokens stays as it is, and any other
becomes the text with its tokens replaced. -/
theorem Tree.expand_text (lookup : Lookup) (s : String) :
    ((∀ p : Reference.Piece, p.IsToken → ¬ p.chars <:+: s.toList) →
      (Tree.text s).expand lookup = .text s) ∧
    (∀ marked name fallback, (Reference.Piece.reference marked name fallback).IsToken →
      s.toList = (Reference.Piece.reference marked name fallback).chars →
        let v := Reference.standsFor lookup name fallback
        (v = "" → (Tree.text s).expand lookup = .null) ∧
        (∀ x, v ≠ "" → Tree.ofYaml? v = some x → x.IsTyped → (Tree.text s).expand lookup = x) ∧
        (v ≠ "" → (∀ x, Tree.ofYaml? v = some x → ¬ x.IsTyped) →
          (Tree.text s).expand lookup = .text v)) ∧
    ((∀ marked name fallback, (Reference.Piece.reference marked name fallback).IsToken →
      s.toList ≠ (Reference.Piece.reference marked name fallback).chars) →
        (Tree.text s).expand lookup = .text (Reference.substitute lookup s)) := by
  refine ⟨fun hnone => ?_, fun marked name fallback htoken hs => ?_, fun hother => ?_⟩
  · exact Reference.expandText_of_no_token hnone lookup
  · rw [Tree.expand_whole htoken hs]
    exact Reference.retype_cases (Reference.standsFor lookup name fallback)
  · refine Reference.expandText_of_not_isWhole (Bool.eq_false_iff.2 fun hwhole => ?_) lookup
    obtain ⟨marked, name, fallback, htoken, hs⟩ := Reference.isWhole_iff.1 hwhole
    exact hother marked name fallback htoken hs

-- two references next to each other are no whole one, so what they stand for stays a text
example : (Tree.text "$\x7bA\x7d$\x7bA\x7d").expand (fun _ => some "4") = .text "44" := by
  decide +kernel

end Telemetry
