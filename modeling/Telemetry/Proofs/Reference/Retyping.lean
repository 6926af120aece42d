import Telemetry.Proofs.Reference.Whole
import Telemetry.Proofs.Yaml.Reading

/-!
# What retyping keeps of a value

* `Reference.retype_kept`: the value of a retyped text is what it is read as; it is the value of the
  whole text if and only if there is no white space in the text.
* **`Tree.expand_reference`**: what a reference becomes, and what may be lost.
* `Tree.expand_reference_of_comment`: a comment after a number is lost.
-/

namespace Telemetry

open Yaml

namespace Reference

/-- A text that is retyped is read as what it becomes. -/
theorem ofYaml?_of_retype {v : String} (h : (retype v).IsTyped) :
    Tree.ofYaml? v = some (retype v) := by
  obtain ⟨hempty, hread, htext⟩ := retype_cases v
  by_cases hv : v = ""
  · rw [hempty hv] at h
    exact h.elim
  · by_cases htyped : ∃ x, Tree.ofYaml? v = some x ∧ x.IsTyped
    · obtain ⟨x, hx, htyped⟩ := htyped
      rw [hread x hv hx htyped, hx]
    · rw [htext hv fun x hx hxt => htyped ⟨x, hx, hxt⟩] at h
      exact h.elim

end Reference

/-- **What is kept of the value of a reference**: all of it, unless one scalar in it, maybe among
comments, is a number or a boolean. -/
theorem Tree.expand_reference (lookup : Lookup) {s : String} {marked : Bool} {name : List Char}
    {fallback : Option (List Char)}
    (htoken : (Reference.Piece.reference marked name fallback).IsToken)
    (hs : s.toList = (Reference.Piece.reference marked name fallback).chars) :
    let v := Reference.standsFor lookup name fallback
    let t := (Tree.text s).expand lookup
    (v = "" → t = .null) ∧
    (v ≠ "" → ¬ t.IsTyped → t = .text v) ∧
    (∀ x, x.IsTyped → plainValue v.toList = some x → t = x) ∧
    (t.IsTyped → ∃ tokens tag plain word, Token.ofChars? v.toList = some tokens ∧
      FormScalar tokens tag plain word ∧ scalarValue tag plain word = some t) ∧
    (t.IsTyped → (plainValue v.toList = some t ↔ Unbroken v.toList)) := by
  intro v t
  have ht : t = Reference.retype v := Tree.expand_whole htoken hs lookup
  obtain ⟨hempty, hread, htext⟩ := Reference.retype_cases v
  have hkept : t.IsTyped → Tree.ofYaml? v = some t := fun htyped => by
    rw [ht] at htyped ⊢
    exact Reference.ofYaml?_of_retype htyped
  refine ⟨fun hv => ht.trans (hempty hv), fun hv huntyped => ?_, fun x hx hvalue => ?_,
    fun htyped => ?_, fun htyped => ?_⟩
  · rw [ht]
    refine htext hv fun x hx htyped => huntyped ?_
    rw [ht, hread x hv hx htyped]
    exact htyped
  · have hv : v ≠ "" := by
      intro hv
      rw [hv] at hvalue
      exact (isWord_of_plainValue hvalue hx).ne_nil rfl
    exact ht.trans (hread x hv (Tree.ofYamlChars?_of_plainValue hvalue hx) hx)
  · exact Tree.formScalar_of_ofYamlChars? (hkept htyped) htyped
  · exact Tree.plainValue_iff_unbroken (hkept htyped) htyped

/-- The word for a number becomes the number. -/
theorem Tree.expand_reference_of_word :
    (Reference.Piece.reference false ['N'] none).IsToken ∧
    "$\x7bN\x7d".toList = (Reference.Piece.reference false ['N'] none).chars ∧
    (Tree.text "$\x7bN\x7d").expand (fun _ => some "42") = .int 42 := by
  have htoken : (Reference.Piece.reference false ['N'] none).IsToken :=
    ⟨⟨'N', [], rfl, by decide, nofun⟩, nofun⟩
  have hs : "$\x7bN\x7d".toList = (Reference.Piece.reference false ['N'] none).chars := by decide
  obtain ⟨-, -, hword, -⟩ := Tree.expand_reference (fun _ => some "42") htoken hs
  exact ⟨htoken, hs, hword (.int 42) trivial (by decide)⟩

/-- A comment after a number is lost: the value as a whole is a text, but only the number is left of
it. -/
theorem Tree.expand_reference_of_comment :
    (Tree.text "$\x7bN\x7d").expand (fun _ => some "42 # tail") = .int 42 ∧
    plainValue "42 # tail".toList = some (.text "42 # tail") := by
  decide +kernel

end Telemetry
