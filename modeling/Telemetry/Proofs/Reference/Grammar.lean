import Mathlib.Data.List.Forall2
import Mathlib.Data.List.TakeWhile
import Telemetry.Proofs.Text.Cutting
import Telemetry.Reference.Substitution

/-!
# The grammar of references

* `Piece.IsToken`: the escapes and references that a text may hold.
* `Decomposes`: how a text is cut into pieces from left to right. A character stands for itself only
  if no token begins at it.
* `token?_eq_some_iff`: the token that is read at the front of a text is the only one there.
* `Piece.Yields`: what a piece stands for.
* `decomposes_iff`: each text is cut in one way, the one into its `pieces`.
* **`substitute_single_pass`**: the replacement of references follows this grammar.
-/

namespace Telemetry.Reference

/-! ## Grammar -/

/-- A letter from A to Z or from a to z, or an underscore. -/
def BeginsName (c : Char) : Prop := ('A' ≤ c ∧ c ≤ 'Z') ∨ ('a' ≤ c ∧ c ≤ 'z') ∨ c = '_'

instance (c : Char) : Decidable (BeginsName c) := inferInstanceAs (Decidable (_ ∨ _))

/-- The name of a variable: letters, digits and underscores, the first one no digit. -/
def IsName (name : List Char) : Prop :=
  ∃ c rest, name = c :: rest ∧ BeginsName c ∧ ∀ d ∈ rest, BeginsName d ∨ ('0' ≤ d ∧ d ≤ '9')

/-- An escape, or a reference to a name. A fallback is any text without a closing brace. -/
def Piece.IsToken : Piece → Prop
  | .literal _ => False
  | .escape => True
  | .reference _ name fallback => IsName name ∧ ∀ text ∈ fallback, '\x7d' ∉ text

/-- A text cut into pieces, from left to right. -/
inductive Decomposes : List Char → List Piece → Prop
  | nil : Decomposes [] []
  | token {p : Piece} {rest : List Char} {ps : List Piece} :
      p.IsToken → Decomposes rest ps → Decomposes (p.chars ++ rest) (p :: ps)
  | literal {c : Char} {rest : List Char} {ps : List Piece} :
      (∀ p : Piece, p.IsToken → ¬ p.chars <+: c :: rest) → Decomposes rest ps →
        Decomposes (c :: rest) (.literal c :: ps)

/-- What a piece stands for: an escape for a dollar sign, a reference for a value, or else for a
fallback, or else for nothing. -/
inductive Piece.Yields (lookup : Lookup) : Piece → List Char → Prop
  | literal (c : Char) : Yields lookup (.literal c) [c]
  | escape : Yields lookup .escape ['$']
  | set {marked : Bool} {name : List Char} {fallback : Option (List Char)} {value : String} :
      lookup (String.ofList name) = some value →
        Yields lookup (.reference marked name fallback) value.toList
  | fallback {marked : Bool} {name text : List Char} :
      lookup (String.ofList name) = none → Yields lookup (.reference marked name (some text)) text
  | unset {marked : Bool} {name : List Char} :
      lookup (String.ofList name) = none → Yields lookup (.reference marked name none) []

/-! ## Names and bodies -/

theorem isNameStart_iff {c : Char} : isNameStart c = true ↔ BeginsName c := by
  simp [isNameStart, BeginsName, or_assoc]

theorem isNameChar_iff {c : Char} :
    isNameChar c = true ↔ BeginsName c ∨ ('0' ≤ c ∧ c ≤ '9') := by
  simp [isNameChar, isNameStart_iff]

theorem IsName.isNameChar {name : List Char} (h : IsName name) :
    ∀ c ∈ name, isNameChar c = true := by
  obtain ⟨c, rest, rfl, hc, hrest⟩ := h
  exact List.forall_mem_cons.2
    ⟨isNameChar_iff.2 (.inl hc), fun d hd => isNameChar_iff.2 (hrest d hd)⟩

/-- What follows a name is a brace or a colon, so the name ends there. -/
theorem span_isNameChar {name : List Char} (h : IsName name) (fallback : Option (List Char))
    (rest : List Char) :
    (name ++ (Piece.fallbackChars fallback ++ '\x7d' :: rest)).takeWhile isNameChar = name ∧
      (name ++ (Piece.fallbackChars fallback ++ '\x7d' :: rest)).dropWhile isNameChar =
        Piece.fallbackChars fallback ++ '\x7d' :: rest := by
  rw [List.takeWhile_append_of_pos h.isNameChar, List.dropWhile_append_of_pos h.isNameChar]
  cases fallback with
  | none => exact ⟨List.append_nil name, rfl⟩
  | some text => exact ⟨List.append_nil name, rfl⟩

/-- The body of a reference is read. -/
theorem body?_append (marked : Bool) {name : List Char} {fallback : Option (List Char)}
    (h : (Piece.reference marked name fallback).IsToken) (rest : List Char) :
    body? marked (name ++ (Piece.fallbackChars fallback ++ '\x7d' :: rest)) =
      some (.reference marked name fallback) := by
  obtain ⟨hname, hfallback⟩ := h
  obtain ⟨htake, hdrop⟩ := span_isNameChar hname fallback rest
  rw [body?, htake, hdrop]
  obtain ⟨c, more, rfl, hc, -⟩ := hname
  dsimp only
  rw [if_pos (isNameStart_iff.2 hc)]
  cases fallback with
  | none => rfl
  | some text =>
    have hbrace : (text ++ '\x7d' :: rest).contains '\x7d' = true := by simp
    simp only [Piece.fallbackChars, List.cons_append, hbrace, if_true,
      takeWhile_ne_append (hfallback text rfl)]

/-- Nothing else is read as the body of a reference. -/
theorem of_body?_eq_some {marked : Bool} {cs : List Char} {p : Piece}
    (h : body? marked cs = some p) :
    ∃ name fallback rest, p = .reference marked name fallback ∧ p.IsToken ∧
      cs = name ++ (Piece.fallbackChars fallback ++ '\x7d' :: rest) := by
  have hcs := List.takeWhile_append_dropWhile (p := isNameChar) (l := cs)
  have hchars : ∀ d ∈ cs.takeWhile isNameChar, isNameChar d = true := fun d hd =>
    List.mem_takeWhile_imp hd
  rw [body?] at h
  generalize cs.takeWhile isNameChar = name at h hcs hchars
  generalize cs.dropWhile isNameChar = tail at h hcs
  cases name with
  | nil => cases h
  | cons c more =>
    dsimp only at h
    split_ifs at h with hc
    have hname : IsName (c :: more) :=
      ⟨c, more, rfl, isNameStart_iff.1 hc,
        fun d hd => isNameChar_iff.1 (hchars d (List.mem_cons_of_mem c hd))⟩
    split at h
    · rename_i rest
      cases h
      exact ⟨_, none, rest, rfl, ⟨hname, nofun⟩, hcs.symm⟩
    · rename_i after
      split_ifs at h with hbrace
      obtain ⟨text, rest, rfl, htext⟩ := List.eq_append_cons_of_mem (List.contains_iff_mem.1 hbrace)
      rw [takeWhile_ne_append htext] at h
      cases h
      exact ⟨_, some text, rest, rfl, ⟨hname, fun _ ht => Option.some.inj ht ▸ htext⟩, hcs.symm⟩
    · cases h

/-! ## Tokens -/

theorem chars_reference_append (marked : Bool) (name : List Char) (fallback : Option (List Char))
    (rest : List Char) :
    (Piece.reference marked name fallback).chars ++ rest = '$' :: '\x7b' ::
      (Piece.mark marked ++ (name ++ (Piece.fallbackChars fallback ++ '\x7d' :: rest))) := by
  simp [Piece.chars]

/-- Every token begins with a dollar sign. -/
theorem Piece.IsToken.chars_eq {p : Piece} (h : p.IsToken) : ∃ cs, p.chars = '$' :: cs := by
  cases p with
  | literal c => exact absurd h id
  | escape => exact ⟨_, rfl⟩
  | reference marked name fallback => exact ⟨_, rfl⟩

theorem isPrefix_of_token? {cs : List Char} {p : Piece} (h : token? cs = some p) :
    p.IsToken ∧ p.chars <+: cs := by
  have hbody : ∀ {marked : Bool} {rest : List Char}, body? marked rest = some p →
      p.IsToken ∧ p.chars <+: '$' :: '\x7b' :: (Piece.mark marked ++ rest) := by
    intro marked rest hp
    obtain ⟨name, fallback, after, rfl, htoken, rfl⟩ := of_body?_eq_some hp
    exact ⟨htoken, after, chars_reference_append marked name fallback after⟩
  unfold token? at h
  split at h
  · cases h
    exact ⟨trivial, _, rfl⟩
  · split at h
    · rename_i hp
      cases h
      exact hbody hp
    · exact hbody h
  · exact hbody h
  · cases h

theorem token?_mark (cs : List Char) : token? ('$' :: '\x7b' :: (Piece.mark true ++ cs)) =
    (body? true cs).or (body? false (Piece.mark true ++ cs)) := by
  change token? ('$' :: '\x7b' :: 'e' :: 'n' :: 'v' :: ':' :: cs) = _
  rw [token?]
  cases body? true cs <;> rfl

/-- The mark of a marked reference cannot be read as a name. -/
theorem token?_append {p : Piece} (h : p.IsToken) (rest : List Char) :
    token? (p.chars ++ rest) = some p := by
  cases p with
  | literal c => exact absurd h id
  | escape => rfl
  | reference marked name fallback =>
    have hbody := body?_append marked h rest
    rw [chars_reference_append]
    cases marked with
    | true =>
      rw [token?_mark, hbody, Option.some_or]
    | false =>
      obtain ⟨htake, hdrop⟩ := span_isNameChar h.1 fallback rest
      change token? ('$' :: '\x7b' :: (name ++ (Piece.fallbackChars fallback ++ '\x7d' :: rest))) = _
      generalize hcs : name ++ (Piece.fallbackChars fallback ++ '\x7d' :: rest) = cs
        at hbody htake hdrop ⊢
      unfold token?
      split
      · rename_i heq
        cases heq
      · rename_i after heq
        cases heq
        -- the name is `env`, and after it comes a fallback
        have hafter : ':' :: after = Piece.fallbackChars fallback ++ '\x7d' :: rest := hdrop
        cases fallback with
        | none => cases hafter
        | some text =>
          cases hafter
          exact hbody
      · rename_i heq
        cases heq
        exact hbody
      · rename_i hno
        exact absurd rfl (hno cs)

/-- **The token that is read at the front of a text** is the only one there. -/
theorem token?_eq_some_iff {cs : List Char} {p : Piece} :
    token? cs = some p ↔ p.IsToken ∧ p.chars <+: cs := by
  constructor
  · exact isPrefix_of_token?
  · rintro ⟨h, rest, rfl⟩
    exact token?_append h rest

/-! ## Pieces -/

theorem piecesFrom_length (skipped rest : List Char) :
    piecesFrom skipped.length (skipped ++ rest) = pieces rest := by
  induction skipped with
  | nil => rfl
  | cons c skipped ih => exact ih

theorem pieces_token {p : Piece} (h : p.IsToken) (rest : List Char) :
    pieces (p.chars ++ rest) = p :: pieces rest := by
  have htoken := token?_append h rest
  obtain ⟨cs, hcs⟩ := h.chars_eq
  rw [hcs, List.cons_append] at htoken ⊢
  rw [pieces, piecesFrom, htoken]
  dsimp only
  rw [hcs, List.length_cons, Nat.add_sub_cancel, piecesFrom_length]

theorem pieces_literal {c : Char} {rest : List Char}
    (h : ∀ p : Piece, p.IsToken → ¬ p.chars <+: c :: rest) :
    pieces (c :: rest) = .literal c :: pieces rest := by
  have hnone : token? (c :: rest) = none := by
    rw [Option.eq_none_iff_forall_ne_some]
    intro p hp
    obtain ⟨htoken, hprefix⟩ := token?_eq_some_iff.1 hp
    exact h p htoken hprefix
  rw [pieces, piecesFrom, hnone]
  rfl

theorem decomposes_pieces : (cs : List Char) → Decomposes cs (pieces cs)
  | [] => .nil
  | c :: rest => by
    cases h : token? (c :: rest) with
    | none =>
      have hno : ∀ p : Piece, p.IsToken → ¬ p.chars <+: c :: rest := fun p htoken hprefix => by
        rw [token?_eq_some_iff.2 ⟨htoken, hprefix⟩] at h
        cases h
      rw [pieces_literal hno]
      exact .literal hno (decomposes_pieces rest)
    | some p =>
      obtain ⟨htoken, after, hafter⟩ := token?_eq_some_iff.1 h
      obtain ⟨cs, hcs⟩ := htoken.chars_eq
      have hlt : after.length < (c :: rest).length := by
        rw [← hafter, hcs, List.cons_append, List.length_cons, List.length_append]
        omega
      rw [← hafter, pieces_token htoken]
      exact .token htoken (decomposes_pieces after)
termination_by cs => cs.length
decreasing_by
  · exact Nat.lt_succ_self rest.length
  · exact hlt

/-- **Each text is cut in one way.** -/
theorem decomposes_iff {cs : List Char} {ps : List Piece} : Decomposes cs ps ↔ ps = pieces cs := by
  constructor
  · intro h
    induction h with
    | nil => rfl
    | token htoken _ ih => rw [pieces_token htoken, ih]
    | literal hno _ ih => rw [pieces_literal hno, ih]
  · rintro rfl
    exact decomposes_pieces cs

-- without a name after its colon `env` is no mark, but a name itself
example : pieces "$\x7benv:-x\x7d".toList = [.reference false ['e', 'n', 'v'] (some ['x'])] := by
  decide

/-! ## Texts without tokens -/

theorem Piece.IsToken.isLiteral {p : Piece} (h : p.IsToken) : p.isLiteral = false := by
  cases p with
  | literal c => exact absurd h id
  | escape => rfl
  | reference marked name fallback => rfl

theorem Decomposes.all_isLiteral_iff {cs : List Char} {ps : List Piece} (h : Decomposes cs ps) :
    ps.all Piece.isLiteral = true ↔ ∀ p : Piece, p.IsToken → ¬ p.chars <:+: cs := by
  induction h with
  | nil =>
    refine iff_of_true rfl fun p hp hinfix => ?_
    obtain ⟨cs, hcs⟩ := hp.chars_eq
    rw [List.infix_nil, hcs] at hinfix
    cases hinfix
  | @token p rest ps hp _ _ =>
    refine iff_of_false ?_ fun h => h p hp (List.prefix_append _ _).isInfix
    rw [List.all_cons, hp.isLiteral, Bool.false_and]
    decide
  | @literal c rest ps hno _ ih =>
    rw [List.all_cons, Piece.isLiteral, Bool.true_and, ih]
    refine forall₂_congr fun p hp => ?_
    rw [List.infix_cons_iff, or_iff_right (hno p hp)]

theorem Decomposes.flatMap_value {cs : List Char} {ps : List Piece} (h : Decomposes cs ps)
    (hall : ps.all Piece.isLiteral = true) (lookup : Lookup) :
    ps.flatMap (Piece.value lookup) = cs := by
  induction h with
  | nil => rfl
  | token hp _ _ =>
    rw [List.all_cons, hp.isLiteral, Bool.false_and] at hall
    cases hall
  | literal _ _ ih =>
    rw [List.all_cons, Piece.isLiteral, Bool.true_and] at hall
    rw [List.flatMap_cons, Piece.value, ih hall]
    rfl

theorem substitute_of_not_hasReferences {s : String} (h : hasReferences s = false)
    (lookup : Lookup) : substitute lookup s = s := by
  rw [hasReferences, Bool.not_eq_false'] at h
  rw [substitute, substituteChars, (decomposes_pieces s.toList).flatMap_value h,
    String.ofList_toList]

/-! ## What pieces stand for -/

theorem Piece.yields_iff {lookup : Lookup} {p : Piece} {cs : List Char} :
    p.Yields lookup cs ↔ p.value lookup = cs := by
  constructor
  · intro h
    cases h with
    | literal c => rfl
    | escape => rfl
    | set hname => rw [value, hname]
    | fallback hname => rw [value, hname, Option.getD_some]
    | unset hname => rw [value, hname, Option.getD_none]
  · rintro rfl
    cases p with
    | literal c => exact .literal c
    | escape => exact .escape
    | reference marked name fallback =>
      rw [value]
      cases hname : lookup (String.ofList name) with
      | some value => exact .set hname
      | none =>
        cases fallback with
        | some text => exact .fallback hname
        | none => exact .unset hname

theorem forall₂_yields_iff {lookup : Lookup} {ps : List Piece} {css : List (List Char)} :
    List.Forall₂ (Piece.Yields lookup) ps css ↔ ps.map (Piece.value lookup) = css := by
  have hyields : Piece.Yields lookup = fun p cs => p.value lookup = cs := by
    funext p cs
    exact propext Piece.yields_iff
  rw [hyields, ← List.forall₂_map_left_iff (R := Eq), List.forall₂_eq_eq_eq]

/-- **References are replaced in one pass.** What comes out is what the pieces of the text stand
for, which is not read again. -/
theorem substitute_single_pass (lookup : Lookup) (s : String) :
    (∃ ps css, (∀ qs, Decomposes s.toList qs ↔ qs = ps) ∧
      (∀ dss, List.Forall₂ (Piece.Yields lookup) ps dss ↔ dss = css) ∧
        substitute lookup s = String.ofList css.flatten) ∧
    (hasReferences s = false ↔ ∀ p : Piece, p.IsToken → ¬ p.chars <:+: s.toList) ∧
    (hasReferences s = false → substitute lookup s = s) := by
  refine ⟨⟨pieces s.toList, (pieces s.toList).map (Piece.value lookup), fun qs => decomposes_iff,
    fun dss => forall₂_yields_iff.trans eq_comm, ?_⟩, ?_, fun h =>
      substitute_of_not_hasReferences h lookup⟩
  · rw [substitute, substituteChars, List.flatMap]
  · rw [hasReferences, Bool.not_eq_false']
    exact (decomposes_pieces s.toList).all_isLiteral_iff

/-- One variable is set, to what looks like a reference and an escape. -/
def onlyA : Lookup := fun name => if name = "A" then some "$\x7bB\x7d$$" else none

/-- Values and fallbacks are put in as they are; a reference with a blank in its name is none. -/
theorem substitute_onlyA :
    substitute onlyA "$$$\x7benv:A:-x\x7d$\x7bB:-$$\x7d$\x7bB\x7d$\x7bA \x7d" =
      "$$\x7bB\x7d$$$$$\x7bA \x7d" := by
  obtain ⟨⟨ps, css, hps, hcss, hout⟩, -, -⟩ := substitute_single_pass onlyA
    "$$$\x7benv:A:-x\x7d$\x7bB:-$$\x7d$\x7bB\x7d$\x7bA \x7d"
  have hpieces : [.escape, .reference true ['A'] (some ['x']),
      .reference false ['B'] (some ['$', '$']), .reference false ['B'] none, .literal '$',
      .literal '\x7b', .literal 'A', .literal ' ', .literal '\x7d'] = ps :=
    (hps _).1 (decomposes_iff.2 (by decide +kernel))
  subst hpieces
  have hyields := (hcss _).1 (.cons .escape (.cons (.set rfl) (.cons (.fallback rfl)
    (.cons (.unset rfl) (.cons (.literal _) (.cons (.literal _) (.cons (.literal _)
      (.cons (.literal _) (.cons (.literal _) .nil)))))))))
  rw [hout, ← hyields]
  rfl

end Telemetry.Reference
