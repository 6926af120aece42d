import Telemetry.Proofs.Reference.Grammar
import Telemetry.Proofs.Tree.Outline

/-!
# Expansion is local

* `Tree.Rewrites`: a tree next to one that differs from it in what stands at its texts only, each
  text being replaced by itself alone.
* `Tree.RefersTo`: the variables that the references in the texts of a tree are to. A name of an
  entry refers to nothing, nor does what stands behind an escape, in a fallback or in a malformed
  reference.
* `rewrites_expand`, `expand_congr`: the replacement of references rewrites texts, and looks at
  nothing but the variables referred to.
* **`expand_local`**: both together, with scalars at the texts.
-/

namespace Telemetry

/-! ## Variables of a text -/

namespace Reference

theorem mem_names_iff {s name : String} : name ∈ names s ↔
    ∃ marked cs fallback, .reference marked cs fallback ∈ pieces s.toList ∧
      name = String.ofList cs := by
  rw [names, List.mem_filterMap]
  constructor
  · rintro ⟨p, hp, hname⟩
    cases p with
    | literal c => cases hname
    | escape => cases hname
    | reference marked cs fallback => exact ⟨marked, cs, fallback, hp, (Option.some.inj hname).symm⟩
  · rintro ⟨marked, cs, fallback, hp, rfl⟩
    exact ⟨_, hp, rfl⟩

/-- **What stands for a text** depends on the variables it refers to. -/
theorem substitute_congr {lookup other : Lookup} {s : String}
    (h : ∀ name ∈ names s, lookup name = other name) :
    substitute lookup s = substitute other s := by
  refine congrArg String.ofList (List.flatMap_congr fun p hp => ?_)
  cases p with
  | literal c => rfl
  | escape => rfl
  | reference marked cs fallback =>
    have hcs : lookup (String.ofList cs) = other (String.ofList cs) :=
      h _ (mem_names_iff.2 ⟨marked, cs, fallback, hp, rfl⟩)
    rw [Piece.value, Piece.value, hcs]

theorem expandText_congr {lookup other : Lookup} {s : String}
    (h : ∀ name ∈ names s, lookup name = other name) :
    expandText lookup s = expandText other s := by
  rw [expandText, expandText, substitute_congr h]

/-- A text without tokens stays. -/
theorem expandText_of_no_token {s : String} (h : ∀ p : Piece, p.IsToken → ¬ p.chars <:+: s.toList)
    (lookup : Lookup) : expandText lookup s = .text s := by
  have hnone : hasReferences s = false := (substitute_single_pass lookup s).2.1.2 h
  rw [expandText, hnone]
  rfl

end Reference

namespace Tree

/-! ## Scalars at the texts -/

/-- A scalar: null, a boolean, a number or a text. -/
def IsScalar : Tree → Prop
  | .list _ => False
  | .node _ => False
  | _ => True

theorem isScalar_of_outline {t : Tree} (h : t.outline = .null) : t.IsScalar := by
  cases t with
  | list items => cases h
  | node es => cases h
  | _ => trivial

mutual

/-- A tree, and one that has the same names, lengths and scalars and, in place of each text, what
`leaf` makes of this text. -/
inductive Rewrites (leaf : String → Tree) : Tree → Tree → Prop
  | null : Rewrites leaf .null .null
  | bool (b : Bool) : Rewrites leaf (.bool b) (.bool b)
  | number (n : Number) : Rewrites leaf (.number n) (.number n)
  | text (s : String) : Rewrites leaf (.text s) (leaf s)
  | list {ts us : List Tree} : RewritesItems leaf ts us → Rewrites leaf (.list ts) (.list us)
  | node {es fs : Entries} : RewritesEntries leaf es fs → Rewrites leaf (.node es) (.node fs)

/-- Lists that are rewritten item by item. -/
inductive RewritesItems (leaf : String → Tree) : List Tree → List Tree → Prop
  | nil : RewritesItems leaf [] []
  | cons {t u : Tree} {ts us : List Tree} :
      Rewrites leaf t u → RewritesItems leaf ts us → RewritesItems leaf (t :: ts) (u :: us)

/-- Entries whose values are rewritten, under the names they have. -/
inductive RewritesEntries (leaf : String → Tree) : Entries → Entries → Prop
  | nil : RewritesEntries leaf [] []
  | cons {name : String} {t u : Tree} {es fs : Entries} : Rewrites leaf t u →
      RewritesEntries leaf es fs → RewritesEntries leaf ((name, t) :: es) ((name, u) :: fs)

end

mutual

/-- **The replacement of references rewrites texts.** -/
theorem rewrites_expand (lookup : Lookup) :
    (t : Tree) → Rewrites (Reference.expandText lookup) t (t.expand lookup)
  | .null => .null
  | .bool b => .bool b
  | .number n => .number n
  | .text s => .text s
  | .list items => .list (rewritesItems_expandItems lookup items)
  | .node es => .node (rewritesEntries_expandEntries lookup es)

theorem rewritesItems_expandItems (lookup : Lookup) :
    (ts : List Tree) → RewritesItems (Reference.expandText lookup) ts (expandItems lookup ts)
  | [] => .nil
  | t :: ts => .cons (rewrites_expand lookup t) (rewritesItems_expandItems lookup ts)

theorem rewritesEntries_expandEntries (lookup : Lookup) :
    (es : Entries) → RewritesEntries (Reference.expandText lookup) es (expandEntries lookup es)
  | [] => .nil
  | (_, t) :: es => .cons (rewrites_expand lookup t) (rewritesEntries_expandEntries lookup es)

end

/-! ## Variables of a tree -/

/-- A variable that a reference in some text of a tree is to. -/
def RefersTo (t : Tree) (name : String) : Prop :=
  ∃ s ∈ t.texts, ∃ ps, Reference.Decomposes s.toList ps ∧
    ∃ marked cs fallback, .reference marked cs fallback ∈ ps ∧ name = String.ofList cs

theorem refersTo_iff {t : Tree} {name : String} : t.RefersTo name ↔ name ∈ t.referenceNames := by
  simp only [RefersTo, Reference.decomposes_iff, exists_eq_left, referenceNames, List.mem_flatMap,
    Reference.mem_names_iff]

mutual

theorem expand_congr_texts {lookup other : Lookup} : (t : Tree) →
    (∀ s ∈ t.texts, Reference.expandText lookup s = Reference.expandText other s) →
    t.expand lookup = t.expand other
  | .null, _ | .bool _, _ | .number _, _ => rfl
  | .text s, h => h s (List.mem_singleton_self s)
  | .list items, h => congrArg Tree.list (expandItems_congr_texts items h)
  | .node es, h => congrArg Tree.node (expandEntries_congr_texts es h)

theorem expandItems_congr_texts {lookup other : Lookup} : (ts : List Tree) →
    (∀ s ∈ textsOfItems ts, Reference.expandText lookup s = Reference.expandText other s) →
    expandItems lookup ts = expandItems other ts
  | [], _ => rfl
  | t :: ts, h => by
    obtain ⟨ht, hts⟩ := List.forall_mem_append.1 h
    rw [expandItems, expandItems, expand_congr_texts t ht, expandItems_congr_texts ts hts]

theorem expandEntries_congr_texts {lookup other : Lookup} : (es : Entries) →
    (∀ s ∈ textsOfEntries es, Reference.expandText lookup s = Reference.expandText other s) →
    expandEntries lookup es = expandEntries other es
  | [], _ => rfl
  | (_, t) :: es, h => by
    obtain ⟨ht, hes⟩ := List.forall_mem_append.1 h
    rw [expandEntries, expandEntries, expand_congr_texts t ht, expandEntries_congr_texts es hes]

end

/-- **Nothing but the variables referred to is looked at.** -/
theorem expand_congr {lookup other : Lookup} {t : Tree}
    (h : ∀ name, t.RefersTo name → lookup name = other name) :
    t.expand lookup = t.expand other := by
  refine expand_congr_texts t fun s hs => Reference.expandText_congr fun name hname => ?_
  exact h name (refersTo_iff.2 (List.mem_flatMap.2 ⟨s, hs, hname⟩))

/-- **The replacement of references is local.** Only texts change, each by itself, and only the
variables in their references are looked at. -/
theorem expand_local (lookup : Lookup) :
    (∃ leaf : String → Tree,
      (∀ s, (leaf s).IsScalar ∧
        ((∀ p : Reference.Piece, p.IsToken → ¬ p.chars <:+: s.toList) → leaf s = .text s)) ∧
      ∀ t : Tree, Rewrites leaf t (t.expand lookup)) ∧
    ∀ (t : Tree) (other : Lookup), (∀ name, t.RefersTo name → lookup name = other name) →
      t.expand lookup = t.expand other := by
  refine ⟨⟨Reference.expandText lookup, fun s => ⟨?_, fun h => ?_⟩, rewrites_expand lookup⟩,
    fun t other h => expand_congr h⟩
  · exact isScalar_of_outline (Reference.outline_expandText lookup s)
  · exact Reference.expandText_of_no_token h lookup

/-- A tree that refers to `HOST` alone: the other names stand in the name of an entry, behind an
escape, in a fallback, and in a malformed reference. -/
def decoys : Tree :=
  .node [("$\x7bKEY\x7d", .text "$$\x7bESCAPED\x7d"),
    ("hosts", .list [.text "$\x7bHOST\x7d", .text "$\x7bHOST:-$\x7bINNER\x7d\x7d", .bool true]),
    ("port", .text "$\x7bPORT:8080\x7d")]

/-- `HOST` set to what a document would read as a list, every other variable to `others`. -/
def hosted (others : Option String) : Lookup := fun name =>
  if name = "HOST" then some "[1, 2]" else others

theorem expand_decoys :
    (∀ name, decoys.RefersTo name → hosted none name = hosted (some "other") name) ∧
    (∀ p : Reference.Piece, p.IsToken → ¬ p.chars <:+: "$\x7bPORT:8080\x7d".toList) ∧
    (∃ leaf : String → Tree, leaf "$\x7bPORT:8080\x7d" = .text "$\x7bPORT:8080\x7d" ∧
      (leaf "$\x7bHOST\x7d").IsScalar ∧ Rewrites leaf decoys (decoys.expand (hosted none))) ∧
    decoys.expand (hosted none) = decoys.expand (hosted (some "other")) := by
  have hagree : ∀ name, decoys.RefersTo name → hosted none name = hosted (some "other") name := by
    intro name hname
    have hmem : name ∈ ["HOST", "HOST"] := refersTo_iff.1 hname
    have hhost : name = "HOST" := by simpa using hmem
    rw [hosted, hosted, if_pos hhost, if_pos hhost]
  have hplain : ∀ p : Reference.Piece, p.IsToken → ¬ p.chars <:+: "$\x7bPORT:8080\x7d".toList :=
    (Reference.decomposes_pieces _).all_isLiteral_iff.1 (by decide)
  obtain ⟨⟨leaf, hleaf, hrewrites⟩, hcongr⟩ := expand_local (hosted none)
  exact ⟨hagree, hplain, ⟨leaf, (hleaf _).2 hplain, (hleaf _).1, hrewrites decoys⟩,
    hcongr decoys _ hagree⟩

end Tree

end Telemetry
