import Mathlib.Logic.Basic
import Mathlib.Tactic.SplitIfs
import Telemetry.Yaml.Token.Layout

/-!
# Tokens that are found stay

* `Layout.Step`: what taking a token comes to, and when.
* `Layout.step_of_token`: every token is taken in one of these ways.
* `Layout.grows_run`: what was found stays, and in its order unless a value is found, as the key
  before the value then gets a token of its own.
-/

namespace Telemetry.Yaml

/-- Tokens, the last one first, stay when others are found: they stay the first ones unless there is
a value among the others. -/
structure Grows (ts us : List Token) : Prop where
  kept : ts ⊆ us
  order : Token.value ∈ us ∨ ts <:+ us

theorem Grows.of_isSuffix {ts us : List Token} (h : ts <:+ us) : Grows ts us := ⟨h.subset, .inr h⟩

theorem Grows.of_cons {t : Token} {ts us : List Token} (h : us = t :: ts) : Grows ts us :=
  .of_isSuffix (h ▸ List.suffix_cons t ts)

theorem Grows.trans {ts us vs : List Token} (h : Grows ts us) (h' : Grows us vs) : Grows ts vs where
  kept := List.Subset.trans h.kept h'.kept
  order := by
    obtain hvalue | hts := h.order
    · exact .inl (h'.kept hvalue)
    · exact h'.order.imp_right hts.trans

/-- The tokens of collections and of aliases. -/
def Token.IsStructure : Token → Prop
  | .version _ _ | .tagShorthand _ _ | .documentStart | .documentEnd => False
  | .anchor _ | .tag _ _ | .scalar _ _ => False
  | _ => True

namespace Layout

variable {s s' : Layout}

/-! ## What a step leaves alone -/

theorem dropStale_eq_some (h : s.dropStale = some s') : ∃ keys, s' = { s with keys } := by
  obtain ⟨keys, -, h⟩ := Option.bind_eq_some_iff.1 h
  cases h
  exact ⟨keys, rfl⟩

theorem dropKey_eq_some (h : s.dropKey = some s') : ∃ keys, s' = { s with keys } := by
  unfold dropKey at h
  split at h
  · split_ifs at h
    cases h
    exact ⟨_, rfl⟩
  · cases h
    exact ⟨s.keys, rfl⟩

theorem noteKey_eq_some (h : s.noteKey = some s') : ∃ keys, s' = { s with keys } := by
  unfold noteKey at h
  split_ifs at h
  · obtain ⟨t, ht, rfl⟩ := Option.map_eq_some_iff.1 h
    obtain ⟨keys, rfl⟩ := dropKey_eq_some ht
    exact ⟨_, rfl⟩
  · cases h
    exact ⟨s.keys, rfl⟩

theorem dropKey_bind {α : Type} {f : Layout → Option α} {a : α} (h : s.dropKey.bind f = some a) :
    ∃ keys, f { s with keys } = some a := by
  obtain ⟨t, ht, h⟩ := Option.bind_eq_some_iff.1 h
  obtain ⟨keys, rfl⟩ := dropKey_eq_some ht
  exact ⟨keys, h⟩

theorem noteKey_bind {α : Type} {f : Layout → Option α} {a : α} (h : s.noteKey.bind f = some a) :
    ∃ keys, f { s with keys } = some a := by
  obtain ⟨t, ht, h⟩ := Option.bind_eq_some_iff.1 h
  obtain ⟨keys, rfl⟩ := noteKey_eq_some ht
  exact ⟨keys, h⟩

theorem closeTo_tokens {column : Int} : ∀ {outer : List Int} {s : Layout},
    s.tokens <:+ (closeTo column outer s).tokens
  | [], s => List.suffix_rfl
  | up :: more, s => by
    unfold closeTo
    split_ifs
    · refine List.IsSuffix.trans ?_ closeTo_tokens
      exact List.suffix_cons _ _
    · exact List.suffix_rfl

theorem closeBlocks_tokens (column : Int) (s : Layout) :
    s.tokens <:+ (s.closeBlocks column).tokens := by
  unfold closeBlocks
  split_ifs
  · exact closeTo_tokens
  · exact List.suffix_rfl

theorem openBlock_tokens (column : Nat) (t : Token) (s : Layout) :
    s.tokens <:+ (s.openBlock column none t).tokens := by
  unfold openBlock
  split_ifs
  · exact List.suffix_cons _ _
  · exact List.suffix_rfl

theorem skipGap_tokens : ∀ {fuel : Nat} {s : Layout}, (skipGap fuel s).tokens = s.tokens
  | 0, s => rfl
  | fuel + 1, s => by
    unfold skipGap
    dsimp only
    split_ifs
    all_goals first | exact skipGap_tokens | rfl

/-! ## Tokens that a step puts -/

/-- A token is put last, after marks of blocks. -/
def Puts (t : Token) (s s' : Layout) : Prop := ∃ us, s'.tokens = t :: us ∧ s.tokens <:+ us

theorem Puts.mem {t : Token} (h : Puts t s s') : t ∈ s'.tokens := by
  obtain ⟨us, hs', -⟩ := h
  rw [hs']
  exact List.mem_cons_self

theorem Puts.grows {t : Token} (h : Puts t s s') : Grows s.tokens s'.tokens := by
  obtain ⟨us, hs', hus⟩ := h
  rw [hs']
  exact .of_isSuffix (hus.trans (List.suffix_cons t us))

theorem puts_directive (h : s.directive = some s') : ∃ t, Puts t s s' := by
  obtain ⟨keys, h⟩ := dropKey_bind h
  dsimp only at h
  split_ifs at h with hgap hversion hshorthand
  · obtain ⟨⟨t, c⟩, -, h⟩ := Option.bind_eq_some_iff.1 h
    dsimp only at h
    split_ifs at h
    cases h
    exact ⟨t, _, rfl, closeBlocks_tokens (-1) s⟩
  · obtain ⟨⟨t, c⟩, -, h⟩ := Option.bind_eq_some_iff.1 h
    dsimp only at h
    split_ifs at h
    cases h
    exact ⟨t, _, rfl, closeBlocks_tokens (-1) s⟩
  · cases h

theorem puts_documentMarker {t : Token} (h : s.documentMarker t = some s') : Puts t s s' := by
  obtain ⟨keys, h⟩ := dropKey_bind h
  cases h
  exact ⟨_, rfl, closeBlocks_tokens (-1) s⟩

theorem puts_openFlow {t : Token} (h : s.openFlow t = some s') : Puts t s s' := by
  obtain ⟨keys, h⟩ := noteKey_bind h
  cases h
  exact ⟨_, rfl, List.suffix_rfl⟩

theorem puts_closeFlow {t : Token} (h : s.closeFlow t = some s') : Puts t s s' := by
  obtain ⟨keys, h⟩ := dropKey_bind h
  cases h
  refine ⟨_, rfl, ?_⟩
  change s.tokens <:+ Layout.tokens (if s.flow = 0 then _ else _)
  split_ifs <;> exact List.suffix_rfl

theorem puts_flowEntry (h : s.flowEntry = some s') : Puts .flowEntry s s' := by
  obtain ⟨keys, h⟩ := dropKey_bind h
  cases h
  exact ⟨_, rfl, List.suffix_rfl⟩

theorem puts_blockEntry (h : s.blockEntry = some s') : Puts .blockEntry s s' := by
  unfold blockEntry at h
  split_ifs at h
  obtain ⟨keys, h⟩ := dropKey_bind h
  cases h
  exact ⟨_, rfl, openBlock_tokens _ _ s⟩

theorem puts_explicitKey (h : s.explicitKey = some s') : Puts .key s s' := by
  unfold explicitKey at h
  split_ifs at h
  obtain ⟨keys, h⟩ := dropKey_bind h
  cases h
  exact ⟨_, rfl, openBlock_tokens _ _ s⟩

theorem named_eq_some {t : List Char → Token} (h : s.named t = some s') :
    ∃ name, s.cursor.name = some (name, s'.cursor) ∧ s'.tokens = t name :: s.tokens ∧
      s'.outer = s.outer ∧ s'.flow = s.flow := by
  obtain ⟨keys, h⟩ := noteKey_bind h
  obtain ⟨⟨name, c⟩, hname, h⟩ := Option.bind_eq_some_iff.1 h
  cases h
  exact ⟨name, hname, rfl, rfl, rfl⟩

theorem tag_eq_some (h : s.tag = some s') :
    ∃ handle suffix, s.cursor.tag = some (handle, suffix, s'.cursor) ∧
      s'.tokens = .tag handle suffix :: s.tokens ∧ s'.outer = s.outer ∧ s'.flow = s.flow ∧
      (atGap s'.cursor.rest || (s.flow != 0 && startsWith (· == ',') s'.cursor.rest)) = true := by
  obtain ⟨keys, h⟩ := noteKey_bind h
  obtain ⟨⟨handle, suffix, c⟩, htag, h⟩ := Option.bind_eq_some_iff.1 h
  dsimp only at h
  split_ifs at h with hgap
  cases h
  exact ⟨handle, suffix, htag, rfl, rfl, rfl, hgap⟩

theorem blockScalar_eq_some (h : s.blockScalar = some s') :
    ∃ text, s'.tokens = .scalar false text :: s.tokens := by
  obtain ⟨keys, h⟩ := dropKey_bind h
  obtain ⟨⟨text, c⟩, -, h⟩ := Option.bind_eq_some_iff.1 h
  cases h
  exact ⟨text, rfl⟩

theorem quotedScalar_eq_some {quote : Char} (h : s.quotedScalar quote = some s') :
    ∃ text, s'.tokens = .scalar false text :: s.tokens := by
  obtain ⟨keys, h⟩ := noteKey_bind h
  obtain ⟨⟨text, c⟩, -, h⟩ := Option.bind_eq_some_iff.1 h
  cases h
  exact ⟨text, rfl⟩

theorem plainScalar_eq_some (h : s.plainScalar = some s') :
    ∃ text broken, s.cursor.plainScalar (s.flow != 0) (s.indent + 1).toNat =
        some (text, broken, s'.cursor) ∧
      s'.tokens = .scalar true text :: s.tokens ∧ s'.outer = s.outer ∧ s'.flow = s.flow := by
  obtain ⟨keys, h⟩ := noteKey_bind h
  obtain ⟨⟨text, broken, c⟩, hc, h⟩ := Option.bind_eq_some_iff.1 h
  cases h
  exact ⟨text, broken, hc, rfl, rfl, rfl⟩

/-- A token that is inserted stands among the others, which stay. -/
theorem insertAt_tokens (position : Nat) (t : Token) (s : Layout) :
    s.tokens ⊆ (s.insertAt position t).tokens := by
  intro u hu
  change u ∈ s.tokens.take (s.tokens.length - position) ++
    t :: s.tokens.drop (s.tokens.length - position)
  rw [← List.take_append_drop (s.tokens.length - position) s.tokens, List.mem_append] at hu
  simp only [List.mem_append, List.mem_cons]
  exact hu.imp_right .inr

theorem openBlock_kept (column : Nat) (position : Option Nat) (t : Token) (s : Layout) :
    s.tokens ⊆ (s.openBlock column position t).tokens := by
  unfold openBlock
  split_ifs
  · cases position with
    | none => exact List.subset_cons_self t s.tokens
    | some position => exact insertAt_tokens position t _
  · exact List.Subset.refl _

theorem value_eq_some (h : s.value = some s') :
    s.tokens ⊆ s'.tokens ∧ Token.value ∈ s'.tokens := by
  unfold value at h
  split at h
  · rename_i k rest hkeys
    cases h
    refine ⟨List.subset_cons_of_subset _ ?_, List.mem_cons_self⟩
    exact List.Subset.trans (insertAt_tokens k.position .key s) (openBlock_kept _ _ _ _)
  · split_ifs at h
    cases h
    exact ⟨List.subset_cons_of_subset _ (openBlock_kept _ _ _ s), List.mem_cons_self⟩

/-! ## Steps -/

/-- What taking the token at a character comes to. -/
inductive Step (s : Layout) (c : Char) (rest : List Char) (s' : Layout) : Prop
  | structural (t : Token) (ht : t.IsStructure) (hmem : t ∈ s'.tokens)
      (hgrows : Grows s.tokens s'.tokens)
  | directive (hc : c = '%') (h : s.directive = some s')
  | marker (t : Token) (ht : t = .documentStart ∨ t = .documentEnd)
      (hmarker : s.cursor.atMarker = true) (h : s.documentMarker t = some s')
  | anchor (hc : c = '&') (h : s.named .anchor = some s')
  | tag (hc : c = '!') (h : s.tag = some s')
  | quoted (text : List Char) (h : s'.tokens = .scalar false text :: s.tokens)
  | plain (hc : startsPlain (s.flow != 0) c rest = true) (h : s.plainScalar = some s')

theorem Puts.step {t : Token} {c : Char} {rest : List Char} (h : Puts t s s')
    (ht : t.IsStructure) : Step s c rest s' := .structural t ht h.mem h.grows

/-- **Every token is taken in one of these ways.** -/
theorem step_of_token {c : Char} {rest : List Char} (h : s.token c rest = some s') :
    Step s c rest s' := by
  unfold token at h
  -- in the order in which the characters are asked for
  obtain ⟨hc, h⟩ | ⟨-, h⟩ := ite_eq_iff.1 h
  · exact .directive hc.2 h
  obtain ⟨hc, h⟩ | ⟨-, h⟩ := ite_eq_iff.1 h
  · refine .marker _ ?_ hc h
    split_ifs
    · exact .inl rfl
    · exact .inr rfl
  obtain ⟨hc, h⟩ | ⟨-, h⟩ := ite_eq_iff.1 h
  · exact (puts_openFlow h).step trivial
  obtain ⟨hc, h⟩ | ⟨-, h⟩ := ite_eq_iff.1 h
  · exact (puts_openFlow h).step trivial
  obtain ⟨hc, h⟩ | ⟨-, h⟩ := ite_eq_iff.1 h
  · exact (puts_closeFlow h).step trivial
  obtain ⟨hc, h⟩ | ⟨-, h⟩ := ite_eq_iff.1 h
  · exact (puts_closeFlow h).step trivial
  obtain ⟨hc, h⟩ | ⟨-, h⟩ := ite_eq_iff.1 h
  · exact (puts_flowEntry h).step trivial
  obtain ⟨hc, h⟩ | ⟨-, h⟩ := ite_eq_iff.1 h
  · exact (puts_blockEntry h).step trivial
  obtain ⟨hc, h⟩ | ⟨-, h⟩ := ite_eq_iff.1 h
  · exact (puts_explicitKey h).step trivial
  obtain ⟨hc, h⟩ | ⟨-, h⟩ := ite_eq_iff.1 h
  · obtain ⟨hkept, hvalue⟩ := value_eq_some h
    exact .structural .value trivial hvalue ⟨hkept, .inl hvalue⟩
  obtain ⟨hc, h⟩ | ⟨-, h⟩ := ite_eq_iff.1 h
  · obtain ⟨name, -, htokens, -⟩ := named_eq_some h
    exact .structural (.alias name) trivial (htokens ▸ List.mem_cons_self) (.of_cons htokens)
  obtain ⟨hc, h⟩ | ⟨-, h⟩ := ite_eq_iff.1 h
  · exact .anchor hc h
  obtain ⟨hc, h⟩ | ⟨-, h⟩ := ite_eq_iff.1 h
  · exact .tag hc h
  obtain ⟨hc, h⟩ | ⟨-, h⟩ := ite_eq_iff.1 h
  · obtain ⟨text, htokens⟩ := blockScalar_eq_some h
    exact .quoted text htokens
  obtain ⟨hc, h⟩ | ⟨-, h⟩ := ite_eq_iff.1 h
  · obtain ⟨text, htokens⟩ := quotedScalar_eq_some h
    exact .quoted text htokens
  obtain ⟨hc, h⟩ | ⟨-, h⟩ := ite_eq_iff.1 h
  · exact .plain hc h
  · cases h

theorem Step.grows {c : Char} {rest : List Char} (h : Step s c rest s') :
    Grows s.tokens s'.tokens := by
  cases h with
  | structural t ht hmem hgrows => exact hgrows
  | directive hc h =>
    obtain ⟨t, hputs⟩ := puts_directive h
    exact hputs.grows
  | marker t ht hmarker h => exact (puts_documentMarker h).grows
  | anchor hc h =>
    obtain ⟨name, -, htokens, -⟩ := named_eq_some h
    exact .of_cons htokens
  | tag hc h =>
    obtain ⟨handle, suffix, -, htokens, -⟩ := tag_eq_some h
    exact .of_cons htokens
  | quoted text h => exact .of_cons h
  | plain hc h =>
    obtain ⟨text, broken, -, htokens, -⟩ := plainScalar_eq_some h
    exact .of_cons htokens

/-! ## Runs -/

theorem grows_finish {tokens : List Token} (h : s.finish = some tokens) :
    Grows s.tokens tokens.reverse := by
  obtain ⟨keys, h⟩ := dropKey_bind h
  cases h
  rw [List.reverse_reverse]
  exact .of_isSuffix (closeBlocks_tokens (-1) s)

/-- **What was found stays**, to the end of the text. -/
theorem grows_run {tokens : List Token} : ∀ {fuel : Nat} {s : Layout}, s.run fuel = some tokens →
    Grows s.tokens tokens.reverse
  | 0, _, h => by cases h
  | fuel + 1, s, h => by
    rw [run] at h
    obtain ⟨t, ht, h⟩ := Option.bind_eq_some_iff.1 h
    obtain ⟨keys, rfl⟩ := dropStale_eq_some ht
    dsimp only at h
    generalize hu : closeBlocks _ _ = u at h
    have hgrows : Grows s.tokens u.tokens := by
      rw [← hu]
      refine .of_isSuffix (List.IsSuffix.trans ?_ (closeBlocks_tokens _ _))
      exact ⟨[], skipGap_tokens.symm⟩
    refine hgrows.trans ?_
    split at h
    · exact grows_finish h
    · obtain ⟨s', hstep, hrun⟩ := Option.bind_eq_some_iff.1 h
      exact (step_of_token hstep).grows.trans (grows_run hrun)

end Layout

end Telemetry.Yaml
