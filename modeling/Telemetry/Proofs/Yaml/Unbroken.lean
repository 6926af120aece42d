import Mathlib.Data.List.TakeWhile
import Telemetry.Proofs.Yaml.Growth
import Telemetry.Proofs.Yaml.Node

/-!
# Texts without white space

* `Yaml.Unbroken`: texts without blanks, line breaks and byte order marks. Nothing is skipped in
  them but a comment, which reaches to the end.
* `Cursor.tag_isSuffix`: what is left after a tag is an end of the text.
* `Layout.run_cases`: one step of a run.
* `Layout.directive_eq_none`: there are no directives.
-/

namespace Telemetry.Yaml

/-- White space: blanks, line breaks, and the byte order mark, which is skipped where a line
begins. -/
def isWhite (c : Char) : Bool := isBlank c || isBreak c || c == byteOrderMark

/-- Texts without white space. -/
def Unbroken (cs : List Char) : Prop := ∀ c ∈ cs, isWhite c = false

namespace Unbroken

variable {cs : List Char}

theorem of_isSuffix {ds : List Char} (h : Unbroken cs) (hds : ds <:+ cs) : Unbroken ds :=
  fun c hc => h c (hds.subset hc)

theorem startsWith_eq_false {p : Char → Bool} (h : Unbroken cs)
    (hp : ∀ c, p c = true → isWhite c = true) : startsWith p cs = false := by
  cases cs with
  | nil => rfl
  | cons c cs =>
    have hc : isWhite c = false := h c List.mem_cons_self
    cases hpc : p c with
    | true => rw [hp c hpc] at hc; cases hc
    | false => exact hpc

theorem isBreak_eq_false (h : Unbroken cs) {c : Char} (hc : c ∈ cs) : isBreak c = false := by
  have hwhite := h c hc
  simp_all [isWhite]

theorem startsWith_isBreak (h : Unbroken cs) : startsWith isBreak cs = false :=
  h.startsWith_eq_false fun c hc => by simp [isWhite, hc]

theorem startsWith_gap (h : Unbroken cs) :
    startsWith (fun c => isBlank c || isBreak c) cs = false :=
  h.startsWith_eq_false fun c hc => by simp [isWhite, hc]

/-- A gap can only be the end. -/
theorem atGap_iff (h : Unbroken cs) : atGap cs = true ↔ cs = [] := by
  rw [atGap, h.startsWith_gap, Bool.or_false, List.isEmpty_iff]

end Unbroken

theorem isWhite_of_isWordChar {c : Char} (h : isWordChar c = true) : isWhite c = false := by
  have hne : ∀ d, isWordChar d = false → (c == d) = false := fun d hd =>
    beq_eq_false_iff_ne.2 (ne_of_isWordChar h hd)
  have hbreak : isBreak c = false := by
    have hc := toNat_of_isWordChar h
    simp only [isBreak, Bool.or_eq_false_iff, beq_eq_false_iff_ne]
    omega
  rw [isWhite, isBlank, hne ' ' (by decide), hne '\t' (by decide), hbreak,
    hne byteOrderMark (by decide)]
  rfl

theorem IsWord.unbroken {cs : List Char} (h : IsWord cs) : Unbroken cs :=
  fun c hc => isWhite_of_isWordChar (List.all_eq_true.1 h.chars c hc)

/-! ## Places -/

namespace Cursor

@[simp] theorem skip_rest (c : Cursor) : c.skip.rest = c.rest.drop 1 := by
  unfold skip
  split <;> simp_all

@[simp] theorem skipMany_rest : ∀ (n : Nat) (c : Cursor), (skipMany n c).rest = c.rest.drop n
  | 0, c => rfl
  | n + 1, c => by
    rw [skipMany, skipMany_rest, skip_rest, List.drop_drop, Nat.add_comm]

@[simp] theorem takeWhile_rest (p : Char → Bool) (c : Cursor) :
    (c.takeWhile p).2.rest = c.rest.dropWhile p := by
  calc (c.takeWhile p).2.rest
      = c.rest.drop (c.rest.takeWhile p).length := skipMany_rest _ c
    _ = (c.rest.takeWhile p ++ c.rest.dropWhile p).drop (c.rest.takeWhile p).length := by
        rw [List.takeWhile_append_dropWhile]
    _ = c.rest.dropWhile p := List.drop_left

theorem skipWhile_eq_self {p : Char → Bool} {c : Cursor} (h : startsWith p c.rest = false) :
    c.skipWhile p = c := by
  have hnil : c.rest.takeWhile p = [] := by
    cases hrest : c.rest with
    | nil => rfl
    | cons d rest =>
      rw [hrest] at h
      exact List.takeWhile_cons_of_neg (Bool.eq_false_iff.1 h)
  rw [skipWhile, takeWhile, hnil]
  rfl

theorem skipWhile_of_end {c : Cursor} (p : Char → Bool) (h : c.rest = []) :
    c.skipWhile p = c :=
  skipWhile_eq_self (by rw [h]; rfl)

theorem versionNumber_of_end {c : Cursor} (h : c.rest = []) : c.versionNumber = none := by
  rw [versionNumber, skipWhile_of_end isBlank h, shortNumber, takeWhile, h]
  rfl

theorem shorthand_of_end {c : Cursor} (h : c.rest = []) : c.shorthand = none := by
  rw [shorthand, skipWhile_of_end isBlank h, handle, h]
  rfl

/-! ## What is left -/

theorem skip_isSuffix (c : Cursor) : c.skip.rest <:+ c.rest := by
  rw [skip_rest]
  exact List.drop_suffix 1 c.rest

theorem skipMany_isSuffix (n : Nat) (c : Cursor) : (skipMany n c).rest <:+ c.rest := by
  rw [skipMany_rest]
  exact List.drop_suffix n c.rest

theorem takeWhile_isSuffix (p : Char → Bool) (c : Cursor) : (c.takeWhile p).2.rest <:+ c.rest := by
  rw [takeWhile_rest]
  exact List.dropWhile_suffix p

theorem handle_isSuffix {c c' : Cursor} {name : List Char} (h : c.handle = some (name, c')) :
    c'.rest <:+ c.rest := by
  unfold handle at h
  dsimp only at h
  split_ifs at h
  · cases h
    exact ((skip_isSuffix _).trans (takeWhile_isSuffix isNameChar _)).trans (skip_isSuffix c)
  · cases h
    exact (takeWhile_isSuffix isNameChar _).trans (skip_isSuffix c)

theorem continuation_isSuffix : ∀ {n : Nat} {c c' : Cursor} {bytes : Bytes},
    continuation n c = some (bytes, c') → c'.rest <:+ c.rest
  | 0, _, _, _, h => by
    cases h
    exact List.suffix_rfl
  | n + 1, c, c', bytes, h => by
    rw [continuation] at h
    obtain ⟨byte, -, h⟩ := Option.bind_eq_some_iff.1 h
    dsimp only at h
    split_ifs at h
    obtain ⟨⟨more, d⟩, hmore, h⟩ := Option.bind_eq_some_iff.1 h
    cases h
    exact (continuation_isSuffix hmore).trans (skipMany_isSuffix 3 c)

theorem escapedChar_isSuffix {c c' : Cursor} {bytes : Bytes}
    (h : c.escapedChar = some (bytes, c')) : c'.rest <:+ c.rest := by
  obtain ⟨lead, -, h⟩ := Option.bind_eq_some_iff.1 h
  obtain ⟨n, -, h⟩ := Option.bind_eq_some_iff.1 h
  obtain ⟨⟨more, d⟩, hmore, h⟩ := Option.bind_eq_some_iff.1 h
  cases h
  exact (continuation_isSuffix hmore).trans (skipMany_isSuffix 3 c)

theorem tagBytes_isSuffix {verbatim : Bool} : ∀ {fuel : Nat} {c c' : Cursor} {taken bytes : Bytes},
    tagBytes verbatim taken fuel c = some (bytes, c') → c'.rest <:+ c.rest
  | 0, _, _, _, _, h => by
    cases h
    exact List.suffix_rfl
  | fuel + 1, c, c', taken, bytes, h => by
    rw [tagBytes] at h
    split at h
    · cases h
      exact List.suffix_rfl
    · split_ifs at h
      · obtain ⟨⟨decoded, d⟩, hd, h⟩ := Option.bind_eq_some_iff.1 h
        exact (tagBytes_isSuffix h).trans (escapedChar_isSuffix hd)
      · exact (tagBytes_isSuffix h).trans (skip_isSuffix c)
      · cases h
        exact List.suffix_rfl

theorem tag_isSuffix {c c' : Cursor} {name : List Char} {bytes : Bytes}
    (h : c.tag = some (name, bytes, c')) : c'.rest <:+ c.rest := by
  unfold tag at h
  split at h
  · obtain ⟨⟨suffix, d⟩, hd, h⟩ := Option.bind_eq_some_iff.1 h
    dsimp only at h
    split_ifs at h
    cases h
    exact ((skip_isSuffix d).trans (tagBytes_isSuffix hd)).trans (skipMany_isSuffix 2 c)
  · obtain ⟨⟨name, d⟩, hd, h⟩ := Option.bind_eq_some_iff.1 h
    dsimp only at h
    split_ifs at h
    · obtain ⟨⟨suffix, e⟩, he, h⟩ := Option.bind_eq_some_iff.1 h
      dsimp only at h
      split_ifs at h
      cases h
      exact (tagBytes_isSuffix he).trans (handle_isSuffix hd)
    · obtain ⟨⟨suffix, e⟩, he, h⟩ := Option.bind_eq_some_iff.1 h
      dsimp only at h
      split_ifs at h
      · cases h
        exact (tagBytes_isSuffix he).trans (handle_isSuffix hd)
      · cases h
        exact (tagBytes_isSuffix he).trans (handle_isSuffix hd)

/-! ## Anchors and document markers -/

/-- The marks that may stand right after the name of an anchor. -/
def closesName (d : Char) : Bool := ['?', ':', ',', ']', '\x7d', '%', '@', '\x60'].contains d

theorem isWordChar_of_closesName {d : Char} (h : closesName d = true) : isWordChar d = false := by
  have hall : (['?', ':', ',', ']', '\x7d', '%', '@', '\x60'].all fun d => !isWordChar d) = true := by
    decide
  simpa using List.all_eq_true.1 hall d (List.contains_iff_mem.1 h)

/-- After the name of an anchor the text ends, or a mark follows. -/
theorem name_cases {c c' : Cursor} {name : List Char} (h : Unbroken c.rest)
    (hname : c.name = some (name, c')) :
    c'.rest <:+ c.rest ∧ (c'.rest = [] ∨ startsWith closesName c'.rest = true) := by
  unfold Cursor.name at hname
  dsimp only at hname
  split_ifs at hname with hclosed
  cases hname
  have hsuffix : (c.skip.takeWhile isNameChar).2.rest <:+ c.rest :=
    (takeWhile_isSuffix isNameChar _).trans (skip_isSuffix c)
  refine ⟨hsuffix, ?_⟩
  rw [Bool.or_eq_true, not_or, Bool.not_eq_true', Bool.not_eq_false] at hclosed
  exact (Bool.or_eq_true_iff.1 hclosed.2).imp_left (h.of_isSuffix hsuffix).atGap_iff.1

/-- A document marker that nothing follows is the rest of the text. -/
theorem rest_of_atMarker {c : Cursor} (h : Unbroken c.rest) (hc : c.atMarker = true) :
    c.rest = ['-', '-', '-'] ∨ c.rest = ['.', '.', '.'] := by
  have hend : ∀ marks rest, c.rest = marks ++ rest → atGap rest = true → c.rest = marks := by
    intro marks rest hrest hgap
    have hsuffix : rest <:+ c.rest := ⟨marks, hrest.symm⟩
    rw [hrest, (h.of_isSuffix hsuffix).atGap_iff.1 hgap, List.append_nil]
  rw [atMarker, Bool.and_eq_true] at hc
  obtain ⟨-, hc⟩ := hc
  split at hc
  · rename_i rest hrest
    exact .inl (hend ['-', '-', '-'] rest hrest hc)
  · rename_i rest hrest
    exact .inr (hend ['.', '.', '.'] rest hrest hc)
  · cases hc

end Cursor

namespace Layout

variable {s s' : Layout}

/-- In a text without white space only a comment is skipped, and it reaches to the end. -/
theorem skipGap_cases (fuel : Nat) (h : Unbroken s.cursor.rest) :
    skipGap (fuel + 1) s = s ∨ startsWith (· == '#') s.cursor.rest = true ∧
      (skipGap (fuel + 1) s).cursor.rest = [] ∧ (skipGap (fuel + 1) s).outer = s.outer := by
  have hmark : startsWith (· == byteOrderMark) s.cursor.rest = false :=
    h.startsWith_eq_false fun c hc => by simp [isWhite, hc]
  have hblank : ∀ tabs : Bool,
      startsWith (fun d => d == ' ' || (tabs && d == '\t')) s.cursor.rest = false := fun tabs =>
    h.startsWith_eq_false fun c hc => by
      simp only [Bool.or_eq_true, Bool.and_eq_true, beq_iff_eq] at hc
      rcases hc with rfl | ⟨-, rfl⟩ <;> rfl
  rw [skipGap, hmark, Bool.and_false, if_neg Bool.false_ne_true,
    Cursor.skipWhile_eq_self (hblank _), Cursor.skipComment]
  by_cases hcomment : startsWith (· == '#') s.cursor.rest = true
  · have hend : (s.cursor.skipWhile fun d => !isBreak d).rest = [] := by
      rw [Cursor.skipWhile, Cursor.takeWhile_rest]
      exact List.dropWhile_eq_nil_iff.2 fun c hc => by simp [h.isBreak_eq_false hc]
    rw [if_pos hcomment, hend]
    exact .inr ⟨hcomment, hend, rfl⟩
  · rw [if_neg hcomment, h.startsWith_isBreak]
    exact .inl rfl

theorem closeBlocks_eq_self {column : Int} (h : s.outer = []) : s.closeBlocks column = s := by
  rw [closeBlocks, h, closeTo, ite_self]

theorem finish_eq_some {tokens : List Token} (houter : s.outer = []) (h : s.finish = some tokens) :
    tokens = s.tokens.reverse := by
  rw [finish, closeBlocks_eq_self houter] at h
  obtain ⟨keys, h⟩ := dropKey_bind h
  cases h
  rfl

/-- **One step through a text without white space**: it ends here, or with a comment, or the next
token is taken. -/
theorem run_cases {fuel : Nat} {tokens : List Token} (h : Unbroken s.cursor.rest)
    (houter : s.outer = []) (hrun : s.run (fuel + 1) = some tokens) :
    (tokens = s.tokens.reverse ∧ ∀ c rest, s.cursor.rest = c :: rest → c = '#') ∨
    ∃ c rest keys s', s.cursor.rest = c :: rest ∧
      token c rest { s with keys } = some s' ∧ s'.run fuel = some tokens := by
  rw [run] at hrun
  obtain ⟨t, ht, hrun⟩ := Option.bind_eq_some_iff.1 hrun
  obtain ⟨keys, hkeys⟩ := dropStale_eq_some ht
  have htokens : t.tokens = s.tokens := by
    rw [hkeys]
    exact skipGap_tokens
  -- either nothing is skipped, or a comment is, after which nothing is left
  obtain hgap | ⟨hcomment, hend, hgap⟩ := skipGap_cases s.cursor.rest.length h
  · rw [hgap] at hkeys
    have houter' : t.outer = [] := by rw [hkeys]; exact houter
    simp only [closeBlocks_eq_self houter'] at hrun
    split at hrun
    · rename_i hend
      rw [hkeys] at hend
      refine .inl ⟨htokens ▸ finish_eq_some houter' hrun, fun c rest hrest => ?_⟩
      cases hrest.symm.trans hend
    · rename_i c rest hrest
      obtain ⟨s', hs', hrun⟩ := Option.bind_eq_some_iff.1 hrun
      rw [hkeys] at hrest hs'
      exact .inr ⟨c, rest, keys, s', hrest, hs', hrun⟩
  · have houter' : t.outer = [] := by rw [hkeys]; exact hgap.trans houter
    have hnil : t.cursor.rest = [] := by rw [hkeys]; exact hend
    simp only [closeBlocks_eq_self houter', hnil] at hrun
    refine .inl ⟨htokens ▸ finish_eq_some houter' hrun, fun c rest hrest => ?_⟩
    rw [hrest] at hcomment
    exact beq_iff_eq.1 hcomment

/-! ## Tokens -/

/-- A directive needs blanks. -/
theorem directive_eq_none (h : Unbroken s.cursor.rest) (houter : s.outer = []) :
    s.directive = none := by
  rw [Option.eq_none_iff_forall_ne_some]
  intro s' hs'
  rw [directive, closeBlocks_eq_self houter] at hs'
  obtain ⟨keys, hs'⟩ := dropKey_bind hs'
  dsimp only at hs'
  have hsuffix : (s.cursor.skip.takeWhile isNameChar).2.rest <:+ s.cursor.rest :=
    (Cursor.takeWhile_isSuffix isNameChar _).trans (Cursor.skip_isSuffix s.cursor)
  have hend : atGap (s.cursor.skip.takeWhile isNameChar).2.rest = true →
      (s.cursor.skip.takeWhile isNameChar).2.rest = [] := (h.of_isSuffix hsuffix).atGap_iff.1
  split_ifs at hs' with hgap hversion hshorthand
  · rw [Cursor.versionNumber_of_end (hend (by simpa using hgap))] at hs'
    cases hs'
  · rw [Cursor.shorthand_of_end (hend (by simpa using hgap))] at hs'
    cases hs'
  · cases hs'

theorem documentMarker_eq_some {t : Token} (houter : s.outer = [])
    (h : s.documentMarker t = some s') :
    s'.tokens = t :: s.tokens ∧ s'.outer = [] ∧ s'.cursor.rest = s.cursor.rest.drop 3 := by
  rw [documentMarker, closeBlocks_eq_self houter] at h
  obtain ⟨keys, h⟩ := dropKey_bind h
  cases h
  exact ⟨rfl, houter, Cursor.skipMany_rest 3 s.cursor⟩

theorem run_of_end {fuel : Nat} {tokens : List Token} (h : s.cursor.rest = [])
    (houter : s.outer = []) (hrun : s.run fuel = some tokens) : tokens = s.tokens.reverse := by
  cases fuel with
  | zero => cases hrun
  | succ fuel =>
    have hunbroken : Unbroken s.cursor.rest := by
      rw [h]
      exact nofun
    obtain ⟨htokens, -⟩ | ⟨c, rest, keys, s', hrest, -⟩ := run_cases hunbroken houter hrun
    · exact htokens
    · cases h.symm.trans hrest

end Layout

end Telemetry.Yaml
