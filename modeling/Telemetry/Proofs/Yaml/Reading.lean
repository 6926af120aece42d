import Telemetry.Proofs.Yaml.Plain

/-!
# Words are read

* `Yaml.ofChars?_of_isWord`: a word is one plain scalar.
* `Tree.ofYamlChars?_of_plainValue`: so it is read as its value, if that is a number or a boolean.
* **`Tree.plainValue_iff_unbroken`**: a number or a boolean that is read from a text is the value of
  the whole text if and only if there is no white space in the text.
-/

namespace Telemetry

namespace Yaml

/-! ## Taking a word -/

theorem IsWord.startsWith_comment {cs : List Char} (h : IsWord cs) :
    startsWith (· == '#') cs = false := by
  cases cs with
  | nil => rfl
  | cons c cs =>
    exact beq_eq_false_iff_ne.2 (ne_of_isWordChar h.head (by decide))

namespace Layout

variable {s s' : Layout}

theorem startsPlain_of_isWord {c : Char} {rest : List Char} (h : IsWord (c :: rest)) :
    startsPlain false c rest = true := by
  have hwhite : (isBlank c || isBreak c) = false :=
    (Bool.or_eq_false_iff.1 (isWhite_of_isWordChar h.head)).1
  have hblank : startsWith isBlank rest = false :=
    (h.unbroken.of_isSuffix (List.suffix_cons c rest)).startsWith_eq_false fun d hd => by
      simp [isWhite, hd]
  by_cases hdash : c = '-'
  · simp [startsPlain, hdash, hblank]
  · have hall : (['-', '?', ':', ',', '[', ']', '\x7b', '\x7d', '#', '&', '*', '!', '|', '>',
        '\'', '\x22', '%', '@', '\x60'].all fun d => d == '-' || !isWordChar d) = true := by decide
    have hnot : c ∉ ['-', '?', ':', ',', '[', ']', '\x7b', '\x7d', '#', '&', '*', '!', '|', '>',
        '\'', '\x22', '%', '@', '\x60'] := fun hmem => by
      simpa [hdash, h.head] using List.all_eq_true.1 hall c hmem
    rw [startsPlain, hwhite, Bool.false_or, List.contains_eq_mem, decide_eq_false hnot]
    rfl

/-- A word is taken as a plain scalar. -/
theorem token_of_isWord {c : Char} {rest : List Char} (hflow : s.flow = 0)
    (hrest : s.cursor.rest = c :: rest) (h : IsWord (c :: rest)) :
    s.token c rest = s.plainScalar := by
  have hne : ∀ d, isWordChar d = false → c ≠ d := fun d => ne_of_isWordChar h.head
  have hmarker : ¬ s.cursor.atMarker = true := by
    intro hmarker
    obtain hs | hs := Cursor.rest_of_atMarker (by rw [hrest]; exact h.unbroken) hmarker
    · exact h.ne_start (hrest.symm.trans hs)
    · exact h.ne_end (hrest.symm.trans hs)
  have hdash : ¬ (c = '-' ∧ atGap rest = true) := by
    rintro ⟨rfl, hgap⟩
    have hnil : rest = [] := (h.unbroken.of_isSuffix (List.suffix_cons _ rest)).atGap_iff.1 hgap
    exact h.ne_dash (by rw [hnil])
  have hplain : startsPlain (s.flow != 0) c rest = true := by
    rw [hflow]
    exact startsPlain_of_isWord h
  unfold token
  rw [if_neg fun h => hne '%' (by decide) h.2, if_neg hmarker, if_neg (hne '[' (by decide)),
    if_neg (hne '\x7b' (by decide)), if_neg (hne ']' (by decide)), if_neg (hne '\x7d' (by decide)),
    if_neg (hne ',' (by decide)), if_neg hdash, if_neg fun h => hne '?' (by decide) h.1,
    if_neg fun h => hne ':' (by decide) h.1, if_neg (hne '*' (by decide)),
    if_neg (hne '&' (by decide)), if_neg (hne '!' (by decide)),
    if_neg fun h => h.1.elim (hne '|' (by decide)) (hne '>' (by decide)),
    if_neg fun h => h.elim (hne '\'' (by decide)) (hne '\x22' (by decide)), if_pos hplain]

end Layout

namespace Cursor

/-- A word is taken whole. -/
theorem plainWord_of_all : ∀ {cs : List Char} {fuel : Nat} {c : Cursor},
    cs.all isWordChar = true → c.rest = cs → cs.length < fuel →
    ∃ c', plainWord false fuel c = some (cs, c') ∧ c'.rest = []
  | _, 0, _, _, _, hfuel => absurd hfuel (Nat.not_lt_zero _)
  | [], fuel + 1, c, _, hrest, _ => ⟨c, by rw [plainWord, hrest], hrest⟩
  | d :: cs, fuel + 1, c, h, hrest, hfuel => by
    rw [List.all_cons, Bool.and_eq_true] at h
    have hskip : c.skip.rest = cs := by rw [skip_rest, hrest]; rfl
    obtain ⟨c', hword, hend⟩ : ∃ c', plainWord false fuel c.skip = some (cs, c') ∧ c'.rest = [] :=
      plainWord_of_all h.2 hskip (Nat.lt_of_succ_lt_succ hfuel)
    have hwhite : (isBlank d || isBreak d) = false :=
      (Bool.or_eq_false_iff.1 (isWhite_of_isWordChar h.1)).1
    have hcolon : (d == ':') = false :=
      beq_eq_false_iff_ne.2 (ne_of_isWordChar h.1 (by decide))
    refine ⟨c', ?_, hend⟩
    simp [plainWord, hrest, hwhite, hcolon, hword]

theorem plainScalar_of_isWord {indent : Nat} {c : Cursor} (h : IsWord c.rest) :
    ∃ c', c.plainScalar false indent = some (c.rest, false, c') ∧ c'.rest = [] := by
  obtain ⟨c', hword, hend⟩ := plainWord_of_all h.chars rfl (Nat.lt_succ_self c.rest.length)
  refine ⟨c', ?_, hend⟩
  have hmarker : c.atMarker = false := by
    rw [Bool.eq_false_iff]
    intro hmarker
    obtain hrest | hrest := rest_of_atMarker h.unbroken hmarker
    · exact h.ne_start hrest
    · exact h.ne_end hrest
  rw [plainScalar, plainWords, hmarker, h.startsWith_comment, Bool.or_false,
    if_neg Bool.false_ne_true, hword]
  cases hrest : c.rest with
  | nil => exact absurd hrest h.ne_nil
  | cons d rest => simp [startsWith, hend, Gap.none, Gap.text]

end Cursor

namespace Layout

variable {s : Layout}

theorem skipGap_eq_self (fuel : Nat) (h : Unbroken s.cursor.rest)
    (hcomment : startsWith (· == '#') s.cursor.rest = false) : skipGap (fuel + 1) s = s := by
  obtain hgap | ⟨hstart, -⟩ := skipGap_cases fuel h
  · exact hgap
  · rw [hcomment] at hstart
    cases hstart

/-- At the end of a text without blocks the tokens are given, as no key is waited for. -/
theorem run_end {k : PossibleKey} {fuel : Nat} (hrest : s.cursor.rest = []) (houter : s.outer = [])
    (hkeys : s.keys = [some k]) (hk : k.required = false) :
    s.run (fuel + 1) = some s.tokens.reverse := by
  have hgap : skipGap (s.cursor.rest.length + 1) s = s :=
    skipGap_eq_self _ (by rw [hrest]; exact nofun) (by rw [hrest]; rfl)
  have hclose : ∀ (key : Option PossibleKey) (column : Int),
      closeBlocks column { s with keys := [key] } = { s with keys := [key] } :=
    fun key column => closeBlocks_eq_self houter
  obtain ⟨key, hstale, hfinish⟩ : ∃ key : Option PossibleKey,
      s.dropStale = some { s with keys := [key] } ∧
        finish { s with keys := [key] } = some s.tokens.reverse := by
    unfold dropStale finish
    rw [hkeys]
    by_cases hstale : PossibleKey.isStale k s.cursor = true
    · exact ⟨none, by simp [hstale, hk], by simp [hclose, dropKey]⟩
    · exact ⟨some k, by simp [hstale], by simp [hclose, dropKey, hk]⟩
  rw [run, hgap, hstale]
  simp only [Option.bind_eq_bind, Option.bind_some, hclose, hrest]
  exact hfinish

theorem plainScalar_start {cs : List Char} (h : IsWord cs) :
    ∃ c', (start cs).plainScalar =
        some ⟨c', [.scalar true cs], -1, [], 0, false, [some ⟨false, 0, 0, 0, 0⟩]⟩ ∧
      c'.rest = [] := by
  obtain ⟨c', hscalar, hend⟩ : ∃ c',
      (Cursor.start cs).plainScalar false 0 = some (cs, false, c') ∧ c'.rest = [] :=
    Cursor.plainScalar_of_isWord h
  refine ⟨c', ?_, hend⟩
  have hkey : (start cs).noteKey =
      some { start cs with keys := [some ⟨false, 0, 0, 0, 0⟩] } := rfl
  unfold plainScalar
  rw [hkey]
  change ((Cursor.start cs).plainScalar false 0).bind _ = _
  rw [hscalar]
  rfl

end Layout

/-- **A word is one plain scalar.** -/
theorem ofChars?_of_isWord {cs : List Char} (h : IsWord cs) :
    Token.ofChars? cs = some [.scalar true cs] := by
  have hallowed : cs.all isAllowed = true :=
    List.all_eq_true.2 fun c hc => isAllowed_of_isWordChar (List.all_eq_true.1 h.chars c hc)
  obtain ⟨c, rest, rfl⟩ := List.exists_cons_of_ne_nil h.ne_nil
  have hgap : (Layout.start (c :: rest)).skipGap ((c :: rest).length + 1) =
      Layout.start (c :: rest) :=
    Layout.skipGap_eq_self _ h.unbroken h.startsWith_comment
  have hstale : (Layout.start (c :: rest)).dropStale = some (Layout.start (c :: rest)) := rfl
  obtain ⟨c', hscalar, hend⟩ := Layout.plainScalar_start h
  rw [Token.ofChars?, if_pos hallowed, Layout.run]
  change (((Layout.start (c :: rest)).skipGap ((c :: rest).length + 1)).dropStale).bind _ = _
  rw [hgap, hstale]
  change ((Layout.start (c :: rest)).token c rest).bind (Layout.run (rest.length + 1)) = _
  rw [Layout.token_of_isWord rfl rfl h, hscalar]
  exact Layout.run_end hend rfl rfl rfl

end Yaml

/-! ## Reading -/

open Yaml

/-- **What a number or a boolean is read from**: one scalar, of which it is the value. -/
theorem Tree.formScalar_of_ofYamlChars? {cs : List Char} {x : Tree}
    (h : Tree.ofYamlChars? cs = some x) (hx : x.IsTyped) :
    ∃ tokens tag plain word, Token.ofChars? cs = some tokens ∧ FormScalar tokens tag plain word ∧
      scalarValue tag plain word = some x := by
  obtain ⟨tokens, htokens, h⟩ := Option.bind_eq_some_iff.1 h
  obtain ⟨d, hd, h⟩ := Option.bind_eq_some_iff.1 h
  obtain ⟨tag, plain, word, hform, hvalue⟩ := formScalar_of_tree? hd h hx
  exact ⟨tokens, tag, plain, word, htokens, hform, hvalue⟩

/-- **A word for a number or a boolean is read as that.** -/
theorem Tree.ofYamlChars?_of_plainValue {cs : List Char} {x : Tree} (h : plainValue cs = some x)
    (hx : x.IsTyped) : Tree.ofYamlChars? cs = some x := by
  obtain ⟨d, hd, htree⟩ := tree?_scalar cs
  rw [Tree.ofYamlChars?, ofChars?_of_isWord (isWord_of_plainValue h hx)]
  change (Document.ofTokens? [.scalar true cs]).bind Document.tree? = some x
  rw [hd, Option.bind_some, htree, h]

/-- **A number or a boolean that is read from a text is the value of the whole text if and only if
the text has no white space.** -/
theorem Tree.plainValue_iff_unbroken {cs : List Char} {x : Tree}
    (h : Tree.ofYamlChars? cs = some x) (hx : x.IsTyped) :
    plainValue cs = some x ↔ Unbroken cs := by
  constructor
  · exact fun hvalue => (isWord_of_plainValue hvalue hx).unbroken
  · intro hunbroken
    obtain ⟨tokens, tag, plain, word, htokens, hform, hvalue⟩ :=
      Tree.formScalar_of_ofYamlChars? h hx
    unfold Token.ofChars? at htokens
    split_ifs at htokens
    exact Layout.plainValue_of_run hunbroken htokens hform hvalue hx

end Telemetry
