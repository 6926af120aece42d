import Telemetry.Proofs.Yaml.Unbroken

/-!
# Numbers and booleans in texts without white space

* `Cursor.plainScalar_cases`: a plain scalar goes on to the end or to a last colon.
* `Layout.Goes`: how the tokens of one scalar go on.
* `Layout.goes_of_run`: a run goes on in one of these ways.
* **`Layout.plainValue_of_run`**: a number or a boolean is the value of the whole text.
-/

namespace Telemetry.Yaml

/-! ## Plain scalars -/

namespace Cursor

/-- Without white space a plain scalar outside flow collections goes on to the end or to a last
colon. -/
theorem plainWord_cases : ∀ {fuel : Nat} {c c' : Cursor} {word : List Char}, Unbroken c.rest →
    c.rest.length < fuel → plainWord false fuel c = some (word, c') →
    c.rest = word ++ c'.rest ∧ (c'.rest = [] ∨ c'.rest = [':'])
  | 0, c, _, _, _, hfuel, _ => absurd hfuel (Nat.not_lt_zero _)
  | fuel + 1, c, c', word, h, hfuel, hword => by
    rw [plainWord] at hword
    split at hword
    · rename_i hrest
      cases hword
      exact ⟨rfl, .inl hrest⟩
    · rename_i d rest hrest
      have hgap : (isBlank d || isBreak d) = false := by
        have hstart := h.startsWith_gap
        rwa [hrest] at hstart
      have hunbroken : Unbroken rest := h.of_isSuffix (hrest ▸ List.suffix_cons d rest)
      rw [hgap] at hword
      simp only [Bool.false_and, Bool.false_eq_true, if_false] at hword
      split_ifs at hword with hcolon
      · cases hword
        rw [Bool.and_eq_true, beq_iff_eq, hunbroken.atGap_iff] at hcolon
        obtain ⟨rfl, rfl⟩ := hcolon
        exact ⟨rfl, .inr hrest⟩
      · obtain ⟨⟨more, e⟩, hmore, hword⟩ := Option.map_eq_some_iff.1 hword
        cases hword
        have hskip : c.skip.rest = rest := by rw [skip_rest, hrest]; rfl
        have hlength : c.rest.length = rest.length + 1 := by rw [hrest]; rfl
        obtain ⟨happend, hend⟩ := plainWord_cases (by rwa [hskip]) (by rw [hskip]; omega) hmore
        rw [hskip] at happend
        exact ⟨by rw [hrest, happend]; rfl, hend⟩

theorem plainScalar_cases {indent : Nat} {c c' : Cursor} {text : List Char} {broken : Bool}
    (h : Unbroken c.rest) (hc : c.plainScalar false indent = some (text, broken, c')) :
    c.rest = text ++ c'.rest ∧ (text = [] ∨ c'.rest = [] ∨ c'.rest = [':']) := by
  rw [plainScalar, plainWords] at hc
  split_ifs at hc with hend
  · cases hc
    exact ⟨rfl, .inl rfl⟩
  · obtain ⟨⟨word, d⟩, hword, hc⟩ := Option.bind_eq_some_iff.1 hc
    obtain ⟨happend, hcolon⟩ := plainWord_cases h (Nat.lt_succ_self _) hword
    have hunbroken : Unbroken d.rest := h.of_isSuffix (happend ▸ List.suffix_append _ _)
    dsimp only at hc
    rw [hunbroken.startsWith_gap, if_neg Bool.false_ne_true] at hc
    cases word with
    | nil =>
      cases hc
      exact ⟨happend, .inl rfl⟩
    | cons e word =>
      cases hc
      exact ⟨happend, .inr hcolon⟩

end Cursor

/-! ## Tokens of one scalar -/

namespace FormScalar

variable {tokens : List Token} {tag : Option Bytes} {plain : Bool} {word : List Char}

theorem not_isStructure (h : FormScalar tokens tag plain word) {t : Token} (ht : t ∈ tokens) :
    ¬ t.IsStructure := by
  obtain ⟨front, back, rfl, hfront, hback, -⟩ := h
  intro hstructure
  rw [List.mem_append, List.mem_cons] at ht
  obtain ht | rfl | ht := ht
  · have hmay := hfront t ht
    cases t <;> first | exact hstructure | simp [Node.IsDirective, Node.IsProperty] at hmay
  · exact hstructure
  · rw [hback t ht] at hstructure
    exact hstructure

/-- As there is no value among the tokens, those found first stay the first ones. -/
theorem exists_append {ts : List Token} (h : FormScalar tokens tag plain word)
    (hgrows : Grows ts tokens.reverse) : ∃ back, tokens = ts.reverse ++ back := by
  obtain hvalue | ⟨later, hlater⟩ := hgrows.order
  · exact absurd trivial (h.not_isStructure (List.mem_reverse.1 hvalue))
  · refine ⟨later.reverse, ?_⟩
    rw [← List.reverse_reverse tokens, ← hlater, List.reverse_append]

theorem of_anchor {name : List Char} (h : FormScalar (.anchor name :: tokens) tag plain word) :
    FormScalar tokens tag plain word := by
  obtain ⟨front, back, htokens, hfront, hback, htag⟩ := h
  cases front with
  | nil => cases htokens
  | cons t front =>
    cases htokens
    refine ⟨front, back, rfl, fun t ht => ?_, hback, fun hsome => ?_⟩
    · exact hfront t (List.mem_cons_of_mem _ ht)
    obtain ⟨handle, suffix, hmem⟩ := htag hsome
    obtain hmem | hmem := List.mem_cons.1 hmem
    · cases hmem
    · exact ⟨handle, suffix, hmem⟩

theorem of_scalar {first : Bool} {text : List Char}
    (h : FormScalar (.scalar first text :: tokens) tag plain word) :
    tag = none ∧ first = plain ∧ text = word := by
  obtain ⟨front, back, htokens, hfront, -, htag⟩ := h
  cases front with
  | nil =>
    cases htokens
    refine ⟨?_, rfl, rfl⟩
    cases tag with
    | none => rfl
    | some tag =>
      obtain ⟨_, _, hmem⟩ := htag rfl
      cases hmem
  | cons t front =>
    cases htokens
    simpa [Node.IsDirective, Node.IsProperty] using hfront _ List.mem_cons_self

theorem scalar_mem (h : FormScalar tokens tag plain word) : Token.scalar plain word ∈ tokens := by
  obtain ⟨front, back, rfl, -⟩ := h
  exact List.mem_append_right front List.mem_cons_self

/-- A number or a boolean without a tag before it is a plain scalar, and its text is the word for
that. -/
theorem plainValue_eq {first : Bool} {text : List Char} {x : Tree}
    (h : FormScalar (.scalar first text :: tokens) tag plain word)
    (hvalue : scalarValue tag plain word = some x) (hx : x.IsTyped) :
    first = true ∧ plainValue text = some x := by
  obtain ⟨rfl, rfl, rfl⟩ := h.of_scalar
  cases first with
  | true => exact ⟨rfl, hvalue⟩
  | false =>
    cases hvalue
    exact hx.elim

end FormScalar

/-! ## Reading one scalar -/

namespace Layout

variable {s s' : Layout} {tokens : List Token} {fuel : Nat}

/-- The states in a text without white space where no collection has begun. -/
structure IsLevel (s : Layout) : Prop where
  rest : Unbroken s.cursor.rest
  outer : s.outer = []
  flow : s.flow = 0

/-- How the tokens of one scalar go on from a state, in a text without white space. -/
inductive Goes (tokens : List Token) (fuel : Nat) (s : Layout) : Prop
  | ends (h : tokens = s.tokens.reverse)
  | mark (t : Token) (ht : ∀ plain text, t ≠ .scalar plain text)
      (h : tokens = s.tokens.reverse ++ [t])
  | quoted (text : List Char) (back : List Token)
      (h : tokens = s.tokens.reverse ++ .scalar false text :: back)
  | anchor (name rest : List Char) (s' : Layout) (hrest : s.cursor.rest = '&' :: rest)
      (hlevel : s'.IsLevel) (hs' : s'.tokens = .anchor name :: s.tokens)
      (hmark : s'.cursor.rest = [] ∨ startsWith Cursor.closesName s'.cursor.rest = true)
      (hrun : s'.run fuel = some tokens)
  | plain (text : List Char) (s' : Layout) (hlevel : s'.IsLevel)
      (hs' : s'.tokens = .scalar true text :: s.tokens)
      (hrest : s.cursor.rest = text ++ s'.cursor.rest)
      (hend : text = [] ∨ s'.cursor.rest = [] ∨ s'.cursor.rest = [':'])
      (hrun : s'.run fuel = some tokens)

/-- **One step through the tokens of one scalar.** -/
theorem goes_of_run {tag : Option Bytes} {plain : Bool} {word : List Char}
    (hform : FormScalar tokens tag plain word) (h : s.IsLevel)
    (hrun : s.run (fuel + 1) = some tokens) : Goes tokens fuel s := by
  obtain ⟨htokens, -⟩ | ⟨c, rest, keys, s', hrest, htoken, hrun'⟩ := run_cases h.rest h.outer hrun
  · exact .ends htokens
  have hkeys : IsLevel { s with keys } := ⟨h.rest, h.outer, h.flow⟩
  cases step_of_token htoken with
  | structural t ht hmem hgrows =>
    exact absurd ht (hform.not_isStructure (List.mem_reverse.1 ((grows_run hrun').kept hmem)))
  | directive hc hs' =>
    rw [directive_eq_none hkeys.rest hkeys.outer] at hs'
    cases hs'
  | marker t ht hmarker hs' =>
    obtain ⟨htokens, houter, hend⟩ := documentMarker_eq_some hkeys.outer hs'
    have hnil : s'.cursor.rest = [] := by
      rw [hend]
      obtain hrest | hrest := Cursor.rest_of_atMarker hkeys.rest hmarker
      · rw [hrest]; rfl
      · rw [hrest]; rfl
    refine .mark t ?_ ?_
    · obtain rfl | rfl := ht <;> exact nofun
    · rw [run_of_end hnil houter hrun', htokens, List.reverse_cons]
  | anchor hc hs' =>
    obtain ⟨name, hname, htokens, houter, hflow⟩ := named_eq_some hs'
    obtain ⟨hsuffix, hmark⟩ := Cursor.name_cases h.rest hname
    exact .anchor name rest s' (hc ▸ hrest)
      ⟨h.rest.of_isSuffix hsuffix, houter.trans h.outer, hflow.trans h.flow⟩ htokens hmark hrun'
  | tag hc hs' =>
    obtain ⟨handle, suffix, htag, htokens, houter, hflow, hgap⟩ := tag_eq_some hs'
    have hnil : s'.cursor.rest = [] := by
      refine (h.rest.of_isSuffix (Cursor.tag_isSuffix htag)).atGap_iff.1 ?_
      simpa [h.flow] using hgap
    refine .mark (.tag handle suffix) nofun ?_
    rw [run_of_end hnil (houter.trans h.outer) hrun', htokens, List.reverse_cons]
  | quoted text hs' =>
    obtain ⟨back, hback⟩ := hform.exists_append (grows_run hrun')
    refine .quoted text back ?_
    rw [hback, hs', List.reverse_cons, List.append_assoc]
    rfl
  | plain hc hs' =>
    obtain ⟨text, broken, hscalar, htokens, houter, hflow⟩ := plainScalar_eq_some hs'
    rw [hkeys.flow] at hscalar
    obtain ⟨happend, hend⟩ := Cursor.plainScalar_cases h.rest hscalar
    have hunbroken : Unbroken s'.cursor.rest :=
      h.rest.of_isSuffix ⟨text, happend.symm⟩
    exact .plain text s' ⟨hunbroken, houter.trans h.outer, hflow.trans h.flow⟩ htokens happend hend
      hrun'

/-- A colon at the end is the mark of a value, which no single scalar has. -/
theorem not_formScalar_of_colon {tag : Option Bytes} {plain : Bool} {word : List Char}
    (h : s.IsLevel) (hrest : s.cursor.rest = [':']) (hrun : s.run fuel = some tokens) :
    ¬ FormScalar tokens tag plain word := by
  intro hform
  cases fuel with
  | zero => cases hrun
  | succ fuel =>
    obtain ⟨-, hcomment⟩ | ⟨c, rest, keys, s', hc, htoken, hrun'⟩ := run_cases h.rest h.outer hrun
    · exact absurd (hcomment ':' [] hrest) (by decide)
    · cases hrest.symm.trans hc
      have hvalue : token ':' [] { s with keys } = value { s with keys } := by
        simp [token, Cursor.atMarker, hrest, atGap]
      rw [hvalue] at htoken
      have hmem := (grows_run hrun').kept (value_eq_some htoken).2
      exact hform.not_isStructure (List.mem_reverse.1 hmem) trivial

/-- What is left of these ways if the scalar is a number or a boolean: an anchor, or the word for
that. -/
theorem Goes.anchor_or_word {tag : Option Bytes} {plain : Bool} {word : List Char} {x : Tree}
    (h : Goes tokens fuel s) (hform : FormScalar tokens tag plain word)
    (hfront : ∀ {ts}, FormScalar (s.tokens.reverse ++ ts) tag plain word →
      FormScalar ts tag plain word)
    (hvalue : scalarValue tag plain word = some x) (hx : x.IsTyped) :
    (∃ (name rest : List Char) (s' : Layout), s.cursor.rest = '&' :: rest ∧ s'.IsLevel ∧
      s'.tokens = .anchor name :: s.tokens ∧
      (s'.cursor.rest = [] ∨ startsWith Cursor.closesName s'.cursor.rest = true) ∧
      s'.run fuel = some tokens) ∨
    plainValue s.cursor.rest = some x := by
  cases h with
  | ends htokens =>
    rw [htokens, ← List.append_nil s.tokens.reverse] at hform
    cases (hfront hform).scalar_mem
  | mark t ht htokens =>
    rw [htokens] at hform
    exact absurd (List.mem_singleton.1 (hfront hform).scalar_mem).symm (ht plain word)
  | quoted text back htokens =>
    rw [htokens] at hform
    cases ((hfront hform).plainValue_eq hvalue hx).1
  | anchor name rest s' hrest hlevel hs' hmark hrun =>
    exact .inl ⟨name, rest, s', hrest, hlevel, hs', hmark, hrun⟩
  | plain text s' hlevel hs' hrest hend hrun =>
    obtain ⟨back, hback⟩ := hform.exists_append (grows_run hrun)
    have hscalar : FormScalar (s.tokens.reverse ++ .scalar true text :: back) tag plain word := by
      rw [hback, hs', List.reverse_cons, List.append_assoc] at hform
      exact hform
    obtain ⟨-, htext⟩ := (hfront hscalar).plainValue_eq hvalue hx
    obtain rfl | hend | hcolon := hend
    · exact absurd rfl (isWord_of_plainValue htext hx).ne_nil
    · rw [hrest, hend, List.append_nil]
      exact .inr htext
    · exact absurd hform (not_formScalar_of_colon hlevel hcolon hrun)

/-- **A number or a boolean that is read from a text without white space is the value of the text
itself.** -/
theorem plainValue_of_run {cs : List Char} {x : Tree} {tag : Option Bytes} {plain : Bool}
    {word : List Char} (h : Unbroken cs) (hrun : (start cs).run fuel = some tokens)
    (hform : FormScalar tokens tag plain word) (hvalue : scalarValue tag plain word = some x)
    (hx : x.IsTyped) : plainValue cs = some x := by
  cases fuel with
  | zero => cases hrun
  | succ fuel =>
  obtain ⟨name, rest, s, -, hlevel, hs, hmark, hrun'⟩ | hcs :=
    (goes_of_run hform ⟨h, rfl, rfl⟩ hrun).anchor_or_word hform id hvalue hx
  · cases fuel with
    | zero => cases hrun'
    | succ fuel =>
    have hfront : ∀ {ts}, FormScalar (s.tokens.reverse ++ ts) tag plain word →
        FormScalar ts tag plain word := by
      intro ts hts
      rw [hs] at hts
      exact hts.of_anchor
    -- neither an anchor nor a word begins with one of the marks after an anchor
    obtain ⟨_, rest, _, hrest, -⟩ | htext :=
      (goes_of_run hform hlevel hrun').anchor_or_word hform hfront hvalue hx
    · rw [hrest] at hmark
      obtain hmark | hmark := hmark <;> cases hmark
    · have hword := isWord_of_plainValue htext hx
      obtain hmark | hmark := hmark
      · exact absurd hmark hword.ne_nil
      · cases hrest : s.cursor.rest with
        | nil => exact absurd hrest hword.ne_nil
        | cons d rest =>
          have hd : isWordChar d = true :=
            List.all_eq_true.1 hword.chars d (hrest ▸ List.mem_cons_self)
          rw [hrest] at hmark
          rw [Cursor.isWordChar_of_closesName hmark] at hd
          cases hd
  · exact hcs

end Layout

end Telemetry.Yaml
