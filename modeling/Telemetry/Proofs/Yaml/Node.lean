import Mathlib.Tactic.SplitIfs
import Telemetry.Yaml.Reader
import Telemetry.Proofs.Yaml.Word

/-!
# Documents that are one scalar

* `bind_run_eq_some`: steps that keep a state and may fail succeed one after the other.
* `Node.Takes`: the tokens that a step of forming nodes takes.
* `Node.build_cases`: how a node comes about.
* `FormScalar`: the tokens of a document that is one scalar.
* **`formScalar_of_tree?`**: a document that is a number or a boolean is one scalar.
-/

namespace Telemetry.Yaml

/-! ## Steps -/

theorem bind_run_eq_some {σ α β : Type} {x : StateT σ Option α} {f : α → StateT σ Option β}
    {s : σ} {r : β × σ} : (x >>= f).run s = some r ↔
      ∃ a t, x.run s = some (a, t) ∧ (f a).run t = some r := by
  rw [StateT.run_bind]
  constructor
  · intro h
    obtain ⟨⟨a, t⟩, hx, hf⟩ := Option.bind_eq_some_iff.1 h
    exact ⟨a, t, hx, hf⟩
  · rintro ⟨a, t, hx, hf⟩
    exact Option.bind_eq_some_iff.2 ⟨(a, t), hx, hf⟩

theorem lift_run_eq_some {σ α : Type} {o : Option α} {a : α} {s t : σ} :
    (StateT.lift o : StateT σ Option α).run s = some (a, t) ↔ o = some a ∧ s = t := by
  cases o with
  | none => exact ⟨nofun, nofun⟩
  | some b =>
    change some (b, s) = some (a, t) ↔ _
    rw [Option.some_inj, Prod.mk.injEq, Option.some_inj]

namespace Node

/-- The tokens that a step takes; it leaves the numbers of anchors alone. -/
structure Takes (b : Builder) (taken : List Token) (b' : Builder) : Prop where
  tokens : b.tokens = taken ++ b'.tokens
  names : b'.names = b.names

theorem Takes.refl (b : Builder) : Takes b [] b := ⟨rfl, rfl⟩

theorem Takes.trans {b b' b'' : Builder} {ts us : List Token} (h : Takes b ts b')
    (h' : Takes b' us b'') : Takes b (ts ++ us) b'' :=
  ⟨by rw [h.tokens, h'.tokens, List.append_assoc], h'.names.trans h.names⟩

theorem peek_eq_some {b b' : Builder} {t : Option Token} :
    peek.run b = some (t, b') ↔ b.tokens.head? = t ∧ b = b' := by
  change some (b.tokens.head?, b) = some (t, b') ↔ _
  simp

theorem takes_advance {b b' : Builder} {u : Unit} {t : Token} (h : advance.run b = some (u, b'))
    (ht : b.tokens.head? = some t) : Takes b [t] b' := by
  have hb' : { b with tokens := b.tokens.drop 1 } = b' := congrArg Prod.snd (Option.some.inj h)
  subst hb'
  refine ⟨?_, rfl⟩
  cases hb : b.tokens with
  | nil => simp [hb] at ht
  | cons first rest => simp_all

theorem takes_count {b b' : Builder} {u : Unit} {size : Nat}
    (h : (count size).run b = some (u, b')) : Takes b [] b' := by
  have hb' : { b with nodes := b.nodes + 1, size := b.size + size } = b' :=
    congrArg Prod.snd (Option.some.inj h)
  subst hb'
  exact ⟨rfl, rfl⟩

theorem takes_accept {t : Token} {b b' : Builder} {r : Bool}
    (h : (accept t).run b = some (r, b')) :
    (r = true ∧ Takes b [t] b') ∨ (r = false ∧ b' = b) := by
  unfold accept at h
  simp only [bind_run_eq_some, peek_eq_some] at h
  obtain ⟨_, _, ⟨rfl, rfl⟩, h⟩ := h
  split_ifs at h with hhead
  · obtain ⟨_, _, hadvance, h⟩ := bind_run_eq_some.1 h
    cases h
    exact .inl ⟨rfl, takes_advance hadvance hhead⟩
  · cases h
    exact .inr ⟨rfl, rfl⟩

/-- The tokens of directives. -/
def IsDirective : Token → Prop
  | .version _ _ => True
  | .tagShorthand _ _ => True
  | _ => False

/-- The tokens that may stand before a node. -/
def IsProperty : Token → Prop
  | .anchor _ => True
  | .tag _ _ => True
  | _ => False

theorem takes_directives {fuel : Nat} : ∀ {versions : Nat} {own own' : List (List Char × Bytes)}
    {b b' : Builder}, (directives versions own fuel).run b = some (own', b') →
      ∃ ts, Takes b ts b' ∧ ∀ t ∈ ts, IsDirective t := by
  induction fuel with
  | zero => exact fun h => by cases h
  | succ fuel ih =>
    intro versions own own' b b' h
    have hmore : ∀ {t : Token} {versions : Nat} {own : List (List Char × Bytes)},
        b.tokens.head? = some t → IsDirective t →
        (do advance; directives versions own fuel : Build _).run b = some (own', b') →
        ∃ ts, Takes b ts b' ∧ ∀ t ∈ ts, IsDirective t := by
      intro t versions own ht hdirective h
      obtain ⟨_, c, hadvance, h⟩ := bind_run_eq_some.1 h
      obtain ⟨ts, hts, hall⟩ := ih h
      exact ⟨_, (takes_advance hadvance ht).trans hts, List.forall_mem_cons.2 ⟨hdirective, hall⟩⟩
    rw [directives] at h
    simp only [bind_run_eq_some, peek_eq_some] at h
    obtain ⟨t, _, ⟨ht, rfl⟩, h⟩ := h
    split at h
    · split_ifs at h
      · cases h
      · exact hmore ht trivial h
    · split_ifs at h
      · cases h
      · exact hmore ht trivial h
    · cases h
      exact ⟨[], .refl b, nofun⟩

/-- A tag in full is found without taking anything. -/
theorem fullTag_builder {handle : List Char} {suffix tag : Bytes} {b b' : Builder}
    (h : (fullTag handle suffix).run b = some (tag, b')) : b = b' := by
  unfold fullTag at h
  split_ifs at h
  · cases h
    rfl
  · obtain ⟨_, _, hget, h⟩ := bind_run_eq_some.1 h
    cases hget
    split at h
    · cases h
      rfl
    · cases h

theorem takes_properties {b b' : Builder} {name : Option (List Char)} {tag : Option Bytes}
    (h : properties.run b = some ((name, tag), b')) :
    ∃ ts, Takes b ts b' ∧ (∀ t ∈ ts, IsProperty t) ∧
      (tag.isSome → ∃ handle suffix, .tag handle suffix ∈ ts) := by
  unfold properties at h
  simp only [bind_run_eq_some, peek_eq_some] at h
  obtain ⟨t, _, ⟨ht, rfl⟩, h⟩ := h
  split at h
  · obtain ⟨_, c, hadvance, h⟩ := bind_run_eq_some.1 h
    have htakes := takes_advance hadvance ht
    simp only [bind_run_eq_some, peek_eq_some] at h
    obtain ⟨t, _, ⟨ht, rfl⟩, h⟩ := h
    split at h
    · rename_i handle suffix
      obtain ⟨_, d, hadvance, h⟩ := bind_run_eq_some.1 h
      obtain ⟨full, e, hfull, h⟩ := bind_run_eq_some.1 h
      cases h
      obtain rfl := fullTag_builder hfull
      exact ⟨_, htakes.trans (takes_advance hadvance ht), by simp [IsProperty],
        fun _ => ⟨handle, suffix, by simp⟩⟩
    · cases h
      exact ⟨_, htakes, by simp [IsProperty], nofun⟩
  · rename_i handle suffix
    obtain ⟨_, c, hadvance, h⟩ := bind_run_eq_some.1 h
    obtain ⟨full, d, hfull, h⟩ := bind_run_eq_some.1 h
    obtain rfl := fullTag_builder hfull
    have htakes := takes_advance hadvance ht
    simp only [bind_run_eq_some, peek_eq_some] at h
    obtain ⟨t, _, ⟨ht, rfl⟩, h⟩ := h
    split at h
    · obtain ⟨_, d, hadvance, h⟩ := bind_run_eq_some.1 h
      cases h
      exact ⟨_, htakes.trans (takes_advance hadvance ht), by simp [IsProperty],
        fun _ => ⟨handle, suffix, by simp⟩⟩
    · cases h
      exact ⟨_, htakes, by simp [IsProperty], fun _ => ⟨handle, suffix, by simp⟩⟩
  · cases h
    exact ⟨[], .refl b, nofun, nofun⟩

theorem takes_skipEnds {fuel : Nat} : ∀ {b b' : Builder} {u : Unit},
    (skipEnds fuel).run b = some (u, b') → ∃ ts, Takes b ts b' ∧ ∀ t ∈ ts, t = .documentEnd := by
  induction fuel with
  | zero =>
    intro b b' u h
    cases h
    exact ⟨[], .refl b, nofun⟩
  | succ fuel ih =>
    intro b b' u h
    rw [skipEnds] at h
    obtain ⟨r, c, haccept, hmore⟩ := bind_run_eq_some.1 h
    obtain ⟨rfl, htakes⟩ | ⟨rfl, rfl⟩ := takes_accept haccept
    · obtain ⟨ts, hts, hall⟩ := ih hmore
      exact ⟨_, htakes.trans hts, List.forall_mem_cons.2 ⟨rfl, hall⟩⟩
    · cases hmore
      exact ⟨[], .refl _, nofun⟩

/-! ## Nodes -/

theorem note_eq_some {anchor : Option Nat} {place : Nat} {node node' : Node} {b b' : Builder}
    (h : (note anchor place node).run b = some (node', b')) : node' = node ∧ Takes b [] b' := by
  unfold note at h
  cases anchor with
  | none =>
    cases h
    exact ⟨rfl, .refl b⟩
  | some number =>
    cases h
    exact ⟨rfl, rfl, rfl⟩

/-- The name of an anchor is numbered, which takes nothing, and then the node is formed. -/
theorem numbered_run {α : Type} {name : Option (List Char)} {form : Option Nat → Build α}
    {b : Builder} {r : α × Builder}
    (h : (match name with
      | some name => do
        let n ← number name
        let anchor ← pure (some n)
        form anchor
      | none => do
        let anchor ← pure none
        form anchor : Build α).run b = some r) :
    ∃ anchor c, c.tokens = b.tokens ∧ (form anchor).run c = some r := by
  cases name with
  | none => exact ⟨none, b, rfl, h⟩
  | some name =>
    obtain ⟨n, c, hnumber, hform⟩ := bind_run_eq_some.1 h
    cases hnumber
    refine ⟨_, _, ?_, hform⟩
    rfl

/-- How a node comes about: it holds others, it is an alias of a known name, or it is a scalar,
after properties and maybe missing. -/
theorem build_cases {block dashes : Bool} {fuel : Nat} {b b' : Builder} {node : Node}
    (h : (build block dashes fuel).run b = some (node, b')) :
    (∃ tag items, node = .sequence tag items) ∨ (∃ tag entries, node = .mapping tag entries) ∨
    (∃ n name, node = .alias n ∧ b.names.lookup name = some n) ∨
    ∃ ts tag plain word, node = .scalar tag plain word ∧
      (b.tokens = ts ++ .scalar plain word :: b'.tokens ∨ word = [] ∧ b.tokens = ts ++ b'.tokens) ∧
      (∀ t ∈ ts, IsProperty t) ∧ (tag.isSome → ∃ handle suffix, .tag handle suffix ∈ ts) := by
  cases fuel with
  | zero => cases h
  | succ fuel =>
    rw [build] at h
    simp only [bind_run_eq_some, peek_eq_some] at h
    obtain ⟨t, _, ⟨ht, rfl⟩, h⟩ := h
    split at h
    · rename_i name
      obtain ⟨_, c, hadvance, h⟩ := bind_run_eq_some.1 h
      obtain ⟨_, _, hget, h⟩ := bind_run_eq_some.1 h
      cases hget
      have hnames := (takes_advance hadvance ht).names
      split at h
      · rename_i n hn
        obtain ⟨_, _, _, h⟩ := bind_run_eq_some.1 h
        cases h
        exact .inr (.inr (.inl ⟨n, name, rfl, hnames ▸ hn⟩))
      · cases h
    · obtain ⟨⟨name, tag⟩, c, hproperties, h⟩ := bind_run_eq_some.1 h
      obtain ⟨_, _, hget, h⟩ := bind_run_eq_some.1 h
      cases hget
      obtain ⟨anchor, d, hd, h⟩ := numbered_run h
      obtain ⟨ts, htakes, hproperty, htag⟩ := takes_properties hproperties
      have htokens : b.tokens = ts ++ d.tokens := by
        rw [htakes.tokens, hd]
      obtain ⟨t, _, hpeek, h⟩ := bind_run_eq_some.1 h
      obtain ⟨ht, rfl⟩ := peek_eq_some.1 hpeek
      -- a collection is noted last, so its items do not matter
      split at h
      · rename_i plain word
        obtain ⟨_, e, hadvance, h⟩ := bind_run_eq_some.1 h
        obtain ⟨_, f, hcount, h⟩ := bind_run_eq_some.1 h
        obtain ⟨rfl, hnote⟩ := note_eq_some h
        have hscalar := ((takes_advance hadvance ht).trans (takes_count hcount)).trans hnote
        exact .inr (.inr (.inr ⟨ts, tag, plain, word, rfl,
          .inl (by rw [htokens, hscalar.tokens]; rfl), hproperty, htag⟩))
      · simp only [bind_run_eq_some] at h
        obtain ⟨_, _, _, _, _, _, items, _, _, h⟩ := h
        exact .inl ⟨tag, items, (note_eq_some h).1⟩
      · simp only [bind_run_eq_some] at h
        obtain ⟨_, _, _, _, _, _, entries, _, _, h⟩ := h
        exact .inr (.inl ⟨tag, entries, (note_eq_some h).1⟩)
      · simp only [bind_run_eq_some] at h
        obtain ⟨_, _, _, items, _, _, h⟩ := h
        exact .inl ⟨tag, items, (note_eq_some h).1⟩
      · simp only [bind_run_eq_some] at h
        obtain ⟨_, _, _, _, _, _, items, _, _, h⟩ := h
        exact .inl ⟨tag, items, (note_eq_some h).1⟩
      · simp only [bind_run_eq_some] at h
        obtain ⟨_, _, _, _, _, _, entries, _, _, h⟩ := h
        exact .inr (.inl ⟨tag, entries, (note_eq_some h).1⟩)
      · split at h
        · obtain ⟨_, e, hcount, h⟩ := bind_run_eq_some.1 h
          obtain ⟨rfl, hnote⟩ := note_eq_some h
          have hmissing := (takes_count hcount).trans hnote
          exact .inr (.inr (.inr ⟨ts, tag, true, [], rfl,
            .inr ⟨rfl, by rw [htokens, hmissing.tokens]; rfl⟩, hproperty, htag⟩))
        · cases h

/-! ## Documents -/

/-- After the root only document ends may follow. -/
theorem ended_run {fuel : Nat} {node : Node} {r : Option Node} {b b' : Builder}
    (h : (do
      skipEnds fuel
      let next ← peek
      if next.isSome then failure else pure (some node) : Build (Option Node)).run b =
        some (r, b')) :
    r = some node ∧ ∀ t ∈ b.tokens, t = .documentEnd := by
  obtain ⟨_, c, hskip, h⟩ := bind_run_eq_some.1 h
  obtain ⟨ts, htakes, hall⟩ := takes_skipEnds hskip
  obtain ⟨t, _, hpeek, h⟩ := bind_run_eq_some.1 h
  obtain ⟨ht, rfl⟩ := peek_eq_some.1 hpeek
  cases t with
  | some t => cases h
  | none =>
    cases h
    rw [htakes.tokens, List.head?_eq_none_iff.1 ht, List.append_nil]
    exact ⟨rfl, hall⟩

/-- The root of a document is missing, or formed from the tokens after directives and the document
start, with document ends behind them. -/
theorem root_cases {b b' : Builder} {r : Option Node} (h : root.run b = some (r, b')) :
    r = none ∨ r = some missing ∨
    ∃ node front c d fuel, r = some node ∧ b.tokens = front ++ c.tokens ∧ c.names = b.names ∧
      (∀ t ∈ front, IsDirective t ∨ t = .documentStart) ∧
      (build true false fuel).run c = some (node, d) ∧ ∀ t ∈ d.tokens, t = .documentEnd := by
  unfold root at h
  obtain ⟨_, _, hget, h⟩ := bind_run_eq_some.1 h
  cases hget
  dsimp only at h
  obtain ⟨t, _, hpeek, h⟩ := bind_run_eq_some.1 h
  obtain ⟨ht, rfl⟩ := peek_eq_some.1 hpeek
  split at h
  · cases h
    exact .inl rfl
  · rename_i first
    generalize 2 * b.tokens.length + 4 = fuel at h
    split_ifs at h
    · obtain ⟨own, c, hdirectives, h⟩ := bind_run_eq_some.1 h
      obtain ⟨_, _, hmodify, h⟩ := bind_run_eq_some.1 h
      cases hmodify
      obtain ⟨ts, htakes, hall⟩ := takes_directives hdirectives
      obtain ⟨started, d, haccept, h⟩ := bind_run_eq_some.1 h
      obtain ⟨rfl, hstart⟩ | ⟨rfl, rfl⟩ := takes_accept haccept
      · obtain ⟨_, _, hnext, h⟩ := bind_run_eq_some.1 h
        obtain ⟨-, rfl⟩ := peek_eq_some.1 hnext
        split_ifs at h
        · obtain ⟨node, e, hempty, h⟩ := bind_run_eq_some.1 h
          cases hempty
          exact .inr (.inl (ended_run h).1)
        · obtain ⟨node, e, hbuild, h⟩ := bind_run_eq_some.1 h
          obtain ⟨rfl, hend⟩ := ended_run h
          refine .inr (.inr ⟨node, ts ++ [.documentStart], d, e, fuel, rfl, ?_, ?_, ?_, hbuild,
            hend⟩)
          · rw [htakes.tokens, List.append_assoc, ← hstart.tokens]
          · rw [hstart.names, htakes.names]
          · intro t ht
            obtain ht | ht := List.mem_append.1 ht
            · exact .inl (hall t ht)
            · exact .inr (List.mem_singleton.1 ht)
      · cases h
    · obtain ⟨node, c, hbuild, h⟩ := bind_run_eq_some.1 h
      obtain ⟨rfl, hend⟩ := ended_run h
      exact .inr (.inr ⟨node, [], b, c, fuel, rfl, rfl, rfl, nofun, hbuild, hend⟩)

end Node

/-- Tokens that form one scalar: before it directives, a document start, an anchor and a tag, and
after it document ends. -/
def FormScalar (tokens : List Token) (tag : Option Bytes) (plain : Bool) (word : List Char) :
    Prop :=
  ∃ front back, tokens = front ++ .scalar plain word :: back ∧
    (∀ t ∈ front, Node.IsDirective t ∨ t = .documentStart ∨ Node.IsProperty t) ∧
    (∀ t ∈ back, t = .documentEnd) ∧ (tag.isSome → ∃ handle suffix, .tag handle suffix ∈ front)

theorem Document.root_cases {tokens : List Token} {d : Document}
    (h : Document.ofTokens? tokens = some d) :
    d.root = none ∨ (∃ tag items, d.root = some (.sequence tag items)) ∨
    (∃ tag entries, d.root = some (.mapping tag entries)) ∨
    ∃ tag plain word, d.root = some (.scalar tag plain word) ∧
      (word = [] ∨ FormScalar tokens tag plain word) := by
  obtain ⟨⟨r, b⟩, hroot, rfl⟩ := Option.map_eq_some_iff.1 h
  obtain rfl | rfl | ⟨node, front, c, d, fuel, rfl, htokens, hnames, hfront, hbuild, hend⟩ :=
    Node.root_cases hroot
  · exact .inl rfl
  · exact .inr (.inr (.inr ⟨none, true, [], rfl, .inl rfl⟩))
  obtain ⟨tag, items, rfl⟩ | ⟨tag, entries, rfl⟩ | ⟨n, name, rfl, hlookup⟩ |
    ⟨ts, tag, plain, word, rfl, hword, hproperty, htag⟩ := Node.build_cases hbuild
  · exact .inr (.inl ⟨tag, items, rfl⟩)
  · exact .inr (.inr (.inl ⟨tag, entries, rfl⟩))
  · rw [hnames] at hlookup
    cases hlookup
  · refine .inr (.inr (.inr ⟨tag, plain, word, rfl, ?_⟩))
    obtain hword | ⟨hmissing, -⟩ := hword
    · refine .inr ⟨front ++ ts, d.tokens, ?_, ?_, hend, fun hsome => ?_⟩
      · change tokens = _ at htokens
        rw [htokens, hword, List.append_assoc]
      · intro t ht
        obtain ht | ht := List.mem_append.1 ht
        · exact (hfront t ht).imp_right .inl
        · exact .inr (.inr (hproperty t ht))
      · obtain ⟨handle, suffix, hmem⟩ := htag hsome
        exact ⟨handle, suffix, List.mem_append_right front hmem⟩
    · exact .inl hmissing

/-! ## Their trees -/

/-- Only a scalar has a number or a boolean for its tree. -/
theorem scalar_of_treeOf {d : Document} {depth n n' : Nat} {node : Node} {x : Tree}
    (hnode : ∀ number, node ≠ .alias number)
    (h : (treeOf d depth node).run n = some (x, n')) (hx : x.IsTyped) :
    ∃ tag plain word, node = .scalar tag plain word ∧ scalarValue tag plain word = some x := by
  cases node with
  | scalar tag plain word =>
    have hlift : (StateT.lift (scalarValue tag plain word) : Resolve Tree).run n =
        some (x, n') := by
      cases depth <;> exact h
    exact ⟨tag, plain, word, rfl, (lift_run_eq_some.1 hlift).1⟩
  | sequence tag items =>
    cases depth with
    | zero => cases h
    | succ depth =>
      rw [treeOf] at h
      obtain ⟨_, _, hsame, h⟩ := bind_run_eq_some.1 h
      cases hsame
      dsimp only at h
      split_ifs at h
      · obtain ⟨trees, _, _, h⟩ := bind_run_eq_some.1 h
        cases h
        exact hx.elim
      · cases h
  | mapping tag entries =>
    cases depth with
    | zero => cases h
    | succ depth =>
      rw [treeOf] at h
      obtain ⟨_, _, hsame, h⟩ := bind_run_eq_some.1 h
      cases hsame
      dsimp only at h
      split_ifs at h
      · obtain ⟨pairs, _, _, h⟩ := bind_run_eq_some.1 h
        cases h
        exact hx.elim
      · cases h
  | _ => exact absurd rfl (hnode _)

/-- **A document that is a number or a boolean is one scalar**, and it is the value of that. -/
theorem formScalar_of_tree? {tokens : List Token} {d : Document} {x : Tree}
    (h : Document.ofTokens? tokens = some d) (hd : d.tree? = some x) (hx : x.IsTyped) :
    ∃ tag plain word, FormScalar tokens tag plain word ∧ scalarValue tag plain word = some x := by
  have htree : ∀ {node : Node}, d.root = some node → (∀ number, node ≠ .alias number) →
      ∃ tag plain word, node = .scalar tag plain word ∧ scalarValue tag plain word = some x := by
    intro node hroot hnode
    rw [Document.tree?, hroot] at hd
    obtain ⟨⟨_, n⟩, hrun, rfl⟩ := Option.map_eq_some_iff.1 hd
    exact scalar_of_treeOf hnode hrun hx
  obtain hroot | ⟨tag, items, hroot⟩ | ⟨tag, entries, hroot⟩ | ⟨tag, plain, word, hroot, hword⟩ :=
    Document.root_cases h
  · rw [Document.tree?, hroot] at hd
    cases hd
    exact hx.elim
  · obtain ⟨_, _, _, hscalar, -⟩ := htree hroot nofun
    cases hscalar
  · obtain ⟨_, _, _, hscalar, -⟩ := htree hroot nofun
    cases hscalar
  · obtain ⟨_, _, _, hscalar, hvalue⟩ := htree hroot nofun
    cases hscalar
    obtain rfl | hform := hword
    · exact absurd hx (not_isTyped_of_missing hvalue)
    · exact ⟨tag, plain, word, hform, hvalue⟩

/-- A plain scalar alone forms a document, whose tree is the value of the scalar. -/
theorem tree?_scalar (word : List Char) :
    ∃ d, Document.ofTokens? [.scalar true word] = some d ∧ d.tree? = plainValue word := by
  refine ⟨⟨some (.scalar none true word), [], 1⟩, rfl, ?_⟩
  change (((StateT.lift (plainValue word) : Resolve Tree).run 100).map Prod.fst) = _
  cases plainValue word <;> rfl

end Telemetry.Yaml
