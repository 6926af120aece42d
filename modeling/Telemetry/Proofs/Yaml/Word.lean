import Mathlib.Tactic.SplitIfs
import Telemetry.Yaml.Cursor
import Telemetry.Yaml.Scalar

/-!
# The words for numbers and booleans

* `Yaml.IsWord`: the texts that a plain scalar is written as without anything to end or to mark it.
* `isWord_of_plainValue`: every word for a number or a boolean is such a text.
* `not_isTyped_of_missing`: a scalar without a text is neither.
-/

namespace Telemetry

/-- Numbers and booleans. -/
def Tree.IsTyped : Tree → Prop
  | .number _ => True
  | .bool _ => True
  | _ => False

namespace Yaml

/-! ## Characters -/

/-- The characters of words: those of names, the plus sign and the point. -/
def isWordChar (c : Char) : Bool := isNameChar c || c == '+' || c == '.'

theorem isWordChar_of_isDigit {c : Char} (h : isDigit c = true) : isWordChar c = true := by
  rw [isDigit] at h
  simp [isWordChar, isNameChar, h]

theorem isWordChar_of_hexValue? {c : Char} {n : Nat} (h : hexValue? c = some n) :
    isWordChar c = true := by
  unfold hexValue? at h
  split_ifs at h with hdigit hlower hupper
  · simp [isWordChar, isNameChar, hdigit]
  · have hz : c ≤ 'z' := Char.le_trans hlower.2 (by decide)
    simp [isWordChar, isNameChar, hlower, hz]
  · have hz : c ≤ 'Z' := Char.le_trans hupper.2 (by decide)
    simp [isWordChar, isNameChar, hupper, hz]

theorem all_isWordChar_of_isDigit {cs : List Char} (h : cs.all isDigit = true) :
    cs.all isWordChar = true := by
  rw [List.all_eq_true] at h ⊢
  exact fun c hc => isWordChar_of_isDigit (h c hc)

theorem toNat_of_isWordChar {c : Char} (h : isWordChar c = true) :
    43 ≤ c.toNat ∧ c.toNat ≤ 122 := by
  simp only [isWordChar, isNameChar, Bool.or_eq_true, Bool.and_eq_true, decide_eq_true_eq,
    beq_iff_eq, Char.le_def, UInt32.le_iff_toNat_le] at h
  change 43 ≤ c.val.toNat ∧ c.val.toNat ≤ 122
  obtain (((((h | h) | h) | rfl) | rfl) | rfl) | rfl := h
  · change 97 ≤ c.val.toNat ∧ c.val.toNat ≤ 122 at h
    omega
  · change 65 ≤ c.val.toNat ∧ c.val.toNat ≤ 90 at h
    omega
  · change 48 ≤ c.val.toNat ∧ c.val.toNat ≤ 57 at h
    omega
  all_goals decide

theorem isAllowed_of_isWordChar {c : Char} (h : isWordChar c = true) : isAllowed c = true := by
  have hc := toNat_of_isWordChar h
  have hprintable : (decide (0x20 ≤ c.toNat) && decide (c.toNat ≤ 0x7E)) = true := by
    simp only [Bool.and_eq_true, decide_eq_true_eq]
    omega
  simp only [isAllowed, hprintable, Bool.or_true, Bool.true_or]

theorem ne_of_isWordChar {c d : Char} (hc : isWordChar c = true) (hd : isWordChar d = false) :
    c ≠ d := by
  rintro rfl
  rw [hc] at hd
  cases hd

/-! ## Integers -/

theorem all_isWordChar_of_digits {base : Nat} : ∀ {cs : List Char} {ds : List Nat},
    cs.mapM (digit? base) = some ds → cs.all isWordChar = true
  | [], _, _ => rfl
  | c :: cs, _, h => by
    simp only [List.mapM_cons, Option.bind_eq_bind, Option.bind_eq_some_iff] at h
    obtain ⟨d, hd, ds, hds, -⟩ := h
    have hc : isWordChar c = true := by
      unfold digit? at hd
      split at hd
      · exact isWordChar_of_hexValue? ‹_›
      · cases hd
    rw [List.all_cons, hc, all_isWordChar_of_digits hds]
    rfl

theorem all_isWordChar_of_natural? {base n : Nat} {cs : List Char}
    (h : natural? base cs = some n) : cs.all isWordChar = true := by
  unfold natural? at h
  split_ifs at h
  obtain ⟨ds, hds, -⟩ := Option.map_eq_some_iff.1 h
  exact all_isWordChar_of_digits hds

theorem all_isWordChar_of_unsigned? {n : Nat} {cs : List Char} (h : unsigned? cs = some n) :
    cs.all isWordChar = true := by
  unfold unsigned? at h
  split at h
  · rename_i base ds hbased
    have hds := all_isWordChar_of_natural? h
    unfold based? at hbased
    split at hbased
    all_goals
      cases hbased
      try rw [List.all_cons, List.all_cons, hds]; rfl
  · split_ifs at h
    exact all_isWordChar_of_natural? h

theorem all_isWordChar_of_integer? {n : Int} {cs : List Char} (h : integer? cs = some n) :
    cs.all isWordChar = true := by
  unfold integer? at h
  split at h <;> obtain ⟨m, hm, -⟩ := Option.map_eq_some_iff.1 h
  · rw [List.all_cons, all_isWordChar_of_unsigned? hm]; rfl
  · obtain ⟨k, hk, -⟩ := Option.bind_eq_some_iff.1 hm
    rw [List.all_cons, all_isWordChar_of_unsigned? hk]; rfl
  · exact all_isWordChar_of_unsigned? hm

/-! ## Doubles -/

theorem all_isWordChar_of_exponentPart? {cs : List Char} {e : Int}
    (h : Numeral.exponentPart? cs = some e) : cs.all isWordChar = true := by
  unfold Numeral.exponentPart? at h
  split at h
  · rfl
  · rename_i c rest
    split_ifs at h with hmark
    have hc : isWordChar c = true := by
      rcases hmark with rfl | rfl <;> rfl
    have hrest : rest.all isWordChar = true := by
      split at h
      rename_i negative digits hdigits
      have hword : digits.all isWordChar = true := by
        cases hall : digits.all isDigit with
        | true => exact all_isWordChar_of_isDigit hall
        | false => simp [hall] at h
      split at hdigits <;> cases hdigits
      · rw [List.all_cons, hword]; rfl
      · rw [List.all_cons, hword]; rfl
      · exact hword
    rw [List.all_cons, hc, hrest]
    rfl

theorem all_isWordChar_of_ofUnsigned? {negative : Bool} {cs : List Char} {n : Numeral}
    (h : Numeral.ofUnsigned? negative cs = some n) : cs.all isWordChar = true := by
  have hdigits : ∀ cs : List Char, (cs.takeWhile isDigit).all isWordChar = true := fun cs =>
    all_isWordChar_of_isDigit (by simp)
  unfold Numeral.ofUnsigned? at h
  dsimp only at h
  have hrest : (cs.dropWhile isDigit).all isWordChar = true := by
    split at h
    · rename_i more hmore
      split_ifs at h
      obtain ⟨e, he, -⟩ := Option.map_eq_some_iff.1 h
      rw [hmore, List.all_cons, ← List.takeWhile_append_dropWhile (p := isDigit) (l := more),
        List.all_append, hdigits, all_isWordChar_of_exponentPart? he]
      rfl
    · split_ifs at h
      obtain ⟨e, he, -⟩ := Option.map_eq_some_iff.1 h
      exact all_isWordChar_of_exponentPart? he
  rw [← List.takeWhile_append_dropWhile (p := isDigit) (l := cs), List.all_append, hdigits, hrest]
  rfl

theorem all_isWordChar_of_numeral {cs : List Char} {n : Numeral}
    (h : Numeral.ofChars? cs = some n) : cs.all isWordChar = true := by
  unfold Numeral.ofChars? at h
  split at h
  · rw [List.all_cons, all_isWordChar_of_ofUnsigned? h]; rfl
  · rw [List.all_cons, all_isWordChar_of_ofUnsigned? h]; rfl
  · exact all_isWordChar_of_ofUnsigned? h

theorem all_isWordChar_of_any (words : List String) {cs : List Char}
    (hwords : ∀ w ∈ words, w.toList.all isWordChar = true)
    (h : (words.any fun w => w.toList == cs) = true) : cs.all isWordChar = true := by
  obtain ⟨w, hw, hcs⟩ := List.any_eq_true.1 h
  exact (beq_iff_eq.1 hcs) ▸ hwords w hw

theorem all_isWordChar_of_bool? {b : Bool} {cs : List Char} (h : bool? cs = some b) :
    cs.all isWordChar = true := by
  unfold bool? at h
  split_ifs at h with htrue hfalse
  · exact all_isWordChar_of_any _ (by decide) htrue
  · exact all_isWordChar_of_any _ (by decide) hfalse

theorem all_isWordChar_of_double? {x : Binary64} {cs : List Char} (h : double? cs = some x) :
    cs.all isWordChar = true := by
  unfold double? at h
  extract_lets unplussed at h
  have hunplussed : unplussed.all isWordChar = true → cs.all isWordChar = true := by
    intro hword
    unfold unplussed at hword
    split at hword
    · rw [List.all_cons, hword]; rfl
    · exact hword
  split_ifs at h with hsigns hinf hminus hnan
  · exact hunplussed (all_isWordChar_of_any [".inf", ".Inf", ".INF"] (by decide) hinf)
  · exact all_isWordChar_of_any _ (by decide) hminus
  · exact all_isWordChar_of_any _ (by decide) hnan
  · split at h
    · rename_i n hn
      exact hunplussed (all_isWordChar_of_numeral hn)
    · cases h

/-! ## Values -/

/-- Only words have a value that is typed. -/
theorem all_isWordChar_of_plainValue {x : Tree} {cs : List Char} (h : plainValue cs = some x)
    (hx : x.IsTyped) : cs.all isWordChar = true := by
  unfold plainValue at h
  split at h
  · cases h
    exact hx.elim
  · split at h
    · exact all_isWordChar_of_bool? ‹_›
    · split at h
      · exact all_isWordChar_of_integer? ‹_›
      · split at h
        · cases h
          exact hx.elim
        · split at h
          · exact all_isWordChar_of_double? ‹_›
          · cases h
            exact hx.elim

/-- The texts that a plain scalar is written as without anything to end or to mark it: characters of
words, which form neither the dash of an entry nor a document marker. -/
structure IsWord (cs : List Char) : Prop where
  chars : cs.all isWordChar = true
  ne_nil : cs ≠ []
  ne_dash : cs ≠ ['-']
  ne_start : cs ≠ ['-', '-', '-']
  ne_end : cs ≠ ['.', '.', '.']

theorem IsWord.head {c : Char} {cs : List Char} (h : IsWord (c :: cs)) : isWordChar c = true :=
  List.all_eq_true.1 h.chars c List.mem_cons_self

/-- **Numbers and booleans are written as words.** -/
theorem isWord_of_plainValue {x : Tree} {cs : List Char} (h : plainValue cs = some x)
    (hx : x.IsTyped) : IsWord cs where
  chars := all_isWordChar_of_plainValue h hx
  ne_nil := by
    rintro rfl
    cases h
    exact hx
  ne_dash := by
    rintro rfl
    cases h
    exact hx
  ne_start := by
    rintro rfl
    cases h
    exact hx
  ne_end := by
    rintro rfl
    cases h
    exact hx

/-- A scalar without a text is neither a number nor a boolean, whatever its tag. -/
theorem not_isTyped_of_missing {tag : Option Bytes} {plain : Bool} {x : Tree}
    (h : scalarValue tag plain [] = some x) : ¬ x.IsTyped := by
  cases tag with
  | none =>
    cases plain <;> cases h <;> exact id
  | some tag =>
    unfold scalarValue taggedValue at h
    dsimp only at h
    split_ifs at h <;> cases h <;> exact id

end Yaml

end Telemetry
