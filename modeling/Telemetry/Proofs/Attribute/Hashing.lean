import Telemetry.Attribute.Value
import Telemetry.Proofs.Bytes.Codes

/-!
# Equality and hashing of attribute values

* `Value.lengths`: the lengths of the lists and byte strings in a value, at every depth.
* `Word.bytes`: a word for a hash function that knows bytes only.
* `Tells`: words are taken in one after the other, and can be told again where a value has them.
* `Tells.isCode_feed`: if so, what is taken in for a value tells the value and where it ends. Kinds
  come first and lengths before contents, so the induction is on the value, whatever follows it.
* `tells_words`, `tells_bytes`: this is so for the words themselves and for their bytes.
* **`same_lawful`**: equality is an equivalence, and values are equal if and only if they are hashed
  alike.
-/

namespace Telemetry.Attribute

theorem Kind.number_injective : Function.Injective number := by
  intro j k
  cases j <;> cases k <;> decide

namespace Value

/-! ## Parts of values -/

/-- The words of a value after the number of its kind. -/
def body : Value → List Word
  | .text s => textFeed s
  | .bool b => [.byte (if b then 1 else 0)]
  | .long n => [.bits n.toUInt64]
  | .double x => [.bits x.bits]
  | .list items => .length items.length :: feedItems items
  | .entries pairs => .length pairs.length :: feedEntries pairs
  | .bytes b => [.length b.length, .raw b]

theorem feed_eq (v : Value) : v.feed = .tag v.kind.number :: v.body := by
  cases v <;> rw [feed, body] <;> rfl

mutual

/-- The lengths of the lists and byte strings in a value, at every depth. -/
def lengths : Value → List Nat
  | .list items => items.length :: lengthsOfItems items
  | .entries pairs => pairs.length :: lengthsOfEntries pairs
  | .bytes b => [b.length]
  | _ => []

/-- The lengths in a list of values. -/
def lengthsOfItems : List Value → List Nat
  | [] => []
  | v :: vs => v.lengths ++ lengthsOfItems vs

/-- The lengths in named values. -/
def lengthsOfEntries : List (String × Value) → List Nat
  | [] => []
  | (_, v) :: rest => v.lengths ++ lengthsOfEntries rest

end

/-! ## What a hash function takes in -/

/-- The bytes of a word. Numbers and lengths take up 64 bits, the lowest byte comes first. -/
def Word.bytes : Word → Bytes
  | .tag n => Gzip.littleEndian 8 n
  | .length n => Gzip.littleEndian 8 n
  | .byte b => [b]
  | .bits w => Gzip.littleEndian 8 w.toNat
  | .raw b => b

/-- Words are taken in as `take` says, and can be told again as long as lengths are small: a mark
stands behind a text, and the length before any other byte string. -/
structure Tells {β : Type} (small : Nat → Prop) (take : Word → List β) : Prop where
  kind : IsCode (fun _ => True) fun k : Kind => take (.tag k.number)
  length : IsCode small fun n => take (.length n)
  byte : IsCode (fun _ => True) fun b => take (.byte b)
  bits : IsCode (fun _ => True) fun w => take (.bits w)
  text : IsCode (fun _ => True) fun s => (textFeed s).flatMap take
  raw : ∀ n, IsCode (fun b => b.length = n) fun b => take (.raw b)

/-- All lengths in a value are small. -/
def Fits (small : Nat → Prop) (v : Value) : Prop := ∀ n ∈ v.lengths, small n

namespace Tells

variable {β : Type} {small : Nat → Prop} {take : Word → List β}

/-- Values that are taken in alike are of one kind. -/
theorem split (h : Tells small take) {a b : Value} {r s : List β}
    (heq : a.feed.flatMap take ++ r = b.feed.flatMap take ++ s) :
    a.kind = b.kind ∧ a.body.flatMap take ++ r = b.body.flatMap take ++ s := by
  rw [feed_eq, feed_eq, List.flatMap_cons, List.flatMap_cons, List.append_assoc,
    List.append_assoc] at heq
  exact h.kind trivial trivial heq

mutual

/-- What is taken in for a value, with anything behind it, is not taken in for any other value. -/
theorem value_inj (h : Tells small take) : (a b : Value) → a.Fits small → b.Fits small →
    ∀ {r s : List β}, a.feed.flatMap take ++ r = b.feed.flatMap take ++ s → a = b ∧ r = s
  | .text t, b, _, _, r, s, heq => by
    obtain ⟨hkind, hbody⟩ := h.split heq
    -- the kind has been read, so that the other value is of the same constructor
    cases b with
    | text u =>
      obtain ⟨rfl, hrs⟩ := h.text trivial trivial hbody
      exact ⟨rfl, hrs⟩
    | _ => cases hkind
  | .bool x, b, _, _, r, s, heq => by
    obtain ⟨hkind, hbody⟩ := h.split heq
    cases b with
    | bool y =>
      rw [body, body, List.flatMap_singleton, List.flatMap_singleton] at hbody
      obtain ⟨hxy, hrs⟩ := h.byte trivial trivial hbody
      exact ⟨by revert hxy; cases x <;> cases y <;> decide, hrs⟩
    | _ => cases hkind
  | .long m, b, _, _, r, s, heq => by
    obtain ⟨hkind, hbody⟩ := h.split heq
    cases b with
    | long n =>
      rw [body, body, List.flatMap_singleton, List.flatMap_singleton] at hbody
      obtain ⟨hmn, hrs⟩ := h.bits trivial trivial hbody
      exact ⟨congrArg Value.long (Int64.toBitVec_inj.1 (congrArg UInt64.toBitVec hmn)), hrs⟩
    | _ => cases hkind
  | .double x, b, _, _, r, s, heq => by
    obtain ⟨hkind, hbody⟩ := h.split heq
    cases b with
    | double y =>
      rw [body, body, List.flatMap_singleton, List.flatMap_singleton] at hbody
      obtain ⟨hxy, hrs⟩ := h.bits trivial trivial hbody
      exact ⟨congrArg (fun w => Value.double ⟨w⟩) hxy, hrs⟩
    | _ => cases hkind
  | .list as, b, ha, hb, r, s, heq => by
    obtain ⟨hkind, hbody⟩ := h.split heq
    cases b with
    | list bs =>
      obtain ⟨halen, has⟩ := List.forall_mem_cons.1 ha
      obtain ⟨hblen, hbs⟩ := List.forall_mem_cons.1 hb
      simp only [body, List.flatMap_cons, List.append_assoc] at hbody
      obtain ⟨hlen, hitems⟩ := h.length halen hblen hbody
      obtain ⟨rfl, hrs⟩ := h.items_inj as bs hlen has hbs hitems
      exact ⟨rfl, hrs⟩
    | _ => cases hkind
  | .entries as, b, ha, hb, r, s, heq => by
    obtain ⟨hkind, hbody⟩ := h.split heq
    cases b with
    | entries bs =>
      obtain ⟨halen, has⟩ := List.forall_mem_cons.1 ha
      obtain ⟨hblen, hbs⟩ := List.forall_mem_cons.1 hb
      simp only [body, List.flatMap_cons, List.append_assoc] at hbody
      obtain ⟨hlen, hpairs⟩ := h.length halen hblen hbody
      obtain ⟨rfl, hrs⟩ := h.entries_inj as bs hlen has hbs hpairs
      exact ⟨rfl, hrs⟩
    | _ => cases hkind
  | .bytes x, b, ha, hb, r, s, heq => by
    obtain ⟨hkind, hbody⟩ := h.split heq
    cases b with
    | bytes y =>
      simp only [body, List.flatMap_cons, List.flatMap_nil, List.append_nil,
        List.append_assoc] at hbody
      obtain ⟨hlen, hraw⟩ := h.length (ha _ List.mem_cons_self) (hb _ List.mem_cons_self) hbody
      obtain ⟨rfl, hrs⟩ := h.raw x.length rfl hlen.symm hraw
      exact ⟨rfl, hrs⟩
    | _ => cases hkind

/-- Lists that are known to be equally long need no mark at their end. -/
theorem items_inj (h : Tells small take) : (as bs : List Value) → as.length = bs.length →
    (∀ n ∈ lengthsOfItems as, small n) → (∀ n ∈ lengthsOfItems bs, small n) →
    ∀ {r s : List β}, (feedItems as).flatMap take ++ r = (feedItems bs).flatMap take ++ s →
      as = bs ∧ r = s
  | [], [], _, _, _, _, _, heq => ⟨rfl, heq⟩
  | a :: as, b :: bs, hlen, ha, hb, r, s, heq => by
    obtain ⟨hahead, hatail⟩ := List.forall_mem_append.1 ha
    obtain ⟨hbhead, hbtail⟩ := List.forall_mem_append.1 hb
    simp only [feedItems, List.flatMap_append, List.append_assoc] at heq
    obtain ⟨rfl, htails⟩ := h.value_inj a b hahead hbhead heq
    obtain ⟨rfl, hrs⟩ := h.items_inj as bs (Nat.succ.inj hlen) hatail hbtail htails
    exact ⟨rfl, hrs⟩

/-- The same for named values, where the name comes before the value. -/
theorem entries_inj (h : Tells small take) : (as bs : List (String × Value)) →
    as.length = bs.length → (∀ n ∈ lengthsOfEntries as, small n) →
    (∀ n ∈ lengthsOfEntries bs, small n) →
    ∀ {r s : List β}, (feedEntries as).flatMap take ++ r = (feedEntries bs).flatMap take ++ s →
      as = bs ∧ r = s
  | [], [], _, _, _, _, _, heq => ⟨rfl, heq⟩
  | (j, a) :: as, (k, b) :: bs, hlen, ha, hb, r, s, heq => by
    obtain ⟨hahead, hatail⟩ := List.forall_mem_append.1 ha
    obtain ⟨hbhead, hbtail⟩ := List.forall_mem_append.1 hb
    simp only [feedEntries, List.flatMap_append, List.append_assoc] at heq
    obtain ⟨rfl, hvalues⟩ := h.text trivial trivial heq
    obtain ⟨rfl, htails⟩ := h.value_inj a b hahead hbhead hvalues
    obtain ⟨rfl, hrs⟩ := h.entries_inj as bs (Nat.succ.inj hlen) hatail hbtail htails
    exact ⟨rfl, hrs⟩

end

/-- **What is taken in for a value tells the value and where it ends.** -/
theorem isCode_feed (h : Tells small take) :
    IsCode (Fits small) fun v : Value => v.feed.flatMap take :=
  fun a b ha hb _ _ heq => h.value_inj a b ha hb heq

/-- Values that fit are equal if what is taken in for them is. -/
theorem flatMap_feed_eq_iff (h : Tells small take) {a b : Value} (ha : a.Fits small)
    (hb : b.Fits small) : a.feed.flatMap take = b.feed.flatMap take ↔ a = b :=
  ⟨h.isCode_feed.injective ha hb, fun hab => by rw [hab]⟩

end Tells

/-! ## Words and bytes -/

/-- A hash function that is given whole words tells all values. -/
theorem tells_words : Tells (fun _ => True) fun w : Word => [w] where
  kind := .singleton fun _ _ h => Kind.number_injective (Word.tag.inj h)
  length := .singleton fun _ _ => Word.length.inj
  byte := .singleton fun _ _ => Word.byte.inj
  bits := .singleton fun _ _ => Word.bits.inj
  text := by
    intro s t _ _ r u h
    obtain ⟨hraw, htails⟩ := List.cons.inj h
    exact ⟨Bytes.ofString_injective (Word.raw.inj hraw), (List.cons.inj htails).2⟩
  raw _ := .singleton fun _ _ => Word.raw.inj

/-- So does one that is given their bytes, as long as lengths are words of the machine. -/
theorem tells_bytes : Tells (· < 2 ^ 64) Word.bytes where
  kind := (isCode_littleEndian 8).comp Kind.number_injective fun k _ => by cases k <;> decide
  length := isCode_littleEndian 8
  byte := .singleton fun _ _ h => h
  bits := (isCode_littleEndian 8).comp (fun _ _ => UInt64.toNat_inj.1) fun w _ => w.toNat_lt
  text := isCode_markedText _
  raw := isCode_ofLength

instance (small : Nat → Prop) [DecidablePred small] (v : Value) : Decidable (v.Fits small) :=
  inferInstanceAs (Decidable (∀ n ∈ v.lengths, small n))

/-- **Equality and hashing are lawful.** Values are equal just if their contents are, doubles bit by
bit, and just then the same words are hashed. -/
theorem same_lawful :
    Equivalence (fun a b : Value => same a b = true) ∧
    ∀ a b : Value,
      (same a b = true ↔ a = b) ∧
      (a.feed = b.feed ↔ same a b = true) ∧
      (a.Fits (· < 2 ^ 64) → b.Fits (· < 2 ^ 64) →
        (a.feed.flatMap Word.bytes = b.feed.flatMap Word.bytes ↔ same a b = true)) := by
  refine ⟨⟨fun a => (same_iff a a).2 rfl, fun {a b} hab => ?_, fun {a b c} hab hbc => ?_⟩,
    fun a b => ⟨same_iff a b, ?_, fun ha hb => ?_⟩⟩
  · rw [same_iff] at hab ⊢
    exact hab.symm
  · rw [same_iff] at hab hbc ⊢
    exact hab.trans hbc
  · have hwords := tells_words.flatMap_feed_eq_iff (a := a) (b := b) (fun _ _ => trivial)
      fun _ _ => trivial
    rw [List.flatMap_singleton', List.flatMap_singleton'] at hwords
    rw [same_iff, hwords]
  · rw [same_iff, tells_bytes.flatMap_feed_eq_iff ha hb]

/-- A list in a list is not taken for the items in it, with a NaN among them which equals itself. -/
theorem same_nested :
    let items : List Value := [.double .nan, .entries [("a", .bytes [0xFF]), ("", .text "")]]
    same (.list items) (.list items) = true ∧
      ¬ same (.list [.list items]) (.list items) = true ∧
      (Value.list [.list items]).feed ≠ (Value.list items).feed ∧
      (Value.list [.list items]).feed.flatMap Word.bytes ≠
        (Value.list items).feed.flatMap Word.bytes := by
  intro items
  obtain ⟨hequivalence, hlaws⟩ := same_lawful
  obtain ⟨-, hwords, hbytes⟩ := hlaws (.list [.list items]) (.list items)
  have hne : ¬ same (.list [.list items]) (.list items) = true := by decide
  exact ⟨hequivalence.refl _, hne, mt hwords.1 hne, mt (hbytes (by decide) (by decide)).1 hne⟩

end Value

end Telemetry.Attribute
