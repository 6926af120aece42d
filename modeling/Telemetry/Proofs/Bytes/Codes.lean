import Mathlib.Data.List.Basic
import Telemetry.Compression.Gzip
import Telemetry.Proofs.Bytes.Order

/-!
# Codes that can be read from the front

* `IsCode`: what is written for a thing tells which thing it is and where it ends, whatever follows.
* `isCode_marked`: lists are written so with a mark behind them that is not in them.
* `isCode_littleEndian`: numbers in a fixed number of bytes are written so.
* `isCode_markedText`: so are texts with a mark behind them that is no byte of UTF-8.
-/

namespace Telemetry

/-- What is written for a thing that meets `P` tells which one of these it is and where it ends,
whatever follows it. -/
def IsCode {α β : Type} (P : α → Prop) (write : α → List β) : Prop :=
  ∀ ⦃a b : α⦄, P a → P b → ∀ ⦃r s : List β⦄, write a ++ r = write b ++ s → a = b ∧ r = s

namespace IsCode

variable {α β γ : Type} {P : α → Prop} {Q : γ → Prop}

theorem singleton {f : α → β} (hf : Function.Injective f) : IsCode P fun a => [f a] := by
  intro a b _ _ r s h
  obtain ⟨hab, hrs⟩ := List.cons.inj h
  exact ⟨hf hab, hrs⟩

theorem comp {write : γ → List β} (h : IsCode Q write) {f : α → γ} (hf : Function.Injective f)
    (hQ : ∀ a, P a → Q (f a)) : IsCode P fun a => write (f a) := by
  intro a b ha hb r s heq
  obtain ⟨hab, hrs⟩ := h (hQ a ha) (hQ b hb) heq
  exact ⟨hf hab, hrs⟩

/-- What is written without anything behind it tells the thing as well. -/
theorem injective {write : α → List β} (h : IsCode P write) {a b : α} (ha : P a) (hb : P b)
    (heq : write a = write b) : a = b :=
  (h ha hb (congrArg (· ++ []) heq)).1

end IsCode

/-- A list ends at the first mark. -/
theorem isCode_marked {β : Type} (mark : β) : IsCode (mark ∉ ·) fun bs => bs ++ [mark] := by
  intro as
  induction as with
  | nil =>
    intro bs _ hbs r s h
    cases bs with
    | nil => exact ⟨rfl, List.cons.inj h |>.2⟩
    | cons b bs => exact absurd (List.mem_cons.2 (.inl (List.cons.inj h).1)) hbs
  | cons a as ih =>
    intro bs has hbs r s h
    cases bs with
    | nil => exact absurd (List.mem_cons.2 (.inl (List.cons.inj h).1.symm)) has
    | cons b bs =>
      obtain ⟨rfl, htails⟩ := List.cons.inj h
      obtain ⟨rfl, hrs⟩ :=
        ih (mt (List.mem_cons_of_mem a) has) (mt (List.mem_cons_of_mem a) hbs) htails
      exact ⟨rfl, hrs⟩

/-! ## Bytes -/

/-- Byte strings of one length need no mark. -/
theorem isCode_ofLength (n : Nat) : IsCode (fun b : Bytes => b.length = n) fun b => b :=
  fun _ _ ha hb _ _ h => List.append_inj h (ha.trans hb.symm)

theorem isCode_littleEndian (width : Nat) :
    IsCode (fun n => n < 256 ^ width) (Gzip.littleEndian width) := by
  induction width with
  | zero =>
    intro m n hm hn r s h
    exact ⟨by omega, h⟩
  | succ width ih =>
    intro m n hm hn r s h
    rw [Nat.pow_succ] at hm hn
    obtain ⟨hlow, hhigh⟩ := List.cons.inj h
    have hmod : m % 256 = n % 256 := by
      rw [← UInt8.toNat_ofNat', ← UInt8.toNat_ofNat', hlow]
    obtain ⟨hdiv, hrs⟩ := ih (a := m / 256) (b := n / 256) (by omega) (by omega) hhigh
    exact ⟨by omega, hrs⟩

namespace Bytes

theorem ofString_injective : Function.Injective ofString := by
  intro s t h
  obtain hst | rfl | hts := lt_trichotomy s t
  · exact absurd (h ▸ ofString_lt_ofString.2 hst) (List.lt_irrefl _)
  · rfl
  · exact absurd (h ▸ ofString_lt_ofString.2 hts) (List.lt_irrefl _)

/-- No character has the byte of eight ones. -/
theorem ne_of_mem_utf8EncodeChar {c : Char} {b : UInt8} (h : b ∈ String.utf8EncodeChar c) :
    b ≠ 0xFF := by
  rintro rfl
  have hnat : (0xFF : UInt8).toNat = 255 := rfl
  unfold String.utf8EncodeChar at h
  dsimp only at h
  split_ifs at h
  all_goals
    simp only [List.mem_cons, List.not_mem_nil, or_false, ← UInt8.toNat_inj,
      UInt8.toNat_ofNat', hnat] at h
    omega

theorem mark_notMem_ofString (s : String) : 0xFF ∉ ofString s := by
  rw [ofString_eq, List.mem_flatMap]
  rintro ⟨c, _, hmark⟩
  exact ne_of_mem_utf8EncodeChar hmark rfl

end Bytes

theorem isCode_markedText (P : String → Prop) : IsCode P fun s => Bytes.ofString s ++ [0xFF] :=
  (isCode_marked 0xFF).comp Bytes.ofString_injective fun s _ => Bytes.mark_notMem_ofString s

end Telemetry
