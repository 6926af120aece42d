import Mathlib.Data.List.Forall2
import Mathlib.Tactic.SplitIfs
import Telemetry.Configuration.Shape

/-!
# When shapes are read

For each way of reading a tree, the trees that can be read and what they denote.

* `bind_eq_ok`, `map_eq_ok`, `mapM_eq_ok`: steps in a row succeed if each of them does.
* `mapM_map_eq_some`: what is written item by item is read back item by item.
* `Shape.record_eq_ok`, `Shape.list_eq_ok`, `Shape.optional_eq_ok`, …: the same for shapes.
-/

namespace Telemetry

section Steps

variable {ε α β : Type}

theorem bind_eq_ok {x : Except ε α} {f : α → Except ε β} {b : β} :
    x >>= f = .ok b ↔ ∃ a, x = .ok a ∧ f a = .ok b := by
  cases x <;> simp [bind, Except.bind]

theorem map_eq_ok {x : Except ε α} {f : α → β} {b : β} :
    x.map f = .ok b ↔ ∃ a, x = .ok a ∧ f a = b := by
  cases x <;> simp [Except.map]

theorem pure_eq_ok {a b : α} : (pure a : Except ε α) = .ok b ↔ a = b := by
  simp [pure, Except.pure]

theorem mapM_eq_ok {f : α → Except ε β} : ∀ {as : List α} {bs : List β},
    as.mapM f = .ok bs ↔ List.Forall₂ (fun a b => f a = .ok b) as bs
  | [], bs => by
    rw [List.mapM_nil, pure_eq_ok, List.forall₂_nil_left_iff, eq_comm]
  | a :: as, bs => by
    simp only [List.mapM_cons, bind_eq_ok, pure_eq_ok, mapM_eq_ok, List.forall₂_cons_left_iff]
    constructor
    · rintro ⟨b, hb, rest, hrest, rfl⟩
      exact ⟨b, rest, hb, hrest, rfl⟩
    · rintro ⟨b, rest, hb, hrest, rfl⟩
      exact ⟨b, hb, rest, hrest, rfl⟩

/-- A step that is `g` where `P` holds and fails elsewhere, taken along a list. -/
theorem mapM_eq_ok_iff {f : α → Except ε β} {P : α → Prop} {g : α → β}
    (h : ∀ a b, f a = .ok b ↔ P a ∧ g a = b) {as : List α} {bs : List β} :
    as.mapM f = .ok bs ↔ (∀ a ∈ as, P a) ∧ as.map g = bs := by
  have hg : List.Forall₂ (fun a b => g a = b) as bs ↔ as.map g = bs := by
    rw [← List.forall₂_map_left_iff (R := Eq), List.forall₂_eq_eq_eq]
  rw [mapM_eq_ok, ← hg, ← List.forall₂_and_left]
  simp only [h]

/-- What is written item by item is read back item by item. -/
theorem mapM_map_eq_some {γ : Type} {read : β → Option γ} {write : α → β} {g : α → γ} {as : List α}
    (h : ∀ a ∈ as, read (write a) = some (g a)) : (as.map write).mapM read = some (as.map g) := by
  induction as with
  | nil => rfl
  | cons a as ih =>
    rw [List.forall_mem_cons] at h
    rw [List.map_cons, List.mapM_cons, h.1, ih h.2]
    rfl

end Steps

namespace Shape

variable {α : Type} {read : Tree → Shaped α} {t? : Option Tree} {o : Option α}

theorem optional_eq_ok : optional read t? = .ok o ↔
    ((t? = none ∨ t? = some .null) ∧ none = o) ∨
      ∃ t a, t? = some t ∧ t ≠ .null ∧ read t = .ok a ∧ some a = o := by
  unfold optional
  split
  · simp
  · simp
  · rename_i t ht
    simp [map_eq_ok, show t ≠ .null from ht]

theorem present_eq_ok : present read t? = .ok o ↔
    (t? = none ∧ none = o) ∨ ∃ t a, t? = some t ∧ read t = .ok a ∧ some a = o := by
  cases t? <;> simp [present, map_eq_ok]

theorem required_eq_ok {fault : ShapeFault} {a : α} : required fault o = .ok a ↔ o = some a := by
  cases o <;> simp [required]

theorem list_eq_ok {t : Tree} {as : List α} : list read t = .ok as ↔
    ∃ items, t = .list items ∧ List.Forall₂ (fun t a => read t = .ok a) items as := by
  cases t <;> simp [list, mapM_eq_ok]

theorem record_eq_ok {name : String} {size : Nat} {byName : Entries → Shaped α}
    {byPosition : List Tree → Shaped α} {t : Tree} {a : α} :
    record name size byName byPosition t = .ok a ↔
      (∃ es, t = .node es ∧ byName es = .ok a) ∨
        ∃ items, t = .list items ∧ byPosition items = .ok a ∧ items.length ≤ size := by
  cases t with
  | node es => simp [record]
  | list items =>
    simp only [record, bind_eq_ok]
    constructor
    · rintro ⟨a', ha', h⟩
      split_ifs at h with hsize
      cases h
      exact .inr ⟨items, rfl, ha', by omega⟩
    · rintro (⟨es, he, -⟩ | ⟨items', hi, ha, hsize⟩)
      · cases he
      · cases hi
        exact ⟨a, ha, if_neg (by omega)⟩
  | _ => simp [record]

end Shape

end Telemetry
