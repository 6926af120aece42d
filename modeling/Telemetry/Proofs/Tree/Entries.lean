import Mathlib.Data.String.Basic
import Mathlib.Tactic.SplitIfs
import Telemetry.Configuration.Shape

/-!
# Entries by name

* `Entries.get?_insert`, `Entries.get?_ofPairs`: what stands under a name after entries were put in.
  No order of the entries is needed.
* `Entries.mem_keys_iff`, `Entries.pairwise_keys_ofPairs`: the names, which are in ascending order
  once pairs were put in.
* `Entries.get?_ofPairs_append`, `Entries.get?_ofPairs_optionalField`: the same for the fields of a
  record, piece by piece.
-/

namespace Telemetry.Entries

@[simp]
theorem get?_nil (name : String) : get? [] name = none := rfl

theorem get?_cons (name key : String) (value : Tree) (es : Entries) :
    get? ((key, value) :: es) name = if name = key then some value else es.get? name := by
  unfold get?
  rw [List.lookup_cons]
  by_cases h : name = key
  · rw [if_pos h, beq_iff_eq.2 h]
  · rw [if_neg h, beq_eq_false_iff_ne.2 h]

theorem get?_insert (name key : String) (value : Tree) (es : Entries) :
    (insert key value es).get? name = if name = key then some value else es.get? name := by
  induction es with
  | nil => rw [insert, get?_cons]
  | cons e es ih =>
    obtain ⟨other, old⟩ := e
    rw [insert]
    by_cases hlt : key < other
    · rw [if_pos hlt, get?_cons]
    rw [if_neg hlt]
    by_cases heq : key = other
    · rw [if_pos heq, get?_cons, get?_cons, heq]
      by_cases h : name = other
      · rw [if_pos h, if_pos h]
      · rw [if_neg h, if_neg h, if_neg h]
    · rw [if_neg heq, get?_cons, get?_cons, ih]
      by_cases h : name = other
      · rw [if_pos h, if_pos h, if_neg (fun e => heq (e.symm.trans h))]
      · rw [if_neg h, if_neg h]

theorem get?_foldl_insert (ps : List (String × Tree)) (es : Entries) (name : String) :
    (ps.foldl (fun es (k, v) => insert k v es) es).get? name =
      (ps.reverse.lookup name).or (es.get? name) := by
  induction ps generalizing es with
  | nil => rfl
  | cons p ps ih =>
    obtain ⟨k, v⟩ := p
    rw [List.foldl_cons, ih, get?_insert, List.reverse_cons, List.lookup_append, Option.or_assoc,
      List.lookup_cons]
    by_cases h : name = k
    · rw [if_pos h, beq_iff_eq.2 h]
      rfl
    · rw [if_neg h, beq_eq_false_iff_ne.2 h]
      rfl

/-- Of several values of one name the last one stays. -/
theorem get?_ofPairs (ps : List (String × Tree)) (name : String) :
    (ofPairs ps).get? name = ps.reverse.lookup name := by
  rw [ofPairs, get?_foldl_insert, get?_nil, Option.or_none]

theorem get?_ofPairs_append (ps qs : List (String × Tree)) (name : String) :
    (ofPairs (ps ++ qs)).get? name = ((ofPairs qs).get? name).or ((ofPairs ps).get? name) := by
  rw [get?_ofPairs, get?_ofPairs, get?_ofPairs, List.reverse_append, List.lookup_append]

theorem get?_ofPairs_singleton (name key : String) (value : Tree) :
    (ofPairs [(key, value)]).get? name = if name = key then some value else none :=
  get?_cons name key value []

theorem get?_ofPairs_optionalField (name key : String) (value : Option Tree) :
    (ofPairs (optionalField key value)).get? name = if name = key then value else none := by
  cases value with
  | none => exact (ite_self none).symm
  | some t => exact get?_ofPairs_singleton name key t

/-! ## Names -/

theorem mem_keys_iff {es : Entries} {name : String} :
    name ∈ es.keys ↔ (es.get? name).isSome = true := by
  induction es with
  | nil => exact iff_of_false List.not_mem_nil Bool.false_ne_true
  | cons e es ih =>
    obtain ⟨key, value⟩ := e
    rw [get?_cons, keys, List.map_cons, List.mem_cons]
    by_cases h : name = key
    · rw [if_pos h]
      exact iff_of_true (.inl h) rfl
    · rw [if_neg h, ← ih]
      exact or_iff_right h

theorem mem_keys_insert {name key : String} {value : Tree} {es : Entries} :
    name ∈ (insert key value es).keys ↔ name = key ∨ name ∈ es.keys := by
  rw [mem_keys_iff, mem_keys_iff, get?_insert]
  by_cases h : name = key <;> simp [h]

theorem pairwise_keys_insert (key : String) (value : Tree) {es : Entries}
    (h : es.keys.Pairwise (· < ·)) : (insert key value es).keys.Pairwise (· < ·) := by
  induction es with
  | nil => exact List.pairwise_singleton _ key
  | cons e es ih =>
    obtain ⟨other, old⟩ := e
    obtain ⟨hother, hes⟩ := List.pairwise_cons.1 h
    rw [insert]
    split_ifs with hlt heq
    · refine List.pairwise_cons.2 ⟨fun name hname => ?_, h⟩
      obtain rfl | hname := List.mem_cons.1 hname
      · exact hlt
      · exact lt_trans hlt (hother name hname)
    · exact List.pairwise_cons.2 ⟨fun name hname => heq ▸ hother name hname, hes⟩
    · refine List.pairwise_cons.2 ⟨fun name hname => ?_, ih hes⟩
      obtain rfl | hname := mem_keys_insert.1 hname
      · exact lt_of_le_of_ne (not_lt.1 hlt) (Ne.symm heq)
      · exact hother name hname

theorem pairwise_keys_foldl_insert (ps : List (String × Tree)) {es : Entries}
    (h : es.keys.Pairwise (· < ·)) :
    (keys (ps.foldl (fun es (k, v) => insert k v es) es)).Pairwise (· < ·) := by
  induction ps generalizing es with
  | nil => exact h
  | cons p ps ih => exact ih (pairwise_keys_insert p.1 p.2 h)

/-- A value that no later one of its name follows stays. -/
theorem get?_ofPairs_of_last {before after : List (String × Tree)} {name : String} {value : Tree}
    (h : ∀ p ∈ after, p.1 ≠ name) :
    (ofPairs (before ++ (name, value) :: after)).get? name = some value := by
  rw [get?_ofPairs, List.lookup_eq_some_iff]
  refine ⟨after.reverse, before.reverse, by simp, fun p hp => ?_⟩
  exact bne_iff_ne.2 (h p (List.mem_reverse.1 hp)).symm

theorem get?_ofPairs_eq_none {ps : List (String × Tree)} {name : String} :
    (ofPairs ps).get? name = none ↔ ∀ p ∈ ps, p.1 ≠ name := by
  simp only [get?_ofPairs, List.lookup_eq_none_iff, List.mem_reverse, bne_iff_ne, ne_comm]

/-- **Names are in ascending order**, whatever the order in which pairs were put in. -/
theorem pairwise_keys_ofPairs (ps : List (String × Tree)) :
    (ofPairs ps).keys.Pairwise (· < ·) := pairwise_keys_foldl_insert ps .nil

end Telemetry.Entries
