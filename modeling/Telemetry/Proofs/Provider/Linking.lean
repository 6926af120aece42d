import Mathlib.Data.Fin.Basic
import Telemetry.Export.Store

/-!
# Linked providers are made once

* `counting`, `fate`: which registrations count when some are passed over, and what becomes of each
  one: its factory runs, or it is ignored.
* `IsRepeat`: whether one before a registration has its capability and name.
* `link_eq`: linking passes over repeats, and over nothing else.
* `Linked.loads`: what loads one after the other find, and what happens in each of them.
* **`loads_accounts`**: all loads find the first registrations of each capability and name, and only
  the first load makes anything.
-/

namespace Telemetry.Provider

variable {κ : Type} {π : κ → Type}

/-! ## Registrations -/

namespace Registration

/-- The place of a registration. -/
def place (r : Registration κ π) : κ × String := (r.capability, r.name)

/-- The entry that a registration makes. -/
def entry (r : Registration κ π) : Entry κ π := ⟨r.capability, r.name, r.factory ()⟩

end Registration

section Taken

variable (rs : List (Registration κ π)) (taken : Fin rs.length → Prop) [DecidablePred taken]

/-- The registrations that are not taken, in order. -/
def counting : List (Registration κ π) :=
  ((List.finRange rs.length).filter fun i => decide (¬ taken i)).map fun i => rs[i]

/-- What becomes of a registration: it is ignored if it is taken, and otherwise its factory runs. -/
def fate (i : Fin rs.length) : LinkStep κ :=
  if taken i then .ignored rs[i].capability rs[i].name else .made rs[i].capability rs[i].name

end Taken

theorem counting_congr {rs : List (Registration κ π)} {P Q : Fin rs.length → Prop}
    [DecidablePred P] [DecidablePred Q] (h : ∀ i, P i ↔ Q i) : counting rs P = counting rs Q := by
  simp only [counting, h]

theorem fate_congr {rs : List (Registration κ π)} {P Q : Fin rs.length → Prop}
    [DecidablePred P] [DecidablePred Q] (h : ∀ i, P i ↔ Q i) : fate rs P = fate rs Q := by
  funext i
  simp only [fate, h]

section Cons

variable (r : Registration κ π) (rest : List (Registration κ π))
  (taken : Fin (rest.length + 1) → Prop) [DecidablePred taken]

theorem counting_cons : counting (r :: rest) taken =
    (if taken 0 then [] else [r]) ++ counting rest fun i => taken i.succ := by
  unfold counting
  rw [show List.finRange (r :: rest).length = _ from List.finRange_succ, List.filter_cons,
    List.filter_map]
  by_cases h : taken 0
  · rw [if_pos h, if_neg (by simpa using h), List.map_map]
    rfl
  · rw [if_neg h, if_pos (by simpa using h), List.map_cons, List.map_map]
    rfl

theorem map_fate_cons : (List.finRange (rest.length + 1)).map (fate (r :: rest) taken) =
    (if taken 0 then .ignored r.capability r.name else .made r.capability r.name) ::
      (List.finRange rest.length).map (fate rest fun i => taken i.succ) := by
  rw [List.finRange_succ, List.map_cons, List.map_map]
  rfl

end Cons

/-! ## Repeats -/

/-- Whether one before a registration has its capability and name. -/
def IsRepeat (rs : List (Registration κ π)) (i : Fin rs.length) : Prop :=
  ∃ j < i, rs[j].capability = rs[i].capability ∧ rs[j].name = rs[i].name

/-- Whether the place of a registration is among the given ones, or one before it has it. -/
def IsTaken (seen : List (κ × String)) (rs : List (Registration κ π)) (i : Fin rs.length) : Prop :=
  rs[i].place ∈ seen ∨ IsRepeat rs i

section IsTaken

variable {seen : List (κ × String)} {r : Registration κ π} {rest : List (Registration κ π)}

theorem isTaken_zero : IsTaken seen (r :: rest) (0 : Fin (rest.length + 1)) ↔ r.place ∈ seen := by
  constructor
  · rintro (h | ⟨j, hj, -⟩)
    · exact h
    · exact absurd hj (Fin.not_lt_zero j)
  · exact .inl

/-- The first registration takes its place from those behind it. -/
theorem isTaken_succ (i : Fin rest.length) :
    IsTaken seen (r :: rest) i.succ ↔ IsTaken (r.place :: seen) rest i := by
  have hrepeat : IsRepeat (r :: rest) i.succ ↔ r.place = rest[i].place ∨ IsRepeat rest i := by
    constructor
    · rintro ⟨j, hj, h⟩
      cases j using Fin.cases with
      | zero => exact .inl (Prod.ext h.1 h.2)
      | succ j => exact .inr ⟨j, Fin.succ_lt_succ_iff.1 hj, h⟩
    · rintro (h | ⟨j, hj, h⟩)
      · exact ⟨(0 : Fin (rest.length + 1)), Fin.succ_pos i, Prod.mk.inj h⟩
      · exact ⟨j.succ, Fin.succ_lt_succ_iff.2 hj, h⟩
  rw [IsTaken, IsTaken, hrepeat, List.mem_cons, eq_comm (a := r.place), or_left_comm, or_assoc]
  rfl

theorem isTaken_cons_of_mem (h : r.place ∈ seen) (i : Fin rest.length) :
    IsTaken (r.place :: seen) rest i ↔ IsTaken seen rest i := by
  have hmem : rest[i].place ∈ r.place :: seen ↔ rest[i].place ∈ seen := by
    rw [List.mem_cons, or_iff_right_iff_imp]
    intro hi
    rwa [hi]
  rw [IsTaken, IsTaken, hmem]

end IsTaken

variable [DecidableEq κ]

instance (rs : List (Registration κ π)) : DecidablePred (IsRepeat rs) := fun i =>
  inferInstanceAs (Decidable (∃ j < i, rs[j].capability = rs[i].capability ∧ rs[j].name = rs[i].name))

instance (seen : List (κ × String)) (rs : List (Registration κ π)) :
    DecidablePred (IsTaken seen rs) := fun i =>
  inferInstanceAs (Decidable (rs[i].place ∈ seen ∨ IsRepeat rs i))

/-! ## Linking -/

theorem linkAfter_cons (seen : List (κ × String)) (r : Registration κ π)
    (rest : List (Registration κ π)) :
    linkAfter seen (r :: rest) =
      if r.place ∈ seen then
        ((linkAfter seen rest).1, .ignored r.capability r.name :: (linkAfter seen rest).2)
      else
        (r.entry :: (linkAfter (r.place :: seen) rest).1,
          .made r.capability r.name :: (linkAfter (r.place :: seen) rest).2) := rfl

/-- **Linking once some places are taken.** -/
theorem linkAfter_eq (seen : List (κ × String)) (rs : List (Registration κ π)) :
    linkAfter seen rs = ((counting rs (IsTaken seen rs)).map Registration.entry,
      (List.finRange rs.length).map (fate rs (IsTaken seen rs))) := by
  -- one that counts takes its place from those behind it, a repeat leaves all places as they are
  induction rs generalizing seen with
  | nil => rfl
  | cons r rest ih =>
    have hcounting := counting_cons r rest (IsTaken seen (r :: rest))
    have hfate := map_fate_cons r rest (IsTaken seen (r :: rest))
    simp only [isTaken_zero] at hcounting hfate
    rw [linkAfter_cons, hcounting]
    refine Eq.trans ?_ (congrArg (Prod.mk _) hfate.symm)
    by_cases h : r.place ∈ seen
    · have hrest : ∀ i, IsTaken seen (r :: rest) (Fin.succ i) ↔ IsTaken seen rest i := fun i =>
        (isTaken_succ i).trans (isTaken_cons_of_mem h i)
      rw [if_pos h, if_pos h, if_pos h, counting_congr hrest, fate_congr hrest, ih]
      rfl
    · rw [if_neg h, if_neg h, if_neg h, counting_congr isTaken_succ, fate_congr isTaken_succ, ih]
      rfl

/-- **Linking passes over repeats**, and over nothing else. -/
theorem link_eq (rs : List (Registration κ π)) :
    link rs = ((counting rs (IsRepeat rs)).map Registration.entry,
      (List.finRange rs.length).map (fate rs (IsRepeat rs)) ++
        [.ready (counting rs (IsRepeat rs)).length]) := by
  have hnone : ∀ i, IsTaken [] rs i ↔ IsRepeat rs i := fun i =>
    or_iff_right List.not_mem_nil
  unfold link
  rw [linkAfter_eq, counting_congr hnone, fate_congr hnone]
  dsimp only
  rw [List.length_map]

theorem ofCapability_map_entry (k : κ) (rs : List (Registration κ π)) :
    ofCapability k (rs.map Registration.entry) =
      (rs.filter fun r => decide (r.capability = k)).map Registration.entry := List.filter_map

/-! ## Loads one after the other -/

namespace Linked

/-- What loads one after the other find, and what happens in each of them. -/
def loads (rs : List (Registration κ π)) :
    List κ → Linked κ π → List (List (Entry κ π) × List (LinkStep κ))
  | [], _ => []
  | k :: ks, l =>
    let (entries, l, steps) := l.load rs k
    (entries, steps) :: loads rs ks l

/-- Providers that were made are found again, and none is made once more. -/
theorem loads_of_made (rs : List (Registration κ π)) (ks : List κ) (es : List (Entry κ π)) :
    loads rs ks ⟨some es⟩ = ks.map fun k => (ofCapability k es, []) := by
  induction ks with
  | nil => rfl
  | cons k ks ih => exact congrArg (_ :: ·) ih

/-- **Linked providers are made once.** The first load decides the fate of each registration; all
loads find those that are no repeats, in order. -/
theorem loads_accounts (rs : List (Registration κ π)) (ks : List κ) :
    let entriesFor (k : κ) :=
      ((counting rs (IsRepeat rs)).filter fun r => decide (r.capability = k)).map Registration.entry
    (loads rs ks {} =
      match ks with
      | [] => []
      | k :: later =>
        (entriesFor k, (List.finRange rs.length).map (fate rs (IsRepeat rs)) ++
            [.ready (counting rs (IsRepeat rs)).length]) ::
          later.map fun k => (entriesFor k, [])) ∧
    (∀ (s : Store) (number : Nat) (k : Capability),
      (s.load k (.linked number)).2.journal = s.journal ++
        (((s.catalogue.linked[number]?).getD {}).load s.catalogue.registrations k).2.2.map
          Store.linkNotice) ∧
    ∀ (k : Capability) (name : String), Store.linkNotice (.ignored k name) =
      .logged ⟨.warn, "otk_spi::inventory_loader", "duplicate provider registration ignored",
        [("capability", .quoted k.title), ("name", .quoted name)]⟩ := by
  intro entriesFor
  have hfound : ∀ k, ofCapability k (link rs).1 = entriesFor k := fun k => by
    rw [link_eq, ofCapability_map_entry]
  refine ⟨?_, fun _ _ _ => rfl, fun _ _ => rfl⟩
  cases ks with
  | nil => rfl
  | cons k later =>
    have hfirst : loads rs (k :: later) {} =
        (ofCapability k (link rs).1, (link rs).2) :: loads rs later ⟨some (link rs).1⟩ := rfl
    simp only [hfirst, loads_of_made, hfound]
    rw [link_eq]

end Linked

end Telemetry.Provider
