import Mathlib.Data.List.Sort
import Mathlib.Data.String.Basic
import Mathlib.Tactic.SplitIfs
import Telemetry.Compression.Compressor

/-!
# What methods stand for

* `first?_table`: under an encoding the table has the compressor that was found last, and under gzip
  the built-in one.
* `Known`, `Names`: whether a method stands for anything, and for what.
* `resolve_of_known`, `resolve_of_not_known`: a method is resolved to what it stands for, if it
  stands for anything.
* `names_of_resolve`, `exists_resolve_eq_some`: nothing else comes of a resolution.
* `pairwise_supported`, `mem_supported`: the known methods are gzip and the encodings that were
  found, in ascending order.
* `supported_congr`, `isSome_resolve_congr`: neither the order of the compressors that were found nor
  how often each of them was found matters for the known methods.
-/

namespace Telemetry.Compression

/-! ## Look-up -/

/-- The first compressor of an encoding. -/
def first? (cs : List Compressor) (encoding : String) : Option Compressor :=
  cs.find? fun c => c.encoding == encoding

theorem first?_cons (c : Compressor) (cs : List Compressor) (encoding : String) :
    first? (c :: cs) encoding = if c.encoding = encoding then some c else first? cs encoding := by
  unfold first?
  rw [List.find?_cons]
  by_cases h : c.encoding = encoding
  · rw [if_pos h, beq_iff_eq.2 h]
  · rw [if_neg h, beq_eq_false_iff_ne.2 h]

theorem first?_append (cs ds : List Compressor) (encoding : String) :
    first? (cs ++ ds) encoding = (first? cs encoding).or (first? ds encoding) := List.find?_append

theorem first?_isSome {cs : List Compressor} {encoding : String} :
    (first? cs encoding).isSome = true ↔ ∃ c ∈ cs, c.encoding = encoding := by
  simp only [first?, List.find?_isSome, beq_iff_eq]

theorem first?_insert (c : Compressor) (cs : List Compressor) (encoding : String) :
    first? (insert c cs) encoding =
      if c.encoding = encoding then some c else first? cs encoding := by
  induction cs with
  | nil => exact first?_cons c [] encoding
  | cons other rest ih =>
    rw [insert]
    by_cases hlt : c.encoding < other.encoding
    · rw [if_pos hlt, first?_cons]
    rw [if_neg hlt]
    by_cases heq : c.encoding = other.encoding
    · rw [if_pos heq, first?_cons, first?_cons, ← heq]
      split_ifs <;> rfl
    · rw [if_neg heq, first?_cons, first?_cons, ih]
      by_cases h : c.encoding = encoding
      · rw [if_pos h, if_pos h, if_neg fun e => heq (h.trans e.symm)]
      · rw [if_neg h, if_neg h]

theorem first?_foldl_insert (cs found : List Compressor) (encoding : String) :
    first? (cs.foldl (fun found c => insert c found) found) encoding =
      (first? cs.reverse encoding).or (first? found encoding) := by
  induction cs generalizing found with
  | nil => rfl
  | cons c cs ih =>
    rw [List.foldl_cons, ih, first?_insert, List.reverse_cons, first?_append, Option.or_assoc,
      first?_cons]
    congr 1
    split_ifs <;> rfl

/-- Of several compressors with one encoding the table has the last one, but gzip is built in. -/
theorem first?_table (found : List Compressor) (encoding : String) :
    first? (table found) encoding =
      if Compressor.gzipEncoding = encoding then some .gzip else first? found.reverse encoding := by
  rw [table, first?_insert, first?_foldl_insert, show first? [] encoding = none from rfl,
    Option.or_none]
  rfl

/-! ## Resolution -/

/-- Whether a method stands for anything. -/
def Known (found : List Compressor) (method : String) : Prop :=
  method = noMethod ∨ method = Compressor.gzipEncoding ∨ ∃ c ∈ found, c.encoding = method

/-- What a method stands for: nothing, the built-in compressor, or else the compressor with this
encoding that was found last. -/
inductive Names (found : List Compressor) : String → Option Compressor → Prop
  | noMethod : Names found noMethod none
  | gzip : Names found Compressor.gzipEncoding (some .gzip)
  | found {before after : List Compressor} {c : Compressor} :
      found = before ++ c :: after → (∀ d ∈ after, d.encoding ≠ c.encoding) →
        c.encoding ≠ noMethod → c.encoding ≠ Compressor.gzipEncoding →
          Names found c.encoding (some c)

variable {found : List Compressor} {method : String}

theorem resolve_of_ne (h : method ≠ noMethod) : resolve found method =
    match first? (table found) method with
    | some c => .ok (some c)
    | none => .error (.unknownMethod (supported found)) := if_neg h

/-- The first one from behind is the last one. -/
theorem eq_append_of_first?_reverse {c : Compressor} (h : first? found.reverse method = some c) :
    c.encoding = method ∧ ∃ before after, found = before ++ c :: after ∧
      ∀ d ∈ after, d.encoding ≠ method := by
  obtain ⟨hc, behind, rest, hfound, hbehind⟩ := List.find?_eq_some_iff_append.1 h
  refine ⟨beq_iff_eq.1 hc, rest.reverse, behind.reverse, ?_, fun d hd => ?_⟩
  · rw [← List.reverse_reverse found, hfound, List.reverse_append, List.reverse_cons,
      List.append_assoc]
    rfl
  · simpa using hbehind d (List.mem_reverse.1 hd)

/-- A method that stands for something is resolved to it. -/
theorem resolve_of_known (h : Known found method) :
    ∃ c, resolve found method = .ok c ∧ Names found method c := by
  by_cases hnone : method = noMethod
  · rw [hnone]
    exact ⟨none, rfl, .noMethod⟩
  rw [resolve_of_ne hnone, first?_table]
  by_cases hgzip : method = Compressor.gzipEncoding
  · rw [if_pos hgzip.symm, hgzip]
    exact ⟨_, rfl, .gzip⟩
  rw [if_neg (Ne.symm hgzip)]
  obtain ⟨d, hd, hmethod⟩ := (h.resolve_left hnone).resolve_left hgzip
  obtain ⟨c, hc⟩ := Option.isSome_iff_exists.1
    (first?_isSome.2 ⟨d, List.mem_reverse.2 hd, hmethod⟩)
  obtain ⟨rfl, before, after, hfound, hafter⟩ := eq_append_of_first?_reverse hc
  rw [hc]
  exact ⟨some c, rfl, .found hfound hafter hnone hgzip⟩

/-- A method that stands for nothing is refused. -/
theorem resolve_of_not_known (h : ¬ Known found method) :
    resolve found method = .error (.unknownMethod (supported found)) := by
  obtain ⟨hnone, hgzip, hfound⟩ := by simpa only [Known, not_or] using h
  rw [resolve_of_ne hnone, first?_table, if_neg (Ne.symm hgzip)]
  have hfirst : first? found.reverse method = none := by
    rw [← Option.not_isSome_iff_eq_none, first?_isSome]
    simpa only [List.mem_reverse] using hfound
  rw [hfirst]

theorem names_of_resolve {c : Option Compressor} (h : resolve found method = .ok c) :
    Names found method c := by
  by_cases hknown : Known found method
  · obtain ⟨d, hd, hnames⟩ := resolve_of_known hknown
    obtain rfl : d = c := Except.ok.inj (hd.symm.trans h)
    exact hnames
  · rw [resolve_of_not_known hknown] at h
    cases h

theorem Names.isSome_eq {c : Option Compressor} (h : Names found method c) :
    c.isSome = decide (method ≠ Compression.noMethod) := by
  cases h with
  | noMethod => rfl
  | gzip => rfl
  | found _ _ hnone _ => exact (decide_eq_true hnone).symm

/-- The compressor of a method reports it as its encoding, and is the built-in one or one of those
that were found. -/
theorem Names.eq_some {c : Compressor} (h : Names found method (some c)) :
    c.encoding = method ∧ if method = Compressor.gzipEncoding then c = .gzip else c ∈ found := by
  cases h with
  | gzip => exact ⟨rfl, by rw [if_pos rfl]⟩
  | found hfound _ _ hgzip =>
    rw [if_neg hgzip, hfound]
    exact ⟨rfl, List.mem_append_right _ List.mem_cons_self⟩

theorem exists_resolve_eq_some (hnone : method ≠ noMethod) :
    (∃ c, resolve found method = .ok (some c)) ↔
      method = Compressor.gzipEncoding ∨ ∃ c ∈ found, c.encoding = method := by
  constructor
  · rintro ⟨c, hc⟩
    by_contra h
    rw [resolve_of_not_known fun hknown => h (hknown.resolve_left hnone)] at hc
    cases hc
  · intro h
    have hknown : Known found method := .inr h
    obtain ⟨c, hc, hnames⟩ := resolve_of_known hknown
    obtain ⟨d, rfl⟩ := Option.isSome_iff_exists.1 (hnames.isSome_eq.trans (decide_eq_true hnone))
    exact ⟨d, hc⟩

/-! ## Known methods -/

theorem mem_insert {c d : Compressor} {cs : List Compressor} (h : d ∈ insert c cs) :
    d = c ∨ d ∈ cs := by
  induction cs with
  | nil => exact .inl (List.mem_singleton.1 h)
  | cons other rest ih =>
    rw [insert] at h
    split_ifs at h
    · exact List.mem_cons.1 h
    · exact (List.mem_cons.1 h).imp_right (List.mem_cons_of_mem other)
    · obtain rfl | hd := List.mem_cons.1 h
      · exact .inr List.mem_cons_self
      · exact (ih hd).imp_right (List.mem_cons_of_mem other)

theorem pairwise_insert (c : Compressor) {cs : List Compressor}
    (h : cs.Pairwise fun a b => a.encoding < b.encoding) :
    (insert c cs).Pairwise fun a b => a.encoding < b.encoding := by
  induction cs with
  | nil => exact List.pairwise_singleton _ c
  | cons other rest ih =>
    obtain ⟨hother, hrest⟩ := List.pairwise_cons.1 h
    rw [insert]
    split_ifs with hlt heq
    · refine List.pairwise_cons.2 ⟨fun d hd => ?_, h⟩
      obtain rfl | hd := List.mem_cons.1 hd
      · exact hlt
      · exact lt_trans hlt (hother d hd)
    · exact List.pairwise_cons.2 ⟨fun d hd => heq ▸ hother d hd, hrest⟩
    · refine List.pairwise_cons.2 ⟨fun d hd => ?_, ih hrest⟩
      obtain rfl | hd := mem_insert hd
      · exact lt_of_le_of_ne (not_lt.1 hlt) (Ne.symm heq)
      · exact hother d hd

theorem pairwise_foldl_insert (cs : List Compressor) {found : List Compressor}
    (h : found.Pairwise fun a b => a.encoding < b.encoding) :
    (cs.foldl (fun found c => insert c found) found).Pairwise
      fun a b => a.encoding < b.encoding := by
  induction cs generalizing found with
  | nil => exact h
  | cons c cs ih => exact ih (pairwise_insert c h)

theorem pairwise_supported (found : List Compressor) : (supported found).Pairwise (· < ·) :=
  List.pairwise_map.2 (pairwise_insert .gzip (pairwise_foldl_insert found .nil))

theorem mem_supported : method ∈ supported found ↔
    method = Compressor.gzipEncoding ∨ ∃ c ∈ found, c.encoding = method := by
  rw [supported, List.mem_map, ← first?_isSome, first?_table]
  by_cases hgzip : method = Compressor.gzipEncoding
  · simp [hgzip]
  · rw [if_neg (Ne.symm hgzip), first?_isSome]
    simp [hgzip]

/-! ## Order and repetition -/

section Congr

variable {cs ds : List Compressor} (h : ∀ c, c ∈ cs ↔ c ∈ ds)

include h

/-- A list in ascending order is given by its elements. -/
theorem supported_congr : supported cs = supported ds := by
  refine (pairwise_supported cs).eq_of_mem_iff (pairwise_supported ds) fun method => ?_
  simp only [mem_supported, h]

theorem isSome_resolve_congr (method : String) :
    (resolve cs method).map Option.isSome = (resolve ds method).map Option.isSome := by
  have hknown : Known cs method ↔ Known ds method := by simp only [Known, h]
  by_cases hcs : Known cs method
  · obtain ⟨c, hc, hc'⟩ := resolve_of_known hcs
    obtain ⟨d, hd, hd'⟩ := resolve_of_known (hknown.1 hcs)
    rw [hc, hd, Except.map, Except.map, hc'.isSome_eq, hd'.isSome_eq]
  · rw [resolve_of_not_known hcs, resolve_of_not_known (mt hknown.2 hcs), supported_congr h]

end Congr

end Telemetry.Compression
