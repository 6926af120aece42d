import Mathlib.Data.String.Basic
import Mathlib.Tactic.SplitIfs
import Telemetry.Bytes.Hex

/-!
# The order of texts

* `ofString_eq`: the bytes of a text are those of its characters, one after the other.
* `toString?_ofString`: a text is read again from its bytes.
* `utf8EncodeChar_lt`: of two characters the lesser one has the lesser bytes, whatever follows them.
* **`ofString_lt_ofString`**: texts are in the order of their bytes.
-/

namespace Telemetry.Bytes

/-! ## Bytes of texts -/

/-- What was gathered is turned around in front of what is left. -/
theorem toList_loop_eq (b : ByteArray) (i : Nat) (gathered : Bytes) :
    ByteArray.toList.loop b i gathered = gathered.reverse ++ b.data.toList.drop i := by
  fun_induction ByteArray.toList.loop b i gathered with
  | case1 i gathered h ih =>
    have hi : i < b.data.toList.length := by simpa using h
    rw [ih, List.drop_eq_getElem_cons hi]
    simp [ByteArray.get!, h]
  | case2 i gathered h =>
    rw [List.drop_eq_nil_of_le (by simpa using h), List.append_nil]

theorem ofString_eq (s : String) : ofString s = s.toList.flatMap String.utf8EncodeChar := by
  have h : s.toByteArray = s.toList.utf8Encode := by
    rw [← String.toByteArray_ofList, String.ofList_toList]
  rw [ofString, String.toUTF8_eq_toByteArray, h, ByteArray.toList, toList_loop_eq]
  exact List.toList_data_toByteArray

theorem toString?_ofString (s : String) : (ofString s).toString? = some s := by
  have h : ByteArray.mk (ofString s).toArray = s.toByteArray := by
    rw [ofString, String.toUTF8_eq_toByteArray, ByteArray.toList, toList_loop_eq]
    rfl
  rw [toString?, h, String.fromUTF8?, dif_pos s.isValidUTF8]
  rfl

/-! ## Order -/

theorem utf8EncodeChar_lt {c d : Char} (h : c < d) (cs ds : Bytes) :
    String.utf8EncodeChar c ++ cs < String.utf8EncodeChar d ++ ds := by
  have hlt : c.val.toNat < d.val.toNat := h
  have hd : d.val.toNat < 0x110000 := by
    have hvalid : d.val.toNat.isValidChar := d.valid
    unfold Nat.isValidChar at hvalid
    omega
  -- the bytes after the first one are digits of base 64
  have hthird : ∀ n : Nat, n / 4096 = n / 64 / 64 := fun n => by rw [Nat.div_div_eq_div_mul]
  have hfourth : ∀ n : Nat, n / 262144 = n / 64 / 64 / 64 := fun n => by
    rw [Nat.div_div_eq_div_mul, Nat.div_div_eq_div_mul]
  unfold String.utf8EncodeChar
  dsimp only
  split_ifs
  all_goals
    simp only [List.cons_append, List.nil_append, List.cons_lt_cons_iff, UInt8.lt_iff_toNat_lt,
      ← UInt8.toNat_inj, UInt8.toNat_ofNat', hthird, hfourth]
    omega

theorem flatMap_utf8EncodeChar_lt {cs ds : List Char} (h : cs < ds) :
    cs.flatMap String.utf8EncodeChar < ds.flatMap String.utf8EncodeChar := by
  induction h with
  | @nil d ds =>
    obtain ⟨b, bs, hd⟩ := List.exists_cons_of_ne_nil (String.utf8EncodeChar_ne_nil (c := d))
    rw [List.flatMap_cons, hd]
    exact List.nil_lt_cons b _
  | rel hlt => exact utf8EncodeChar_lt hlt _ _
  | @cons c cs ds _ ih =>
    rw [List.flatMap_cons, List.flatMap_cons]
    exact List.append_left_lt ih

/-- **Texts are in the order of their bytes.** -/
theorem ofString_lt_ofString {s t : String} : ofString s < ofString t ↔ s < t := by
  have hmono : ∀ {s t : String}, s < t → ofString s < ofString t := by
    intro s t h
    rw [ofString_eq, ofString_eq]
    exact flatMap_utf8EncodeChar_lt h
  refine ⟨fun h => ?_, hmono⟩
  obtain hst | rfl | hts := lt_trichotomy s t
  · exact hst
  · exact absurd h (List.lt_irrefl _)
  · exact absurd (hmono hts) (List.lt_asymm h)

end Telemetry.Bytes
