import Telemetry.Bytes.Base64

/-!
# Base 64 is read back

* `base64Value?_base64Digit`: a digit is read back as the number it was written for.
* **`Bytes.ofBase64Chars?_base64Chars`**: so is a byte string, group by group.
-/

namespace Telemetry

theorem base64Value?_base64Digit {n : Nat} (h : n < 64) :
    base64Value? (base64Digit n) = some n := by
  have hall : ∀ n < 64, base64Value? (base64Digit n) = some n := by decide
  exact hall n h

theorem base64Digit_ne_padding {n : Nat} (h : n < 64) : base64Digit n ≠ '=' := by
  have hall : ∀ n < 64, base64Digit n ≠ '=' := by decide
  exact hall n h

namespace Bytes

theorem ofNat_eq_of_eq_toNat {n : Nat} {b : UInt8} (h : n = b.toNat) : UInt8.ofNat n = b := by
  rw [h, UInt8.ofNat_toNat]

/-- **A byte string is read back from its digits.** -/
theorem ofBase64Chars?_base64Chars :
    (bytes : Bytes) → ofBase64Chars? bytes.base64Chars = some bytes
  | [] => rfl
  | [a] => by
    have ha := a.toNat_lt
    have hw := base64Value?_base64Digit (n := a.toNat / 4) (by omega)
    have hx := base64Value?_base64Digit (n := a.toNat % 4 * 16) (by omega)
    have hpad : a.toNat % 4 * 16 % 16 = 0 := by omega
    rw [base64Chars, ofBase64Chars?, hw, hx]
    simp only [Option.bind_eq_bind, Option.bind_some, if_true, hpad, and_self]
    rw [ofNat_eq_of_eq_toNat (b := a) (by omega)]
    rfl
  | [a, b] => by
    have ha := a.toNat_lt
    have hb := b.toNat_lt
    have hw := base64Value?_base64Digit (n := a.toNat / 4) (by omega)
    have hx := base64Value?_base64Digit (n := a.toNat % 4 * 16 + b.toNat / 16) (by omega)
    have hy := base64Value?_base64Digit (n := b.toNat % 16 * 4) (by omega)
    have hy' := base64Digit_ne_padding (n := b.toNat % 16 * 4) (by omega)
    have hpad : b.toNat % 16 * 4 % 4 = 0 := by omega
    rw [base64Chars, ofBase64Chars?, hw, hx]
    simp only [Option.bind_eq_bind, Option.bind_some, if_neg hy', hy, if_true, hpad, and_self]
    rw [ofNat_eq_of_eq_toNat (b := a) (by omega), ofNat_eq_of_eq_toNat (b := b) (by omega)]
    rfl
  | a :: b :: c :: rest => by
    have ha := a.toNat_lt
    have hb := b.toNat_lt
    have hc := c.toNat_lt
    have hw := base64Value?_base64Digit (n := a.toNat / 4) (by omega)
    have hx := base64Value?_base64Digit (n := a.toNat % 4 * 16 + b.toNat / 16) (by omega)
    have hy := base64Value?_base64Digit (n := b.toNat % 16 * 4 + c.toNat / 64) (by omega)
    have hy' := base64Digit_ne_padding (n := b.toNat % 16 * 4 + c.toNat / 64) (by omega)
    have hz := base64Value?_base64Digit (n := c.toNat % 64) (by omega)
    have hz' := base64Digit_ne_padding (n := c.toNat % 64) (by omega)
    rw [base64Chars, ofBase64Chars?, hw, hx]
    simp only [Option.bind_eq_bind, Option.bind_some, if_neg hy', hy, if_neg hz', hz,
      ofBase64Chars?_base64Chars rest]
    rw [ofNat_eq_of_eq_toNat (b := a) (by omega), ofNat_eq_of_eq_toNat (b := b) (by omega),
      ofNat_eq_of_eq_toNat (b := c) (by omega)]
    rfl

end Bytes

end Telemetry
