import Mathlib.Data.List.Basic
import Stepper.Text.Basic
import Stepper.Unicode.Case

/-! Characters by their codes. What is asked of some characters can be decided over the list of their codes. The
ASCII characters are those with the first 128 codes, and their letter case is that of core. -/

namespace Stepper.Unicode

theorem toNat_ofNat_of_valid {n : Nat} (h : n.isValidChar) : (Char.ofNat n).toNat = n := by
  rw [Char.ofNat, dif_pos h]
  rfl

theorem toNat_ofNat_of_not_valid {n : Nat} (h : ¬ n.isValidChar) : (Char.ofNat n).toNat = 0 := by
  rw [Char.ofNat, dif_neg h]
  rfl

theorem of_code {P : Char → Prop} {codes : Nat → Prop} (hP : ∀ n, codes n → P (Char.ofNat n)) {c : Char}
    (h : codes c.toNat) : P c :=
  Char.ofNat_toNat c ▸ hP c.toNat h

/-! ### ASCII -/

theorem lowerAfter_of_ascii {t : Text} (h : ∀ c ∈ t, c.toNat < 128) (seen : Text) :
    lowerAfter seen t = t.map Char.toLower := by
  induction t generalizing seen with
  | nil => rfl
  | cons c t ih =>
    have hc := h c (by simp)
    have hsigma : ¬ c.toNat = 0x3A3 := by omega
    simp [lowerAfter, hsigma, lowerChar_ascii hc, ih fun d hd => h d (by simp [hd])]

theorem lower_of_ascii {t : Text} (h : ∀ c ∈ t, c.toNat < 128) : lower t = t.map Char.toLower :=
  lowerAfter_of_ascii h []

/-- What holds of every ASCII character by its code holds of the character. -/
theorem of_ascii {P : Char → Prop} (hP : ∀ n < 128, P (Char.ofNat n)) {c : Char} (hc : c.toNat < 128) : P c :=
  of_code hP hc

theorem ascii_of_isUpper {c : Char} (h : c.isUpper = true) : c.toNat < 128 := by
  have hle : c.val ≤ 'Z'.val := (of_decide_eq_true h).2
  exact Nat.lt_of_le_of_lt (UInt32.le_iff_toNat_le.1 hle) (by decide)

theorem ascii_of_isLower {c : Char} (h : c.isLower = true) : c.toNat < 128 := by
  have hle : c.val ≤ 'z'.val := of_decide_eq_true (Bool.and_eq_true_iff.1 h).2
  exact Nat.lt_of_le_of_lt (UInt32.le_iff_toNat_le.1 hle) (by decide)

theorem ascii_of_isDigit {c : Char} (h : c.isDigit = true) : c.toNat < 128 := by
  have hle : c.val ≤ '9'.val := of_decide_eq_true (Bool.and_eq_true_iff.1 h).2
  exact Nat.lt_of_le_of_lt (UInt32.le_iff_toNat_le.1 hle) (by decide)

end Stepper.Unicode
