import Mathlib.Algebra.Order.Ring.Int
import Stepper.Numeral.Limit
import Stepper.Proofs.Numeral.Digits

/-! How many digits a number has. What is short enough is read and written, and what is longer is neither. -/

namespace Stepper.Numeral

open Unicode

theorem length_leadingDigits_of_digits {digit? : Char → Option Nat} {t : Text}
    (h : ∀ c ∈ t, (digit? c).isSome = true) : (leadingDigits digit? t).length = t.length := by
  induction t with
  | nil => rfl
  | cons c t ih =>
    obtain ⟨d, hd⟩ := Option.isSome_iff_exists.1 (h c List.mem_cons_self)
    simp [leadingDigits, hd, ih fun e he => h e (List.mem_cons_of_mem _ he)]

theorem digit?_digitChar : ∀ d < 10, digit? (Nat.digitChar d) = some d := by decide

theorem ofDigits_leadingDigits_natDecimal (n : Nat) : ofDigits 10 (leadingDigits digit? (natDecimal n)) = n :=
  ofDigits_toDigits (by decide) digit?_digitChar n

theorem length_leadingDigits_natDecimal (n : Nat) : (leadingDigits digit? (natDecimal n)).length = (natDecimal n).length :=
  length_leadingDigits_of_digits fun c hc => by
    obtain ⟨d, hd, rfl⟩ := exists_of_mem_toDigits (by decide) hc
    rw [digit?_digitChar d hd]
    rfl

theorem length_natDecimal_le_iff {n k : Nat} (hk : 0 < k) : (natDecimal n).length ≤ k ↔ n < 10 ^ k :=
  Nat.length_toDigits_le_iff (by decide) hk

/-- The numbers that can be written. -/
def Writable (v : Int) : Prop :=
  v.natAbs < 10 ^ digitLimit

theorem ofDecimalDigits_of_le {ds : List Nat} (h : ds.length ≤ digitLimit) : ofDecimalDigits ds = .ok (ofDigits 10 ds) :=
  if_neg (Nat.not_lt.2 h)

theorem ofDecimalDigits_of_lt {ds : List Nat} (h : digitLimit < ds.length) :
    ofDecimalDigits ds = .error (.reading ds.length) :=
  if_pos h

theorem ofDecimalDigits_natDecimal {n : Nat} (h : (natDecimal n).length ≤ digitLimit) :
    ofDecimalDigits (leadingDigits digit? (natDecimal n)) = .ok n := by
  rw [ofDecimalDigits_of_le (by rwa [length_leadingDigits_natDecimal]), ofDigits_leadingDigits_natDecimal]

theorem writable_iff {v : Int} : Writable v ↔ (natDecimal v.natAbs).length ≤ digitLimit :=
  (length_natDecimal_le_iff (by decide)).symm

theorem writeDecimal_of_writable {v : Int} (h : Writable v) : writeDecimal v = .ok (decimal v) :=
  if_neg (Nat.not_lt.2 (writable_iff.1 h))

theorem writeDecimal_of_not_writable {v : Int} (h : ¬ Writable v) : writeDecimal v = .error .writing :=
  if_pos (Nat.lt_of_not_le fun hle => h (writable_iff.2 hle))

/-- Words and everything near them can be written. -/
theorem writable_of_lt {v : Int} (h : v.natAbs < 10 ^ 40) : Writable v :=
  Nat.lt_of_lt_of_le h (Nat.pow_le_pow_right (by decide) (by decide))

end Stepper.Numeral
