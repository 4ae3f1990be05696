import Stepper.Numeral.Lenient
import Stepper.Proofs.Numeral.Hex
import Stepper.Proofs.Numeral.Limit
import Stepper.Proofs.Text.Layout

/-! Numbers as they are shown, typed into a field. The reader of a register takes a decimal number for itself, and the
reader of words a hexadecimal one, as long as it is a word. -/

namespace Stepper.Numeral

open Text Unicode

theorem splitSign_trimStart {c : Char} (hblank : isBlank c = false) (hplus : c ≠ '+') (hminus : c ≠ '-') (t : Text) :
    splitSign (trimStart (c :: t)) = (false, c :: t) := by
  have htrim : trimStart (c :: t) = c :: t := trimStart_of_head (by simpa using hblank)
  rw [htrim]
  unfold splitSign
  split
  · next heq => exact absurd (List.cons.inj heq).1 hplus
  · next heq => exact absurd (List.cons.inj heq).1 hminus
  · rfl

/-- The decimal digits of a number are read as it, if there are not too many of them. -/
theorem readDecimal_natDecimal {n : Nat} (h : (natDecimal n).length ≤ digitLimit) : readDecimal (natDecimal n) = .ok n := by
  have hhead : ∀ d < 10, isBlank (Nat.digitChar d) = false ∧ Nat.digitChar d ≠ '+' ∧ Nat.digitChar d ≠ '-' := by decide
  obtain ⟨c, t, hct⟩ := List.exists_cons_of_ne_nil (natDecimal_ne_nil n)
  obtain ⟨d, hd, rfl⟩ : ∃ d < 10, c = Nat.digitChar d :=
    exists_of_mem_toDigits (n := n) (by decide) (by rw [← natDecimal, hct]; exact List.mem_cons_self)
  obtain ⟨hblank, hplus, hminus⟩ := hhead d hd
  have hvalue := ofDecimalDigits_natDecimal h
  rw [hct] at hvalue
  rw [readDecimal, hct, splitSign_trimStart hblank hplus hminus]
  simp [hvalue, Except.map]

theorem readMagnitude_hex {x d : Char} (hx : x = 'x' ∨ x = 'X') (hd : isHexDigit d = true) (t : Text) :
    readMagnitude ('0' :: x :: d :: t) = .ok (ofDigits 16 (leadingDigits hexDigit? (d :: t))) := by
  rw [readMagnitude, if_pos]
  simpa using ⟨hx, hd⟩

theorem readWord_shown {v : Nat} (h : v < Word.limit) : readWord (shown v) = .ok v := by
  obtain ⟨d, t, hdt⟩ := List.exists_cons_of_ne_nil (natHex_ne_nil v)
  have hd : isHexDigit d = true := isHexDigit_of_mem_natHex (n := v) (by rw [hdt]; exact List.mem_cons_self)
  have hvalue := ofDigits_natHex v
  rw [hdt] at hvalue
  rw [readWord, shown_ofNat, hdt, splitSign_trimStart (by decide) (by decide) (by decide)]
  simp only [readMagnitude_hex (.inl rfl) hd, hvalue, Except.map, if_neg (Nat.not_le.2 h)]
  rfl

/-! ### Lengths -/

theorem shown_ne_nil (v : Int) : shown v ≠ [] := by
  simp [shown]

/-- A word is shown in two characters for the base and sixteen for its digits at most. -/
theorem length_shown_le {v : Nat} (h : v < Word.limit) : (shown v).length ≤ 18 := by
  have hdigits : (natHex v).length ≤ 16 := (Nat.length_toDigits_le_iff (by decide) (by decide)).2 h
  rw [shown_ofNat, List.length_cons, List.length_cons]
  omega

theorem length_natDecimal_le {n : Nat} (h : n < 100) : (natDecimal n).length ≤ 2 :=
  (Nat.length_toDigits_le_iff (by decide) (by decide)).2 h

end Stepper.Numeral
