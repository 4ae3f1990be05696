import Stepper.Proofs.Numeral.Digits

/-! Written hexadecimal numbers read back. The digits of a number, with zeros in front of them or not, have
the number as their value. -/

namespace Stepper.Numeral

theorem hexDigit?_digitChar : ∀ d < 16, hexDigit? (Nat.digitChar d) = some d := by decide

theorem exists_of_mem_natHex {n : Nat} {c : Char} (h : c ∈ natHex n) : ∃ d < 16, c = Nat.digitChar d :=
  exists_of_mem_toDigits (by decide) h

theorem isHexDigit_of_mem_natHex {n : Nat} {c : Char} (h : c ∈ natHex n) : isHexDigit c = true := by
  obtain ⟨d, hd, rfl⟩ := exists_of_mem_natHex h
  simp [isHexDigit, hexDigit?_digitChar d hd]

theorem ofDigits_natHex (n : Nat) : ofDigits 16 (leadingDigits hexDigit? (natHex n)) = n :=
  ofDigits_toDigits (by decide) hexDigit?_digitChar n

theorem natHex_ne_nil (n : Nat) : natHex n ≠ [] := Nat.toDigits_ne_nil

theorem mem_padTo {w : Nat} {ds : Text} {c : Char} (h : c ∈ padTo w ds) : c = '0' ∨ c ∈ ds := by
  rcases List.mem_append.1 h with h | h
  · exact .inl (List.eq_of_mem_replicate h)
  · exact .inr h

theorem isHexDigit_of_mem_padTo {w n : Nat} {c : Char} (h : c ∈ padTo w (natHex n)) : isHexDigit c = true := by
  rcases mem_padTo h with rfl | h
  · decide
  · exact isHexDigit_of_mem_natHex h

theorem padTo_ne_nil (w n : Nat) : padTo w (natHex n) ≠ [] := by
  simp [padTo, natHex_ne_nil]

theorem ofDigits_padTo_eq (w : Nat) (digits : Text) :
    ofDigits 16 (leadingDigits hexDigit? (padTo w digits)) = ofDigits 16 (leadingDigits hexDigit? digits) :=
  ofDigits_zeros (by decide) 16 _ digits

theorem ofDigits_padTo (w n : Nat) : ofDigits 16 (leadingDigits hexDigit? (padTo w (natHex n))) = n := by
  rw [ofDigits_padTo_eq, ofDigits_natHex]

theorem column_natHex (w n : Nat) : column natHex w (n : Int) = padTo w (natHex n) := by
  have : ¬ ((n : Int) < 0) := by omega
  simp [column, this]

theorem shown_ofNat (n : Nat) : shown (n : Int) = '0' :: 'x' :: natHex n := by
  have : ¬ ((n : Int) < 0) := by omega
  simp [shown, hex, signed, this]

/-! ### Upper case -/

theorem natHexUpper_ne_nil (n : Nat) : natHexUpper n ≠ [] := by
  simp [natHexUpper]

theorem hexDigit?_toUpper : ∀ d < 16, hexDigit? (Nat.digitChar d).toUpper = hexDigit? (Nat.digitChar d) := by decide

theorem isHexDigit_of_mem_natHexUpper {n : Nat} {c : Char} (h : c ∈ natHexUpper n) : isHexDigit c = true := by
  obtain ⟨c, hc, rfl⟩ := List.mem_map.1 h
  obtain ⟨d, hd, rfl⟩ := exists_of_mem_natHex hc
  rw [isHexDigit, hexDigit?_toUpper d hd, hexDigit?_digitChar d hd]
  rfl

theorem ofDigits_natHexUpper (n : Nat) : ofDigits 16 (leadingDigits hexDigit? (natHexUpper n)) = n := by
  have hupper : ∀ c ∈ natHex n, hexDigit? c.toUpper = hexDigit? c := by
    intro c hc
    obtain ⟨d, hd, rfl⟩ := exists_of_mem_natHex hc
    exact hexDigit?_toUpper d hd
  change ofDigits 16 (leadingDigits hexDigit? ((natHex n).map Char.toUpper)) = n
  rw [leadingDigits_map hupper, ofDigits_natHex]

theorem isHexDigit_of_mem_padTo_natHexUpper {w n : Nat} {c : Char} (h : c ∈ padTo w (natHexUpper n)) :
    isHexDigit c = true := by
  rcases mem_padTo h with rfl | h
  · decide
  · exact isHexDigit_of_mem_natHexUpper h

theorem padTo_natHexUpper_inj {w n n' : Nat} (h : padTo w (natHexUpper n) = padTo w (natHexUpper n')) : n = n' := by
  rw [← ofDigits_natHexUpper n, ← ofDigits_natHexUpper n', ← ofDigits_padTo_eq w, h, ofDigits_padTo_eq]

/-- A number in a column has digits, and a sign if it is negative. -/
theorem mem_column_natHexUpper {w : Nat} {v : Int} {c : Char} (h : c ∈ column natHexUpper w v) :
    c = '-' ∨ isHexDigit c = true := by
  unfold column at h
  split at h
  · exact (List.mem_cons.1 h).imp_right isHexDigit_of_mem_padTo_natHexUpper
  · exact .inr (isHexDigit_of_mem_padTo_natHexUpper h)

theorem sign_notMem_padTo_natHexUpper {w n : Nat} {t : Text} (h : '-' :: t = padTo w (natHexUpper n)) : False := by
  have := isHexDigit_of_mem_padTo_natHexUpper (w := w) (n := n) (c := '-') (by simp [← h])
  exact absurd this (by decide)

/-- Different numbers look different in a column. -/
theorem column_natHexUpper_inj {w : Nat} {v v' : Int} (h : column natHexUpper w v = column natHexUpper w v') : v = v' := by
  unfold column at h
  split at h
  · split at h
    · have := padTo_natHexUpper_inj (List.cons.inj h).2
      omega
    · exact (sign_notMem_padTo_natHexUpper h).elim
  · split at h
    · exact (sign_notMem_padTo_natHexUpper h.symm).elim
    · have := padTo_natHexUpper_inj h
      omega

end Stepper.Numeral
