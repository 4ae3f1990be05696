import Stepper.Numeral.Strict
import Stepper.Proofs.Numeral.Hex
import Stepper.Proofs.Text.Layout

/-! Addresses as they are written for a configuration and for a dialog: hexadecimal in upper case behind the mark of the
base. The strict reader takes them as what they are, however many digits they have. -/

namespace Stepper.Numeral

open Text Unicode

/-- Digits without an underscore between them. -/
theorem strictDigits?_of_digits {base : Nat} {t : Text} (ne : t ≠ [])
    (h : ∀ c ∈ t, (strictDigit? base c).isSome = true) :
    strictDigits? base t = some (leadingDigits (strictDigit? base) t) := by
  have hscore : strictDigit? base '_' = none := by simp [strictDigit?, digit?, hexDigit?, Char.isDigit]
  fun_induction strictDigits? base t with
  | case1 => exact absurd rfl ne
  | case2 c =>
    obtain ⟨d, hd⟩ := Option.isSome_iff_exists.1 (h c (by simp))
    simp [leadingDigits, hd]
  | case3 c rest =>
    have := h '_' (by simp)
    simp [hscore] at this
  | case4 c rest hrest hunder ih =>
    obtain ⟨d, hd⟩ := Option.isSome_iff_exists.1 (h c (by simp))
    have hne : rest ≠ [] := by simpa using hrest
    rw [ih hne fun e he => h e (by simp [he])]
    simp [leadingDigits, hd]

theorem strictDigit?_toUpper : ∀ d < 16, strictDigit? 16 (Nat.digitChar d).toUpper = some d := by decide

theorem strictDigit?_of_mem_natHex {n : Nat} {c : Char} (h : c ∈ natHex n) : strictDigit? 16 c.toUpper = hexDigit? c := by
  obtain ⟨d, hd, rfl⟩ := exists_of_mem_natHex h
  rw [strictDigit?_toUpper d hd, hexDigit?_digitChar d hd]

theorem strictDigits?_natHexUpper (n : Nat) : ∃ ds, strictDigits? 16 (natHexUpper n) = some ds ∧ ofDigits 16 ds = n := by
  refine ⟨_, strictDigits?_of_digits (natHexUpper_ne_nil n) ?_, ?_⟩
  · intro c hc
    obtain ⟨x, hx, rfl⟩ := List.mem_map.1 hc
    rw [strictDigit?_of_mem_natHex hx]
    exact isHexDigit_of_mem_natHex hx
  · change ofDigits 16 (leadingDigits (strictDigit? 16) ((natHex n).map Char.toUpper)) = n
    rw [leadingDigits_map fun c hc => strictDigit?_of_mem_natHex hc, ofDigits_natHex]

/-- An address as it is written. -/
def written (n : Nat) : Text :=
  '0' :: 'x' :: natHexUpper n

theorem written_eq (n : Nat) : ("0x" : Text) ++ hexUpper n = written n := by
  have : ¬ ((n : Int) < 0) := by omega
  simp [written, hexUpper, signed, this]

theorem trim_written (n : Nat) : trim (written n) = written n := by
  have hblank : ∀ d < 16, isBlank (Nat.digitChar d).toUpper = false := by decide
  refine trim_of_trimmed (Solid.trimmed fun c hc => ?_)
  rcases List.mem_cons.1 hc with rfl | hc
  · decide
  rcases List.mem_cons.1 hc with rfl | hc
  · decide
  obtain ⟨x, hx, rfl⟩ := List.mem_map.1 hc
  obtain ⟨d, hd, rfl⟩ := exists_of_mem_natHex hx
  exact hblank d hd

theorem readStrict_written (n : Nat) : readStrict (written n) = .ok n := by
  obtain ⟨ds, hds, hn⟩ := strictDigits?_natHexUpper n
  obtain ⟨c, t, hct⟩ := List.exists_cons_of_ne_nil (natHexUpper_ne_nil n)
  have hscore : c ≠ '_' := by
    have := isHexDigit_of_mem_natHexUpper (n := n) (c := c) (by simp [hct])
    rintro rfl
    exact absurd this (by decide)
  have hmark : hasHexMark (written n) = true := rfl
  have hdrop : (written n).drop 2 = c :: t := hct
  unfold readStrict
  rw [hct] at hds
  simp [trim_written, hmark, hdrop, hscore, hds, hn]

theorem readAddress_written (n : Nat) : readAddress (written n) = .ok n := by
  rw [readAddress, readStrict_written]
  rfl

end Stepper.Numeral
